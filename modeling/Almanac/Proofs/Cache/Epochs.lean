import Mathlib
import Almanac.Proofs.Cache.Sound

/-!
# Epochs of a cache

While suppliers only answer and leave the cache alone, a run is divided into epochs by its resets
and invalidations, and a cache answers as if it began anew with each.

* `Use.IsPlain`: the supplier, where one is set, only answers. `epochOf`: the present epoch.
* `Journal.perform_of_slot` and `perform_of_no_slot`: what one use adds to the journal.
* `Journal.exists_handout_iff`: in this epoch the journal has the places that were asked for.
* `Journal.same_iff_of_plain`: when two instances of a run are the same.
* **`Desk.follows_epochs`**: instances, calls of the supplier and the size, by epochs.
-/

namespace Almanac

/-- The supplier that a use sets, if any, gives a calendar and does not touch the cache. -/
def Use.IsPlain : Use → Prop
  | .supply supplier => ∃ calendar, supplier = .give calendar
  | _ => True

/-- The uses since the last one that begins an epoch. -/
def epochOf (uses : List Use) : List Use := uses.rtakeWhile fun u => !u.beginsEpoch

/-- The calendar that a use asks for by its settings. -/
def Use.asked? : Use → Option Calendar
  | .fixed calendar => some calendar
  | _ => none

theorem Use.asked?_eq_some_iff {u : Use} {calendar : Calendar} :
    u.asked? = some calendar ↔ u.slot? = some (.fixed calendar) := by
  cases u <;> simp [asked?, slot?]

theorem Use.isPlain_of_slot {u : Use} {slot : Slot} (h : u.slot? = some slot) : u.IsPlain := by
  cases u with
  | supply => exact nomatch h
  | _ => trivial

theorem Use.not_beginsEpoch_of_slot {u : Use} {slot : Slot} (h : u.slot? = some slot) :
    ¬ u.beginsEpoch := by
  cases u with
  | reset | invalidate => exact nomatch h
  | _ => exact Bool.false_ne_true

theorem epochOf_concat (uses : List Use) (u : Use) :
    epochOf (uses ++ [u]) = if u.beginsEpoch then [] else epochOf uses ++ [u] := by
  rw [epochOf, List.rtakeWhile_concat]
  cases u.beginsEpoch <;> rfl

namespace Journal

theorem after_append (j : Journal) (uses more : List Use) :
    j.after (uses ++ more) = (j.after uses).after more :=
  List.foldl_append

theorem after_concat (j : Journal) (uses : List Use) (u : Use) :
    j.after (uses ++ [u]) = ((j.after uses).perform u).2 :=
  j.after_append uses [u]

/-! ## One use under a plain supplier -/

/-- The supplier gives a calendar and does not touch the cache. -/
def IsPlain (j : Journal) : Prop := ∃ calendar, j.supplier = .give calendar

variable {j : Journal}

theorem current_of_held {known : Instance}
    (hheld : j.session.refresh.cache.get? .current = some known) :
    j.current = j.handOut .current known j.session.refresh := by
  change j.session.refresh.cache.current = some known at hheld
  simp only [current, obtain, hheld]

theorem current_of_empty {calendar : Calendar} (h : j.supplier = .give calendar)
    (hempty : j.session.refresh.cache.get? .current = none) :
    (j.current.1.calendar = calendar ∧ j.current.2.session.requests = j.session.requests + 1) ∧
      j.current.2.handouts = ⟨.current, j.current.1, j.epoch⟩ :: j.handouts ∧
      j.current.2.epoch = j.epoch ∧ j.current.2.supplier = j.supplier := by
  change j.session.refresh.cache.current = none at hempty
  -- the cache has not been touched, so the place is still empty when the answer is there
  have hstill : ({ j.session.refresh with
      requests := j.session.refresh.requests + 1
      nextId := j.session.refresh.nextId + 1 } : Session).refresh.cache.current = none := by
    change j.session.refresh.refresh.cache.current = none
    rw [Session.refresh_refresh, hempty]
  simp only [current, obtain, h, hempty, Supplier.record, Session.build, Session.keepCurrent, hstill]
  exact ⟨⟨rfl, rfl⟩, rfl, rfl, rfl⟩

theorem current_of_isPlain (h : j.IsPlain) :
    j.current.2.handouts = ⟨.current, j.current.1, j.epoch⟩ :: j.handouts ∧
      j.current.2.epoch = j.epoch ∧ j.current.2.supplier = j.supplier := by
  obtain ⟨calendar, h⟩ := h
  cases hcur : j.session.refresh.cache.get? .current with
  | some known =>
    rw [current_of_held hcur]
    exact ⟨rfl, rfl, rfl⟩
  | none => exact (current_of_empty h hcur).2

theorem perform_current {u : Use} (h : u.slot? = some .current) :
    j.perform u = (some j.current.1, j.current.2) := by
  cases u with
  | current | latest => rfl
  | fixed | size | reset | invalidate | supply => exact nomatch h

theorem perform_of_slot (h : j.IsPlain) {u : Use} {slot : Slot} (hslot : u.slot? = some slot) :
    ∃ found, (j.perform u).1 = some found ∧
      (j.perform u).2.handouts = ⟨slot, found, j.epoch⟩ :: j.handouts ∧
      (j.perform u).2.epoch = j.epoch := by
  obtain ⟨hhandouts, hepoch, -⟩ := current_of_isPlain h
  cases u with
  | fixed asked =>
    obtain rfl := Option.some.inj hslot
    exact ⟨_, rfl, rfl, rfl⟩
  | current | latest =>
    obtain rfl := Option.some.inj hslot
    exact ⟨_, rfl, hhandouts, hepoch⟩
  | size | reset | invalidate | supply => exact nomatch hslot

theorem perform_of_no_slot {u : Use} (hslot : u.slot? = none) :
    (j.perform u).2.handouts = j.handouts ∧
      (j.perform u).2.epoch = j.epoch + if u.beginsEpoch then 1 else 0 := by
  cases u with
  | fixed | current | latest => exact nomatch hslot
  | size | reset | invalidate | supply => exact ⟨rfl, rfl⟩

theorem IsPlain.perform (h : j.IsPlain) {u : Use} (hu : u.IsPlain) : (j.perform u).2.IsPlain := by
  obtain ⟨-, -, hsupplier⟩ := current_of_isPlain h
  obtain ⟨calendar, h⟩ := h
  cases u with
  | fixed | size | reset | invalidate => exact ⟨calendar, h⟩
  | current | latest => exact ⟨calendar, hsupplier.trans h⟩
  | supply supplier => exact hu

theorem epoch_perform (h : j.IsPlain) (u : Use) :
    (j.perform u).2.epoch = j.epoch + if u.beginsEpoch then 1 else 0 := by
  cases hslot : u.slot? with
  | none => exact (perform_of_no_slot hslot).2
  | some slot =>
    obtain ⟨found, -, -, hepoch⟩ := perform_of_slot h hslot
    rw [hepoch, if_neg (Use.not_beginsEpoch_of_slot hslot), add_zero]

theorem handouts_subset_perform (h : j.IsPlain) (u : Use) :
    j.handouts ⊆ (j.perform u).2.handouts := by
  cases hslot : u.slot? with
  | none =>
    rw [(perform_of_no_slot hslot).1]
    exact List.Subset.refl _
  | some slot =>
    obtain ⟨found, -, hhandouts, -⟩ := perform_of_slot h hslot
    rw [hhandouts]
    exact List.subset_cons_self _ _

/-! ## Runs under plain suppliers -/

theorem IsPlain.after (h : j.IsPlain) {uses : List Use} (huses : ∀ u ∈ uses, u.IsPlain) :
    (j.after uses).IsPlain := by
  induction uses generalizing j with
  | nil => exact h
  | cons u uses ih =>
    rw [List.forall_mem_cons] at huses
    exact ih (h.perform huses.1) huses.2

theorem epoch_after (h : j.IsPlain) {uses : List Use} (huses : ∀ u ∈ uses, u.IsPlain) :
    (j.after uses).epoch = j.epoch + uses.countP Use.beginsEpoch := by
  induction uses generalizing j with
  | nil => rfl
  | cons u uses ih =>
    rw [List.forall_mem_cons] at huses
    have hnext := ih (h.perform huses.1) huses.2
    rw [epoch_perform h] at hnext
    rw [List.countP_cons, after, List.foldl_cons]
    exact hnext.trans (by omega)

theorem handouts_subset_after (h : j.IsPlain) {uses : List Use} (huses : ∀ u ∈ uses, u.IsPlain) :
    j.handouts ⊆ (j.after uses).handouts := by
  induction uses generalizing j with
  | nil => exact List.Subset.refl _
  | cons u uses ih =>
    rw [List.forall_mem_cons] at huses
    exact List.Subset.trans (handouts_subset_perform h u) (ih (h.perform huses.1) huses.2)

/-- In a plain run, the journal of this epoch has the places that were asked for in this epoch. -/
theorem exists_handout_iff (calendar : Calendar) {uses : List Use}
    (huses : ∀ u ∈ uses, u.IsPlain) (slot : Slot) :
    (∃ found, ⟨slot, found, (after { supplier := .give calendar } uses).epoch⟩ ∈
      (after { supplier := .give calendar } uses).handouts) ↔
    ∃ u ∈ epochOf uses, u.slot? = some slot := by
  induction uses using List.reverseRecOn with
  | nil => simp [after, epochOf]
  | append_singleton uses u ih =>
    rw [List.forall_mem_append] at huses
    have hstart : IsPlain { supplier := .give calendar } := ⟨calendar, rfl⟩
    have hplain := hstart.after huses.1
    have hsound := (Sound.start (.give calendar)).after uses
    have hbefore := ih huses.1
    rw [after_concat, epochOf_concat]
    generalize after { supplier := .give calendar } uses = j at *
    cases hslot : u.slot? with
    | none =>
      obtain ⟨hhandouts, hepoch⟩ := perform_of_no_slot (j := j) hslot
      rw [hhandouts, hepoch]
      split_ifs with hu
      · -- no epoch has been noted before it begins
        refine iff_of_false ?_ (by simp)
        rintro ⟨found, hmem⟩
        have := hsound.epoch_le _ hmem
        dsimp only at this
        omega
      · rw [add_zero, hbefore]
        simp [hslot]
    | some asked =>
      obtain ⟨found, -, hhandouts, hepoch⟩ := perform_of_slot hplain hslot
      rw [hhandouts, hepoch, if_neg (Use.not_beginsEpoch_of_slot hslot)]
      have hnew : (∃ other, (⟨slot, other, j.epoch⟩ : Handout) = ⟨asked, found, j.epoch⟩) ↔
          asked = slot := by simp [eq_comm]
      simp only [List.mem_cons, exists_or, hnew, hbefore]
      simp [or_and_right, exists_or, hslot, or_comm]

/-- Two instances that are handed out in a plain run are the same if and only if they come from the
same place in the same epoch. -/
theorem same_iff_of_plain (hsound : j.Sound) (hplain : j.IsPlain) {between : List Use}
    (hbetween : ∀ w ∈ between, w.IsPlain) {u v : Use} {slot slot' : Slot}
    (hu : u.slot? = some slot) (hv : v.slot? = some slot') :
    ∃ a b, (j.perform u).1 = some a ∧ ((j.after (u :: between)).perform v).1 = some b ∧
      (a.id = b.id → a = b) ∧
      (a.id = b.id ↔ slot = slot' ∧ ∀ w ∈ between, w.beginsEpoch = false) := by
  obtain ⟨a, ha, hnoted, hepoch⟩ := perform_of_slot hplain hu
  have hfirst := hplain.perform (Use.isPlain_of_slot hu)
  have hepochs : (j.after (u :: between)).epoch = j.epoch + between.countP Use.beginsEpoch :=
    hepoch ▸ epoch_after hfirst hbetween
  have hstays : ⟨slot, a, j.epoch⟩ ∈ (j.after (u :: between)).handouts :=
    handouts_subset_after hfirst hbetween (hnoted ▸ List.mem_cons_self)
  have hplain' : (j.after (u :: between)).IsPlain := hfirst.after hbetween
  have hsound' := (hsound.after (u :: between)).perform v
  generalize j.after (u :: between) = k at *
  obtain ⟨b, hb, hnoted', hepoch'⟩ := perform_of_slot hplain' hv
  have hmem : ⟨slot, a, j.epoch⟩ ∈ (k.perform v).2.handouts := by
    rw [hnoted']
    exact List.mem_cons_of_mem _ hstays
  have hmem' : ⟨slot', b, k.epoch⟩ ∈ (k.perform v).2.handouts := by
    rw [hnoted']
    exact List.mem_cons_self
  have hids : a.id = b.id ↔ slot = slot' ∧ j.epoch = k.epoch := hsound'.same_iff _ hmem _ hmem'
  have hsame : j.epoch = k.epoch ↔ ∀ w ∈ between, w.beginsEpoch = false := by
    rw [hepochs, Nat.left_eq_add, List.countP_eq_zero]
    simp only [Bool.not_eq_true]
  refine ⟨a, b, ha, hb, fun hid => ?_, hids.trans (and_congr_right' hsame)⟩
  -- both are what the place holds now
  obtain ⟨rfl, hnow⟩ := hids.mp hid
  rw [hnow, ← hepoch', ← hsound'.held_iff] at hmem
  rw [← hepoch', ← hsound'.held_iff, hmem] at hmem'
  exact Option.some.inj hmem'

theorem get?_eq_none_iff (calendar : Calendar) {uses : List Use} (huses : ∀ u ∈ uses, u.IsPlain)
    (slot : Slot) :
    (after { supplier := .give calendar } uses).session.refresh.cache.get? slot = none ↔
      ∀ u ∈ epochOf uses, u.slot? ≠ some slot := by
  have hsound := (Sound.start (.give calendar)).after uses
  have hasked := not_congr (exists_handout_iff calendar huses slot)
  push Not at hasked
  rw [← hasked, Option.eq_none_iff_forall_ne_some]
  exact forall_congr' fun found => not_congr (hsound.held_iff slot found)

theorem length_fixed (calendar : Calendar) {uses : List Use} (huses : ∀ u ∈ uses, u.IsPlain) :
    (after { supplier := .give calendar } uses).session.refresh.cache.fixed.length =
      ((epochOf uses).filterMap Use.asked?).toFinset.card := by
  have hnodup := ((Sound.start (.give calendar)).after uses).refresh.fixed_nodup
  dsimp only at hnodup
  rw [← List.length_map Instance.calendar, ← List.toFinset_card_of_nodup hnodup]
  congr 1
  ext asked
  have hempty := not_congr (get?_eq_none_iff calendar huses (.fixed asked))
  rw [Cache.get?_eq_none_iff, not_not] at hempty
  push Not at hempty
  simp only [List.mem_toFinset, hempty, List.mem_filterMap, Use.asked?_eq_some_iff]

end Journal

namespace Desk

theorem requests_perform (d : Desk) {u : Use} (h : u.slot? ≠ some .current) :
    (d.perform u).2.session.requests = d.session.requests := by
  cases u with
  | current | latest => exact absurd rfl h
  | fixed calendar =>
    simp only [perform, Session.fixed]
    cases d.session.refresh.cache.find? calendar <;> rfl
  | size | reset | invalidate | supply => rfl

/-- **A cache begins anew with each reset and each invalidation.** Two instances are the same if
and only if they come from the same place, that of equal settings or that of the current calendar,
in the same epoch. The supplier is asked once in an epoch, when the current calendar is first asked
for, and gives the settings of the current instance. The size counts the calendars that have been
asked for by their settings in the epoch. -/
theorem follows_epochs (calendar : Calendar) (before : List Use)
    (hbefore : ∀ u ∈ before, u.IsPlain) :
    let d := after { supplier := .give calendar } before
    (∀ u slot, u.slot? = some slot → ∀ between : List Use, (∀ w ∈ between, w.IsPlain) →
      ∀ v slot', v.slot? = some slot' →
        ∃ a b, (d.perform u).1 = some a ∧ ((d.after (u :: between)).perform v).1 = some b ∧
          (a.id = b.id → a = b) ∧
          (a.id = b.id ↔ slot = slot' ∧ ∀ w ∈ between, w.beginsEpoch = false)) ∧
    (∀ asked, ∃ a, (d.perform (.fixed asked)).1 = some a ∧ a.calendar = asked) ∧
    (∀ u, u.slot? = some .current →
      ((∃ w ∈ epochOf before, w.slot? = some .current) →
        (d.perform u).2.session.requests = d.session.requests) ∧
      ((∀ w ∈ epochOf before, w.slot? ≠ some .current) →
        (d.perform u).2.session.requests = d.session.requests + 1 ∧
        ∃ a, (d.perform u).1 = some a ∧ d.supplier = .give a.calendar)) ∧
    (∀ u, u.slot? ≠ some .current → (d.perform u).2.session.requests = d.session.requests) ∧
    d.session.size.1 = ((epochOf before).filterMap Use.asked?).toFinset.card := by
  intro d
  have hstart : Journal.IsPlain { supplier := .give calendar } := ⟨calendar, rfl⟩
  have hplain := hstart.after hbefore
  have hsound := (Journal.Sound.start (.give calendar)).after before
  have hdesk : d = (Journal.after { supplier := .give calendar } before).toDesk :=
    (Journal.toDesk_after { supplier := .give calendar } before).symm
  have hempty := Journal.get?_eq_none_iff calendar hbefore .current
  have hsize := Journal.length_fixed calendar hbefore
  rw [hdesk]
  generalize Journal.after { supplier := .give calendar } before = j at *
  refine ⟨?same, ?settings, ?supplied, fun u hu => requests_perform _ hu, hsize⟩
  case same =>
    intro u slot hu between hbetween v slot' hv
    obtain ⟨a, b, ha, hb, hsame⟩ := Journal.same_iff_of_plain hsound hplain hbetween hu hv
    rw [(j.perform_eq u).1] at ha
    rw [(Journal.perform_eq _ v).1, Journal.toDesk_after] at hb
    exact ⟨a, b, ha, hb, hsame⟩
  case settings =>
    intro asked
    have hnoted : ⟨.fixed asked, (j.fixed asked).1, j.epoch⟩ ∈ (j.fixed asked).2.handouts :=
      List.mem_cons_self
    exact ⟨_, rfl, (hsound.fixed asked).calendar_eq _ hnoted asked rfl⟩
  case supplied =>
    intro u hu
    obtain ⟨hfound, hnext⟩ := j.perform_eq u
    rw [Journal.perform_current hu] at hfound hnext
    rw [← hfound, ← hnext]
    refine ⟨fun hasked => ?_, fun hfirst => ?_⟩
    · -- the place has been filled before
      obtain ⟨known, hheld⟩ : ∃ known, j.session.refresh.cache.get? .current = some known := by
        rw [← Option.ne_none_iff_exists', ne_eq, hempty]
        push Not
        exact hasked
      rw [Journal.current_of_held hheld]
      rfl
    · obtain ⟨given, hgive⟩ := hplain
      obtain ⟨⟨hcalendar, hrequests⟩, -⟩ := Journal.current_of_empty hgive (hempty.mpr hfirst)
      exact ⟨hrequests, _, rfl, hcalendar ▸ hgive⟩

/-- After a reset the supplier is asked again, and the size counts again from one. -/
theorem follows_epochs_afterReset :
    (∀ u ∈ [Use.fixed .standard, .current, .reset, .fixed .standard], u.IsPlain) ∧
      let d := after { supplier := .give .standard } [.fixed .standard, .current, .reset,
        .fixed .standard]
      (d.perform .latest).2.session.requests = d.session.requests + 1 ∧ d.session.size.1 = 1 := by
  have hplain : ∀ u ∈ [Use.fixed .standard, .current, .reset, .fixed .standard], u.IsPlain := by
    simp [Use.IsPlain]
  obtain ⟨-, -, hcurrent, -, hsize⟩ := follows_epochs .standard _ hplain
  exact ⟨hplain, ((hcurrent .latest rfl).2 (by decide)).1, hsize⟩

end Desk

end Almanac
