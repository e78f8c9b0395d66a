import Mathlib
import Almanac.Proofs.Cache.Sound

/-!
# The current instance

The supplier is asked outside the cache, and meanwhile the cache may be used, reset or invalidated.
What it gives is kept for the epoch in which its answer arrives.

* `Supplier.IsQuiet`: the supplier may use the cache, but does not reset or invalidate it.
* `Journal.KeepsEpochs`: no epoch has begun during a call of the supplier.
* **`Journal.current_fresh`**: the current instance was built from a call that ended in this epoch,
  and began in it if the suppliers are quiet.
* **`Journal.sameInstance_iff`**: in an epoch, instances that are asked for by their settings are
  shared by their settings, and the current one is shared with itself only.
-/

namespace Almanac

/-! ## Quiet suppliers -/

/-- While it is asked, the supplier neither resets nor invalidates the cache. -/
def Supplier.IsQuiet : Supplier → Prop
  | give _ => True
  | size next => ∀ n, (next n).IsQuiet
  | fixed _ next => ∀ found, (next found).IsQuiet
  | invalidate _ | reset _ => False
  | current inner next => inner.IsQuiet ∧ ∀ found, (next found).IsQuiet

/-- The supplier that a use sets, if any, is quiet. -/
def Use.IsQuiet : Use → Prop
  | .supply supplier => supplier.IsQuiet
  | _ => True

namespace Journal

/-- No epoch has begun between the beginning and the end of a call. -/
def KeepsEpochs (j : Journal) : Prop := ∀ id call, j.call? id = some call → call.began = call.ended

theorem KeepsEpochs.start (supplier : Supplier) : KeepsEpochs { supplier } := nofun

theorem KeepsEpochs.obtain {j : Journal} (h : j.KeepsEpochs) {ask : Journal → Calendar × Journal}
    (hask : ∀ k : Journal, k.KeepsEpochs → (ask k).2.KeepsEpochs ∧ (ask k).2.epoch = k.epoch) :
    (j.obtain ask).2.KeepsEpochs ∧ (j.obtain ask).2.epoch = j.epoch := by
  unfold Journal.obtain
  cases hcur : j.session.refresh.cache.current with
  | some known =>
    simp only [hcur]
    exact ⟨h, rfl⟩
  | none =>
    obtain ⟨hkeeps, hepoch⟩ := hask { j with session :=
      { j.session.refresh with requests := j.session.refresh.requests + 1 } } h
    simp only [hcur, handOut]
    refine ⟨fun id call hcall => ?_, hepoch⟩
    dsimp only at hcall
    rw [Function.update_apply] at hcall
    split_ifs at hcall with hid
    · rw [← Option.some.inj hcall, hepoch]
    · exact hkeeps id call hcall

end Journal

theorem Supplier.IsQuiet.record {supplier : Supplier} (hquiet : supplier.IsQuiet) {j : Journal}
    (h : j.KeepsEpochs) :
    (supplier.record j).2.KeepsEpochs ∧ (supplier.record j).2.epoch = j.epoch := by
  induction supplier generalizing j with
  | give calendar => exact ⟨h, rfl⟩
  | size next ih => exact ih _ (hquiet _) h
  | fixed calendar next ih => exact ih _ (hquiet _) h
  | invalidate next => exact hquiet.elim
  | reset next => exact hquiet.elim
  | current inner next ihInner ih =>
    obtain ⟨hkeeps, hepoch⟩ := h.obtain fun k hk => ihInner hquiet.1 hk
    obtain ⟨hkeeps', hepoch'⟩ := ih _ (hquiet.2 _) hkeeps
    exact ⟨hkeeps', hepoch'.trans hepoch⟩

namespace Journal

theorem KeepsEpochs.perform {j : Journal} (h : j.KeepsEpochs) (hquiet : j.supplier.IsQuiet)
    {u : Use} (hu : u.IsQuiet) :
    (j.perform u).2.KeepsEpochs ∧ (j.perform u).2.supplier.IsQuiet := by
  have hcurrent := (h.obtain fun k hk => hquiet.record hk).1
  have hsupplier : (j.perform u).2.supplier = (j.toDesk.perform u).2.supplier :=
    congrArg Desk.supplier (j.perform_eq u).2
  rw [hsupplier]
  cases u with
  | current | latest => exact ⟨hcurrent, hquiet⟩
  | fixed | size | reset | invalidate => exact ⟨h, hquiet⟩
  | supply supplier => exact ⟨h, hu⟩

theorem KeepsEpochs.after {j : Journal} (h : j.KeepsEpochs) (hquiet : j.supplier.IsQuiet)
    {uses : List Use} (huses : ∀ u ∈ uses, u.IsQuiet) :
    (j.after uses).KeepsEpochs ∧ (j.after uses).supplier.IsQuiet := by
  induction uses generalizing j with
  | nil => exact ⟨h, hquiet⟩
  | cons u uses ih =>
    rw [List.forall_mem_cons] at huses
    obtain ⟨hnext, hquiet'⟩ := h.perform hquiet huses.1
    exact ih hnext hquiet' huses.2

end Journal

/-! ## What is kept -/

theorem Session.refresh_keepCurrent (s : Session) (built : Instance) :
    (s.refresh.keepCurrent built).2.refresh = (s.refresh.keepCurrent built).2 := by
  unfold keepCurrent
  cases hcur : s.refresh.cache.current with
  | some known => exact s.refresh_refresh
  | none =>
    have hfresh := s.cache.isFresh_refresh s.generation
    exact congrArg (fun cache => { s.refresh with cache })
      (Cache.refresh_of_isFresh (Cache.isFresh_store hfresh built .current))

theorem Session.current_of_held {s : Session} {known : Instance}
    (hheld : s.refresh.cache.current = some known) (supplier : Supplier) :
    (s.current supplier).1 = known := by
  simp only [current, obtain, hheld]

namespace Journal

section Obtain

variable (ask : Journal → Calendar × Journal) (j : Journal)

theorem mem_handouts_obtain :
    ⟨.current, (j.obtain ask).1, (j.obtain ask).2.epoch⟩ ∈ (j.obtain ask).2.handouts := by
  unfold obtain
  cases hcur : j.session.refresh.cache.current with
  | some known =>
    simp only [hcur]
    exact List.mem_cons_self
  | none =>
    simp only [hcur]
    exact List.mem_cons_self

theorem refresh_obtain : (j.obtain ask).2.session.refresh = (j.obtain ask).2.session := by
  unfold obtain
  cases hcur : j.session.refresh.cache.current with
  | some known =>
    simp only [hcur]
    exact j.session.refresh_refresh
  | none =>
    simp only [hcur]
    exact Session.refresh_keepCurrent _ _

end Obtain

/-- **What is kept as the current instance.** Whatever the suppliers do, a request for the current
instance leaves the one that it hands out in an up-to-date cache, and it was built from a call of
the supplier that ended in this epoch. If the suppliers are quiet, the call also began in it, that
is, after the latest reset and the latest invalidation. -/
theorem current_fresh (supplier : Supplier) (uses : List Use) :
    let k := (after { supplier } uses).current
    k.2.session.cache.current = some k.1 ∧
    (∀ other, (k.2.session.current other).1 = k.1) ∧
    ∃ call, k.2.call? k.1.id = some call ∧ call.ended = k.2.epoch ∧
      (supplier.IsQuiet → (∀ u ∈ uses, u.IsQuiet) → call.began = k.2.epoch) := by
  have hsound := (Sound.start supplier).after uses
  have hkeeps (hquiet : supplier.IsQuiet) (huses : ∀ u ∈ uses, u.IsQuiet) :=
    (KeepsEpochs.start supplier).after hquiet huses
  generalize after { supplier } uses = j at *
  intro k
  have hsoundk : k.2.Sound := hsound.obtain fun _ hk => j.supplier.sound_record hk
  have hmem : ⟨.current, k.1, k.2.epoch⟩ ∈ k.2.handouts := mem_handouts_obtain j.supplier.record j
  have hheld := (hsoundk.held_iff _ _).mpr hmem
  have hrefresh : k.2.session.refresh = k.2.session := refresh_obtain j.supplier.record j
  obtain ⟨call, hcall, hended⟩ := hsoundk.call_ended _ hmem rfl
  -- quiet suppliers: no epoch has begun since the call did, and it ended in this one
  refine ⟨hrefresh ▸ hheld, Session.current_of_held hheld, call, hcall, hended, fun hquiet huses => ?_⟩
  obtain ⟨hbefore, hquiet'⟩ := hkeeps hquiet huses
  exact ((hbefore.obtain fun _ hk => hquiet'.record hk).1 _ _ hcall).trans hended

/-- A supplier that invalidates the cache while it is asked leaves an instance that was built from a
call of the past epoch. It stays, whoever supplies the current calendar later. -/
theorem current_stale :
    let k := current { supplier := .invalidate (.give .standard) }
    k.2.session.cache.current = some k.1 ∧
    (∀ other, (k.2.session.current other).1 = k.1) ∧
    ∃ call, k.2.call? k.1.id = some call ∧ call.began < k.2.epoch :=
  ⟨rfl, fun _ => rfl, ⟨0, 1⟩, rfl, by decide⟩

/-- A supplier that uses the cache while it is asked, after an invalidation. -/
theorem current_fresh_afterInvalidation :
    let k := (after { supplier := .size fun _ => .give .standard } [.current, .invalidate]).current
    Supplier.IsQuiet (.size fun _ => .give .standard) ∧
      ∃ call, k.2.call? k.1.id = some call ∧ call.began = 1 := by
  have hquiet : Supplier.IsQuiet (.size fun _ => .give .standard) := fun _ => trivial
  obtain ⟨-, -, call, hcall, -, hbegan⟩ :=
    current_fresh (.size fun _ => .give .standard) [.current, .invalidate]
  exact ⟨hquiet, call, hcall, hbegan hquiet (by simp [Use.IsQuiet])⟩

/-! ## What is shared -/

/-- **What is shared in an epoch.** Of two instances that are handed out, by whatever use or while
the supplier is asked, those that are asked for by their settings are the same if and only if the
settings are equal, and two current ones are the same. But one of each are never the same, even if
their settings are equal. -/
theorem sameInstance_iff (supplier : Supplier) (uses : List Use) :
    ∀ h ∈ (after { supplier } uses).handouts, ∀ h' ∈ (after { supplier } uses).handouts,
      h.epoch = h'.epoch →
        (∀ asked asked', h.slot = .fixed asked → h'.slot = .fixed asked' →
          (h.found.id = h'.found.id ↔ h.found.calendar = h'.found.calendar)) ∧
        (h.slot = .current → h'.slot = .current → h.found.id = h'.found.id) ∧
        ∀ asked, h.slot = .fixed asked → h'.slot = .current → h.found.id ≠ h'.found.id := by
  intro h hh h' hh' hepoch
  have hsound := (Sound.start supplier).after uses
  have hsame := hsound.same_iff h hh h' hh'
  rw [and_iff_left hepoch] at hsame
  refine ⟨fun asked asked' hslot hslot' => ?_, fun hslot hslot' => ?_, fun asked hslot hslot' => ?_⟩
  · rw [hsame, hsound.calendar_eq h hh asked hslot, hsound.calendar_eq h' hh' asked' hslot', hslot,
      hslot', Slot.fixed.injEq]
  · rw [hsame, hslot, hslot']
  · rw [ne_eq, hsame, hslot, hslot']
    exact nofun

/-- The instance of a calendar and the current one, of the same settings, are two instances. -/
theorem sameInstance_iff_fixed_current :
    let j := after { supplier := .give .standard } [.fixed .standard, .current]
    ∃ h ∈ j.handouts, ∃ h' ∈ j.handouts, h.epoch = h'.epoch ∧ h.slot = .fixed .standard ∧
      h'.slot = .current ∧ h.found.id ≠ h'.found.id := by
  intro j
  have hmem : (⟨.fixed .standard, ⟨0, .standard⟩, 0⟩ : Handout) ∈ j.handouts :=
    List.mem_cons_of_mem _ List.mem_cons_self
  have hmem' : (⟨.current, ⟨1, .standard⟩, 0⟩ : Handout) ∈ j.handouts := List.mem_cons_self
  exact ⟨_, hmem, _, hmem', rfl, rfl, rfl,
    (sameInstance_iff (.give .standard) _ _ hmem _ hmem' rfl).2.2 .standard rfl rfl⟩

end Journal

/-- A calendar that is asked for by its settings and is then the current one is handed out as two
instances, with nothing in between. -/
theorem Session.fixed_ne_current :
    let (found, s) := Session.fixed {} .standard
    let (now, _) := s.current (.give .standard)
    found.calendar = now.calendar ∧ found.id ≠ now.id := by
  decide

end Almanac
