import Mathlib
import Almanac.Proofs.Cache.Journal

/-!
# What a cache holds

A cache that has been brought up to date holds exactly what has been handed out in the present
epoch. An identity that is handed out again is the same place in the same epoch.

* `Cache.IsFresh`: the cache is up to date; `Cache.store`: an instance is put into a place.
* `Journal.Sound`: the cache and the journal agree.
* `Sound.refresh`, `Sound.again`, `Sound.fill`, `Sound.newEpoch`: the four ways in which a run goes
  on keep this.
* **`Journal.Sound.after`**: it holds after every run, whatever the suppliers do.
-/

namespace Almanac

/-! ## Places -/

namespace Cache

variable {cache : Cache} {slot : Slot} {generation : Nat}

/-- The cache is up to date: it was filled in this generation, and no reset is due. -/
def IsFresh (cache : Cache) (generation : Nat) : Prop :=
  cache.generation = some generation ∧ cache.resetRequested = false

theorem isFresh_refresh (cache : Cache) (generation : Nat) :
    (cache.refresh generation).IsFresh generation := by
  unfold refresh
  split
  · assumption
  · exact ⟨rfl, rfl⟩

theorem refresh_of_isFresh (h : cache.IsFresh generation) : cache.refresh generation = cache :=
  if_pos h

theorem refresh_of_not_isFresh (h : ¬ cache.IsFresh generation) :
    cache.refresh generation = { generation := some generation } :=
  if_neg h

/-- The cache with an instance in a place that was empty. -/
def store (cache : Cache) (built : Instance) : Slot → Cache
  | .fixed _ => { cache with fixed := cache.fixed ++ [built] }
  | .current => { cache with current := some built }

theorem isFresh_store (h : cache.IsFresh generation) (built : Instance) (slot : Slot) :
    (cache.store built slot).IsFresh generation := by
  cases slot <;> exact h

theorem get?_store {built : Instance} (hempty : cache.get? slot = none)
    (hcalendar : ∀ calendar, slot = .fixed calendar → built.calendar = calendar) (other : Slot) :
    (cache.store built slot).get? other = if other = slot then some built else cache.get? other := by
  cases slot with
  | current => cases other <;> rfl
  | fixed calendar =>
    obtain rfl := hcalendar calendar rfl
    cases other with
    | current => rfl
    | fixed other =>
      by_cases hsame : other = built.calendar
      · rw [hsame, if_pos rfl]
        simp only [get?, find?] at hempty
        simp [get?, find?, store, List.find?_append, hempty]
      · have hslot : Slot.fixed other ≠ .fixed built.calendar := fun h => hsame (Slot.fixed.inj h)
        rw [if_neg hslot]
        simp [get?, find?, store, List.find?_append, Ne.symm hsame]

theorem get?_store_eq_some_iff {built found : Instance} (hempty : cache.get? slot = none)
    (hcalendar : ∀ calendar, slot = .fixed calendar → built.calendar = calendar) {other : Slot} :
    (cache.store built slot).get? other = some found ↔
      (other = slot ∧ found = built) ∨ cache.get? other = some found := by
  rw [get?_store hempty hcalendar]
  by_cases hslot : other = slot
  · rw [if_pos hslot, hslot, hempty]
    simp [eq_comm]
  · rw [if_neg hslot, or_iff_right fun hsame => hslot hsame.1]

theorem get?_eq_none_iff {calendar : Calendar} :
    cache.get? (.fixed calendar) = none ↔ calendar ∉ cache.fixed.map Instance.calendar := by
  simp only [get?, find?, List.find?_eq_none, decide_eq_true_eq, List.mem_map, not_exists, not_and]

end Cache

namespace Session

theorem refresh_refresh (s : Session) : s.refresh.refresh = s.refresh := by
  simp [refresh]

end Session

/-! ## The journal and the cache -/

namespace Journal

/-- The cache and the journal agree. -/
structure Sound (j : Journal) : Prop where
  /-- The cache was not filled in a later generation. -/
  generation_le : ∀ g, j.session.cache.generation = some g → g ≤ j.session.generation
  /-- No two instances are kept for a calendar. -/
  fixed_nodup : (j.session.cache.fixed.map Instance.calendar).Nodup
  /-- Once it is up to date, the cache holds what has been handed out in this epoch. -/
  held_iff : ∀ slot found, j.session.refresh.cache.get? slot = some found ↔
    ⟨slot, found, j.epoch⟩ ∈ j.handouts
  /-- An identity belongs to one place in one epoch. -/
  same_iff : ∀ h ∈ j.handouts, ∀ h' ∈ j.handouts,
    h.found.id = h'.found.id ↔ h.slot = h'.slot ∧ h.epoch = h'.epoch
  id_lt : ∀ h ∈ j.handouts, h.found.id < j.session.nextId
  epoch_le : ∀ h ∈ j.handouts, h.epoch ≤ j.epoch
  /-- What is asked for by its settings has these settings. -/
  calendar_eq : ∀ h ∈ j.handouts, ∀ calendar, h.slot = .fixed calendar → h.found.calendar = calendar
  /-- A current instance was built from a call that ended in the epoch in which it is handed out. -/
  call_ended : ∀ h ∈ j.handouts, h.slot = .current →
    ∃ call, j.call? h.found.id = some call ∧ call.ended = h.epoch

namespace Sound

variable {j : Journal}

theorem start (supplier : Supplier) : Sound { supplier } where
  generation_le := by simp
  fixed_nodup := List.nodup_nil
  held_iff slot found := by
    cases slot <;> simp [Session.refresh, Cache.refresh, Cache.get?, Cache.find?]
  same_iff := by simp
  id_lt := by simp
  epoch_le := by simp
  calendar_eq := by simp
  call_ended := by simp

theorem refresh (h : j.Sound) : Sound { j with session := j.session.refresh } where
  generation_le g hg := by
    obtain ⟨hgen, -⟩ := j.session.cache.isFresh_refresh j.session.generation
    rw [Session.refresh, hgen] at hg
    exact (Option.some.inj hg).ge
  fixed_nodup := by
    unfold Session.refresh Cache.refresh
    split
    · exact h.fixed_nodup
    · exact List.nodup_nil
  held_iff slot found := by
    rw [Session.refresh_refresh]
    exact h.held_iff slot found
  same_iff := h.same_iff
  id_lt := h.id_lt
  epoch_le := h.epoch_le
  calendar_eq := h.calendar_eq
  call_ended := h.call_ended

theorem request (h : j.Sound) (requests : Nat) :
    Sound { j with session := { j.session with requests } } :=
  ⟨h.generation_le, h.fixed_nodup, h.held_iff, h.same_iff, h.id_lt, h.epoch_le, h.calendar_eq,
    h.call_ended⟩

theorem spend (h : j.Sound) {call? : Nat → Option Call}
    (hcall : ∀ id < j.session.nextId, call? id = j.call? id) :
    Sound { j with call?, session := { j.session with nextId := j.session.nextId + 1 } } where
  generation_le := h.generation_le
  fixed_nodup := h.fixed_nodup
  held_iff := h.held_iff
  same_iff := h.same_iff
  id_lt x hx := (h.id_lt x hx).trans (Nat.lt_succ_self _)
  epoch_le := h.epoch_le
  calendar_eq := h.calendar_eq
  call_ended x hx hslot := by
    dsimp only
    rw [hcall _ (h.id_lt x hx)]
    exact h.call_ended x hx hslot

theorem again (h : j.Sound) {slot : Slot} {found : Instance}
    (hheld : j.session.refresh.cache.get? slot = some found) :
    Sound (j.handOut slot found j.session).2 := by
  -- nothing is noted that has not been noted before
  have hsame : ∀ x, x ∈ (⟨slot, found, j.epoch⟩ :: j.handouts) ↔ x ∈ j.handouts := by
    intro x
    rw [List.mem_cons, or_iff_right_iff_imp]
    rintro rfl
    exact (h.held_iff slot found).mp hheld
  exact {
    generation_le := h.generation_le
    fixed_nodup := h.fixed_nodup
    held_iff := fun slot found => (h.held_iff slot found).trans (hsame _).symm
    same_iff := fun x hx y hy => h.same_iff x ((hsame x).mp hx) y ((hsame y).mp hy)
    id_lt := fun x hx => h.id_lt x ((hsame x).mp hx)
    epoch_le := fun x hx => h.epoch_le x ((hsame x).mp hx)
    calendar_eq := fun x hx => h.calendar_eq x ((hsame x).mp hx)
    call_ended := fun x hx => h.call_ended x ((hsame x).mp hx) }

/-- A new instance is put into an empty place of an up-to-date cache and handed out. -/
theorem fill (h : j.Sound) (hfresh : j.session.cache.IsFresh j.session.generation) (slot : Slot)
    (hempty : j.session.cache.get? slot = none) {calendar : Calendar}
    (hcalendar : ∀ asked, slot = .fixed asked → calendar = asked) {call? : Nat → Option Call}
    (hcall : ∀ id < j.session.nextId, call? id = j.call? id)
    (hended : slot = .current → ∃ call, call? j.session.nextId = some call ∧ call.ended = j.epoch) :
    Sound (({ j with call? } : Journal).handOut slot ⟨j.session.nextId, calendar⟩
      { j.session with
        nextId := j.session.nextId + 1
        cache := j.session.cache.store ⟨j.session.nextId, calendar⟩ slot }).2 := by
  have hrefresh : j.session.refresh = j.session := by
    rw [Session.refresh, Cache.refresh_of_isFresh hfresh]
  have hheld := h.held_iff
  rw [hrefresh] at hheld
  have hnew : ∀ x ∈ j.handouts, ¬ (slot = x.slot ∧ j.epoch = x.epoch) := by
    rintro ⟨slot, found, epoch⟩ hx ⟨rfl, rfl⟩
    have := (hheld slot found).mpr hx
    rw [hempty] at this
    exact nomatch this
  have hfresh' := Cache.isFresh_store hfresh ⟨j.session.nextId, calendar⟩ slot
  refine {
    generation_le := fun g hg => ?_
    fixed_nodup := ?_
    held_iff := fun other found => ?_
    same_iff := ?_
    id_lt := ?_
    epoch_le := List.forall_mem_cons.mpr ⟨le_rfl, h.epoch_le⟩
    calendar_eq := List.forall_mem_cons.mpr ⟨hcalendar, h.calendar_eq⟩
    call_ended := ?_ }
  · exact (Option.some.inj (hfresh'.1.symm.trans hg)).ge
  · cases slot with
    | current => exact h.fixed_nodup
    | fixed asked =>
      obtain rfl := hcalendar asked rfl
      dsimp only [handOut, Cache.store]
      rw [List.map_append, List.map_singleton, ← List.concat_eq_append]
      exact h.fixed_nodup.concat (Cache.get?_eq_none_iff.mp hempty)
  · dsimp only [handOut]
    rw [Session.refresh, Cache.refresh_of_isFresh hfresh',
      Cache.get?_store_eq_some_iff hempty hcalendar, hheld, List.mem_cons, Handout.mk.injEq,
      and_iff_left rfl]
  · -- the new identity is above all others, and nothing has been handed out from its place
    intro x hx y hy
    rcases List.mem_cons.mp hx with rfl | hx <;> rcases List.mem_cons.mp hy with rfl | hy
    · simp
    · exact iff_of_false (h.id_lt y hy).ne' (hnew y hy)
    · exact iff_of_false (h.id_lt x hx).ne fun hsame => hnew x hx ⟨hsame.1.symm, hsame.2.symm⟩
    · exact h.same_iff x hx y hy
  · exact List.forall_mem_cons.mpr
      ⟨Nat.lt_succ_self _, fun x hx => (h.id_lt x hx).trans (Nat.lt_succ_self _)⟩
  · refine List.forall_mem_cons.mpr ⟨hended, fun x hx hslot => ?_⟩
    dsimp only [handOut]
    rw [hcall _ (h.id_lt x hx)]
    exact h.call_ended x hx hslot

/-- A reset or an invalidation begins an epoch, and the cache holds nothing of the past one. -/
theorem newEpoch (h : j.Sound) {session : Session} (hid : session.nextId = j.session.nextId)
    (hcache : session.cache.generation = j.session.cache.generation ∧
      session.cache.fixed = j.session.cache.fixed)
    (hgeneration : j.session.generation ≤ session.generation)
    (hstale : ¬ session.cache.IsFresh session.generation) :
    Sound { j with session, epoch := j.epoch + 1 } where
  generation_le g hg := (h.generation_le g (hcache.1 ▸ hg)).trans hgeneration
  fixed_nodup := hcache.2 ▸ h.fixed_nodup
  held_iff slot found := by
    rw [Session.refresh, Cache.refresh_of_not_isFresh hstale]
    refine iff_of_false ?_ fun hmem => ?_
    · cases slot <;> simp [Cache.get?, Cache.find?]
    · have := h.epoch_le _ hmem
      dsimp only at this
      omega
  same_iff := h.same_iff
  id_lt := hid ▸ h.id_lt
  epoch_le x hx := (h.epoch_le x hx).trans (Nat.le_succ _)
  calendar_eq := h.calendar_eq
  call_ended := h.call_ended

theorem reset (h : j.Sound) : j.reset.Sound :=
  h.newEpoch rfl ⟨rfl, rfl⟩ le_rfl fun hfresh => Bool.noConfusion hfresh.2

theorem invalidate (h : j.Sound) : j.invalidate.Sound := by
  refine h.newEpoch rfl ⟨rfl, rfl⟩ (Nat.le_succ _) fun hfresh => ?_
  have := h.generation_le _ hfresh.1
  dsimp only [Session.invalidate] at this
  omega

theorem fixed (h : j.Sound) (calendar : Calendar) : (j.fixed calendar).2.Sound := by
  have hfresh := j.session.cache.isFresh_refresh j.session.generation
  unfold Journal.fixed Session.fixed
  cases hfound : j.session.refresh.cache.find? calendar with
  | some known =>
    simp only [hfound]
    refine h.refresh.again ?_
    rw [Session.refresh_refresh]
    exact hfound
  | none =>
    simp only [hfound]
    exact h.refresh.fill hfresh (.fixed calendar) hfound (fun _ heq => Slot.fixed.inj heq)
      (fun _ _ => rfl) fun hslot => Slot.noConfusion hslot

/-- An instance that is built from an answer is kept, unless the place has been filled meanwhile. -/
theorem keep (h : j.Sound) (calendar : Calendar) (began : Nat) :
    Sound (({ j with
        call? := Function.update j.call? j.session.nextId (some ⟨began, j.epoch⟩) } : Journal).handOut
      .current
      ((j.session.build calendar).2.refresh.keepCurrent (j.session.build calendar).1).1
      ((j.session.build calendar).2.refresh.keepCurrent (j.session.build calendar).1).2).2 := by
  have hcall : ∀ id < j.session.nextId,
      Function.update j.call? j.session.nextId (some ⟨began, j.epoch⟩) id = j.call? id :=
    fun id hid => Function.update_of_ne hid.ne _ _
  have hfresh := j.session.cache.isFresh_refresh j.session.generation
  have hrefresh : (j.session.build calendar).2.refresh = (j.session.refresh.build calendar).2 := rfl
  rw [hrefresh]
  -- a request of the supplier may have filled the place: then the new instance is dropped
  cases hcur : j.session.refresh.cache.current with
  | some known =>
    simp only [Session.keepCurrent, Session.build, hcur]
    refine (h.refresh.spend hcall).again ?_
    change j.session.refresh.refresh.cache.current = some known
    rw [Session.refresh_refresh]
    exact hcur
  | none =>
    simp only [Session.keepCurrent, Session.build, hcur]
    exact h.refresh.fill hfresh .current hcur (fun _ hslot => Slot.noConfusion hslot) hcall
      fun _ => ⟨_, Function.update_self _ _ _, rfl⟩

theorem obtain (h : j.Sound) {ask : Journal → Calendar × Journal}
    (hask : ∀ k : Journal, k.Sound → (ask k).2.Sound) : (j.obtain ask).2.Sound := by
  unfold Journal.obtain
  cases hcur : j.session.refresh.cache.current with
  | some known =>
    simp only [hcur]
    refine h.refresh.again ?_
    rw [Session.refresh_refresh]
    exact hcur
  | none =>
    simp only [hcur]
    exact (hask _ (h.refresh.request (j.session.refresh.requests + 1))).keep _ j.epoch

end Sound

end Journal

theorem Supplier.sound_record (supplier : Supplier) {j : Journal} (h : j.Sound) :
    (supplier.record j).2.Sound := by
  induction supplier generalizing j with
  | give calendar => exact h
  | size next ih => exact ih _ h.refresh
  | fixed calendar next ih => exact ih _ (h.fixed calendar)
  | invalidate next ih => exact ih h.invalidate
  | reset next ih => exact ih h.reset
  | current inner next ihInner ih =>
    have hinner : ∀ k : Journal, k.Sound → (inner.record k).2.Sound := fun k hk => ihInner hk
    exact ih _ (h.obtain hinner)

namespace Journal

theorem Sound.perform {j : Journal} (h : j.Sound) (u : Use) : (j.perform u).2.Sound := by
  have hcurrent : j.current.2.Sound := h.obtain fun _ hk => j.supplier.sound_record hk
  cases u with
  | fixed calendar => exact h.fixed calendar
  | current | latest => exact hcurrent
  | size => exact h.refresh
  | reset => exact h.reset
  | invalidate => exact h.invalidate
  | supply supplier =>
    exact ⟨h.generation_le, h.fixed_nodup, h.held_iff, h.same_iff, h.id_lt, h.epoch_le,
      h.calendar_eq, h.call_ended⟩

/-- **The cache and the journal agree after every run**, whatever the suppliers do. -/
theorem Sound.after {j : Journal} (h : j.Sound) (uses : List Use) : (j.after uses).Sound := by
  induction uses generalizing j with
  | nil => exact h
  | cons u uses ih => exact ih (h.perform u)

end Journal

end Almanac
