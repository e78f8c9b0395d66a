import Mathlib
import Almanac.Instant.Exact
import Almanac.WallClock

/-!
# Seconds of a reading

A wall clock shows a reading at the seconds that its offset leads there. Around a single change of
the offset these are at most two, one on each side of the change.

* `OffsetSource.secondsOf`: the seconds at which a clock shows a reading.
* `ConstantAround`, `ChangesOnceAround`, `ChangesAtMostOnce`: the total offset within a day either
  side of a reading; `NamesChange`: what the source says about it.
* `secondsOf_of_constant`, `resolve_of_constant`: the seconds of a reading and what is resolved, if
  the offset is constant.
* `ChangesOnceAround.secondsOf_eq`, `ChangesOnceAround.resolve_eq`: the same if it changes.
* **`resolve_secondsOf`**: readings are resolved by how many seconds they have.
* `toUtc_isLeast_or_isGreatest`: readings that occur are resolved to their first or last second.
-/

namespace Almanac

/-- The choice of a side. -/
def Side.pick {α : Type} (former latter : α) : Side → α
  | .former => former
  | .latter => latter

namespace OffsetSource

variable (source : OffsetSource)

/-- The seconds at which a clock shows `reading`. -/
def secondsOf (reading : ℤ) : Set ℤ := {u | source.toLocal u = reading}

/-- Every total offset is less than a day either way. -/
def WithinDay : Prop := ∀ t, -secondsPerDay < source.totalAt t ∧ source.totalAt t < secondsPerDay

/-- The total offset is `offset` as far as a day either side of `reading`. -/
def ConstantAround (reading offset : ℤ) : Prop :=
  ∀ u, reading - secondsPerDay ≤ u → u ≤ reading + secondsPerDay →
    source.totalAt (.ofSeconds u) = offset

/-- As far as a day either side of `reading`, the total offset is `before` up to the second
`change` and another one, `after`, from that second on. -/
structure ChangesOnceAround (reading change before after : ℤ) : Prop where
  before_ne_after : before ≠ after
  lt_change : reading - secondsPerDay < change
  change_le : change ≤ reading + secondsPerDay
  totalAt_before : ∀ u, reading - secondsPerDay ≤ u → u < change →
    source.totalAt (.ofSeconds u) = before
  totalAt_after : ∀ u, change ≤ u → u ≤ reading + secondsPerDay →
    source.totalAt (.ofSeconds u) = after

/-- The total offset changes at most once within a day either side of `reading`. -/
def ChangesAtMostOnce (reading : ℤ) : Prop :=
  (∃ offset, source.ConstantAround reading offset) ∨
    ∃ change before after, source.ChangesOnceAround reading change before after

/-- Where the total offset changes once, the source finds that change from a day before. -/
def NamesChange (reading : ℤ) : Prop :=
  ∀ change before after, source.ChangesOnceAround reading change before after →
    (source.nextChange (.ofSeconds (reading - secondsPerDay))).map Instant.wholeSeconds = some change

variable {source} {reading change before after offset : ℤ}

theorem mem_secondsOf {u : ℤ} : u ∈ source.secondsOf reading ↔ source.toLocal u = reading := Iff.rfl

theorem secondsOf_mem (hday : source.WithinDay) {u : ℤ} (hu : u ∈ source.secondsOf reading) :
    reading - secondsPerDay < u ∧ u < reading + secondsPerDay := by
  have ht := hday (.ofSeconds u)
  have hl : u + source.totalAt (.ofSeconds u) = reading := hu
  omega

/-- Whatever the source says of its changes, a reading is resolved to less than a day from it. -/
theorem toUtc_mem (reading : ℤ) (hday : source.WithinDay) (resolution : Resolution) :
    reading - secondsPerDay < source.toUtc reading resolution ∧
      source.toUtc reading resolution < reading + secondsPerDay := by
  have hb := hday (.ofSeconds (reading - secondsPerDay))
  have ha := hday (.ofSeconds (reading + secondsPerDay))
  have h : source.toUtc reading resolution =
        reading - source.totalAt (.ofSeconds (reading - secondsPerDay)) ∨
      source.toUtc reading resolution =
        reading - source.totalAt (.ofSeconds (reading + secondsPerDay)) := by
    simp only [toUtc, resolve]
    split
    · exact Or.inl rfl
    split
    · exact Or.inl rfl
    split
    · exact Or.inl rfl
    split
    · exact Or.inr rfl
    split
    · exact Or.inl rfl
    · exact Or.inr rfl
  omega

/-! ## A constant offset -/

theorem secondsOf_of_constant (hday : source.WithinDay)
    (h : source.ConstantAround reading offset) : source.secondsOf reading = {reading - offset} := by
  ext u
  rw [Set.mem_singleton_iff]
  constructor
  · intro hu
    have hw := secondsOf_mem hday hu
    have hl : u + source.totalAt (.ofSeconds u) = reading := hu
    rw [h u hw.1.le hw.2.le] at hl
    omega
  · rintro rfl
    have ho := hday (.ofSeconds reading)
    rw [h reading (by unfold secondsPerDay; omega) (by unfold secondsPerDay; omega)] at ho
    rw [mem_secondsOf, toLocal, h _ (by omega) (by omega)]
    omega

theorem resolve_of_constant (h : source.ConstantAround reading offset) (resolution : Resolution) :
    source.resolve reading resolution = (reading - offset, .unique) := by
  have hb := h (reading - secondsPerDay) le_rfl (by unfold secondsPerDay; omega)
  have ha := h (reading + secondsPerDay) (by unfold secondsPerDay; omega) le_rfl
  simp only [resolve, hb, ha, if_true]

/-! ## A single change -/

namespace ChangesOnceAround

variable (h : source.ChangesOnceAround reading change before after)
include h

theorem before_mem (hday : source.WithinDay) : -secondsPerDay < before ∧ before < secondsPerDay := by
  have hb := hday (.ofSeconds (reading - secondsPerDay))
  rwa [h.totalAt_before _ le_rfl h.lt_change] at hb

theorem after_mem (hday : source.WithinDay) : -secondsPerDay < after ∧ after < secondsPerDay := by
  have ha := hday (.ofSeconds (reading + secondsPerDay))
  rwa [h.totalAt_after _ h.change_le le_rfl] at ha

theorem change_unique {change' before' after' : ℤ}
    (h' : source.ChangesOnceAround reading change' before' after') : change' = change := by
  have hb : before = before' := by
    rw [← h.totalAt_before _ le_rfl h.lt_change, h'.totalAt_before _ le_rfl h'.lt_change]
  have hc := h.change_le
  have hc' := h'.change_le
  have hl := h.lt_change
  have hl' := h'.lt_change
  rcases lt_trichotomy change' change with hlt | heq | hlt
  · have ha := h'.totalAt_after change' le_rfl hc'
    rw [h.totalAt_before change' hl'.le hlt, hb] at ha
    exact absurd ha h'.before_ne_after
  · exact heq
  · have ha := h.totalAt_after change le_rfl hc
    rw [h'.totalAt_before change hl.le hlt, ← hb] at ha
    exact absurd ha h.before_ne_after

theorem namesChange (hn : (source.nextChange (.ofSeconds (reading - secondsPerDay))).map
    Instant.wholeSeconds = some change) : source.NamesChange reading := by
  intro change' before' after' h'
  rw [h.change_unique h', hn]

theorem mem_secondsOf_iff (hday : source.WithinDay) {u : ℤ} : u ∈ source.secondsOf reading ↔
    u = reading - before ∧ u < change ∨ u = reading - after ∧ change ≤ u := by
  have hb := h.before_mem hday
  have ha := h.after_mem hday
  constructor
  · intro hu
    have hw := secondsOf_mem hday hu
    have hl : u + source.totalAt (.ofSeconds u) = reading := hu
    by_cases hc : u < change
    · rw [h.totalAt_before u hw.1.le hc] at hl
      omega
    · rw [h.totalAt_after u (by omega) hw.2.le] at hl
      omega
  · rintro (⟨rfl, hc⟩ | ⟨rfl, hc⟩)
    · rw [mem_secondsOf, toLocal, h.totalAt_before _ (by omega) hc]
      omega
    · rw [mem_secondsOf, toLocal, h.totalAt_after _ hc (by omega)]
      omega

theorem resolve_eq (hnames : source.NamesChange reading) (resolution : Resolution) :
    source.resolve reading resolution =
      if reading < change + min before after then (reading - before, .unique)
      else if change + max before after ≤ reading then (reading - after, .unique)
      else if after < before then
        (resolution.repeated.pick (reading - before) (reading - after), .fold)
      else (resolution.skipped.pick (reading - before) (reading - after), .gap) := by
  have hb := h.totalAt_before (reading - secondsPerDay) le_rfl h.lt_change
  have ha := h.totalAt_after (reading + secondsPerDay) h.change_le le_rfl
  obtain ⟨t, ht, hs⟩ := Option.map_eq_some_iff.mp (hnames _ _ _ h)
  simp only [resolve, hb, ha, ht, hs, if_neg h.before_ne_after]
  split
  · rfl
  split
  · rfl
  by_cases hfold : after < before
  · simp only [hfold, if_true]
    cases resolution.repeated <;> rfl
  · simp only [hfold, if_false]
    cases resolution.skipped <;> rfl

theorem secondsOf_eq (hday : source.WithinDay) :
    source.secondsOf reading =
      if reading < change + min before after then {reading - before}
      else if change + max before after ≤ reading then {reading - after}
      else if after < before then {reading - before, reading - after}
      else ∅ := by
  ext u
  rw [h.mem_secondsOf_iff hday]
  have hne := h.before_ne_after
  split
  · rw [Set.mem_singleton_iff]
    omega
  split
  · rw [Set.mem_singleton_iff]
    omega
  split
  · rw [Set.mem_insert_iff, Set.mem_singleton_iff]
    omega
  · rw [Set.mem_empty_iff_false, iff_false]
    omega

/-- What the clock shows at the seconds between which a skipped reading would lie. -/
theorem toLocal_of_skipped (hday : source.WithinDay) (h₁ : change + before ≤ reading)
    (h₂ : reading < change + after) :
    (change ≤ reading - before ∧ source.toLocal (reading - before) = reading + (after - before)) ∧
      reading - after < change ∧
        source.toLocal (reading - after) = reading - (after - before) := by
  have hb := h.before_mem hday
  have ha := h.after_mem hday
  refine ⟨⟨by omega, ?_⟩, by omega, ?_⟩
  · rw [toLocal, h.totalAt_after _ (by omega) (by omega)]
    omega
  · rw [toLocal, h.totalAt_before _ (by omega) (by omega)]
    omega

end ChangesOnceAround

/-- **A reading is resolved by its seconds.** The only second is found. Of two, the repeated side
chooses. If there is none, the clock was set forward over the reading, and the skipped side chooses
a second after the change with a later reading, or one before the change with an earlier one. -/
theorem resolve_secondsOf (hday : source.WithinDay) (hchange : source.ChangesAtMostOnce reading)
    (hnames : source.NamesChange reading) :
    (∃ u, source.secondsOf reading = {u} ∧
      ∀ resolution, source.resolve reading resolution = (u, .unique)) ∨
    (∃ u v, u < v ∧ source.secondsOf reading = {u, v} ∧
      ∀ resolution, source.resolve reading resolution = (resolution.repeated.pick u v, .fold)) ∨
    source.secondsOf reading = ∅ ∧ ∃ change before after,
      source.ChangesOnceAround reading change before after ∧
      (∀ resolution, source.resolve reading resolution =
        (resolution.skipped.pick (reading - before) (reading - after), .gap)) ∧
      (change ≤ reading - before ∧ source.toLocal (reading - before) = reading + (after - before)) ∧
      reading - after < change ∧
        source.toLocal (reading - after) = reading - (after - before) := by
  rcases hchange with ⟨offset, h⟩ | ⟨change, before, after, h⟩
  · exact Or.inl ⟨reading - offset, secondsOf_of_constant hday h, resolve_of_constant h⟩
  have hs := h.secondsOf_eq hday
  have hr := h.resolve_eq hnames
  by_cases h₁ : reading < change + min before after
  · simp only [if_pos h₁] at hs hr
    exact Or.inl ⟨_, hs, hr⟩
  by_cases h₂ : change + max before after ≤ reading
  · simp only [if_neg h₁, if_pos h₂] at hs hr
    exact Or.inl ⟨_, hs, hr⟩
  by_cases h₃ : after < before
  · simp only [if_neg h₁, if_neg h₂, if_pos h₃] at hs hr
    exact Or.inr (Or.inl ⟨_, _, by omega, hs, hr⟩)
  · simp only [if_neg h₁, if_neg h₂, if_neg h₃] at hs hr
    exact Or.inr (Or.inr ⟨hs, change, before, after, h, hr,
      h.toLocal_of_skipped hday (by omega) (by omega)⟩)

/-- A clock that is set back from two hours ahead of UTC to one, at 2020-10-25 01:00 UTC. -/
def setBack : OffsetSource :=
  .listed ⟨⟨3600, 3600⟩, [⟨1603587600, ⟨3600, 0⟩⟩]⟩ [1603587600]

theorem totalAt_setBack {u : ℤ} (hu : u.natAbs ≤ 2 ^ 53) :
    setBack.totalAt (.ofSeconds u) = if 1603587600 ≤ u then 3600 else 7200 := by
  change (OffsetTable.follow (Instant.ofSeconds u).wholeSeconds ⟨3600, 3600⟩
    [⟨1603587600, ⟨3600, 0⟩⟩]).total = _
  rw [Instant.wholeSeconds_ofSeconds hu, OffsetTable.follow]
  split <;> rfl

theorem withinDay_setBack : setBack.WithinDay := by
  intro t
  have ht : setBack.totalAt t = 3600 ∨ setBack.totalAt t = 7200 := by
    change (OffsetTable.follow t.wholeSeconds ⟨3600, 3600⟩ [⟨1603587600, ⟨3600, 0⟩⟩]).total = _ ∨
      (OffsetTable.follow t.wholeSeconds ⟨3600, 3600⟩ [⟨1603587600, ⟨3600, 0⟩⟩]).total = _
    rw [OffsetTable.follow]
    split
    · exact Or.inl rfl
    · exact Or.inr rfl
  unfold secondsPerDay
  omega

theorem changesOnceAround_setBack :
    setBack.ChangesOnceAround 1603593000 1603587600 7200 3600 where
  before_ne_after := by decide
  lt_change := by decide
  change_le := by decide
  totalAt_before u h h' := by
    unfold secondsPerDay at h
    rw [totalAt_setBack (by omega), if_neg (by omega)]
  totalAt_after u h h' := by
    unfold secondsPerDay at h'
    rw [totalAt_setBack (by omega), if_pos h]

/-- At 02:30 on the day of the change, such a clock shows the half hour twice. -/
theorem resolve_secondsOf_setBack :
    setBack.secondsOf 1603593000 = {1603585800, 1603589400} ∧
      ∀ resolution, setBack.resolve 1603593000 resolution =
        (resolution.repeated.pick 1603585800 1603589400, .fold) := by
  have hn : setBack.NamesChange 1603593000 :=
    changesOnceAround_setBack.namesChange (by decide +kernel)
  have hu : 1603585800 ∈ setBack.secondsOf 1603593000 := by
    rw [mem_secondsOf, toLocal, totalAt_setBack (by decide)]
    rfl
  have hv : 1603589400 ∈ setBack.secondsOf 1603593000 := by
    rw [mem_secondsOf, toLocal, totalAt_setBack (by decide)]
    rfl
  rcases resolve_secondsOf withinDay_setBack (Or.inr ⟨_, _, _, changesOnceAround_setBack⟩) hn with
    ⟨u, hs, -⟩ | ⟨u, v, hlt, hs, hr⟩ | ⟨hs, -⟩
  · rw [hs, Set.mem_singleton_iff] at hu hv
    omega
  · have hu' := hs ▸ hu
    have hv' := hs ▸ hv
    rw [Set.mem_insert_iff, Set.mem_singleton_iff] at hu' hv'
    obtain rfl : u = 1603585800 := by omega
    obtain rfl : v = 1603589400 := by omega
    exact ⟨hs, hr⟩
  · rw [hs] at hu
    exact absurd hu (Set.notMem_empty _)

/-- A reading that the clock shows is resolved to its first or its last second. -/
theorem toUtc_isLeast_or_isGreatest (hday : source.WithinDay)
    (hchange : source.ChangesAtMostOnce reading) (hnames : source.NamesChange reading)
    (hne : (source.secondsOf reading).Nonempty) (resolution : Resolution) :
    (resolution.repeated = .former →
      IsLeast (source.secondsOf reading) (source.toUtc reading resolution)) ∧
    (resolution.repeated = .latter →
      IsGreatest (source.secondsOf reading) (source.toUtc reading resolution)) := by
  rw [toUtc]
  rcases hchange with ⟨offset, h⟩ | ⟨change, before, after, h⟩
  · rw [secondsOf_of_constant hday h, resolve_of_constant h]
    exact ⟨fun _ => isLeast_singleton, fun _ => isGreatest_singleton⟩
  obtain ⟨u, hu⟩ := hne
  rw [h.mem_secondsOf_iff hday] at hu
  rw [h.secondsOf_eq hday, h.resolve_eq hnames]
  split
  · exact ⟨fun _ => isLeast_singleton, fun _ => isGreatest_singleton⟩
  split
  · exact ⟨fun _ => isLeast_singleton, fun _ => isGreatest_singleton⟩
  split
  · have hle : reading - before ≤ reading - after := by omega
    constructor <;> intro hr <;> rw [hr]
    · refine ⟨Set.mem_insert _ _, ?_⟩
      rintro v (rfl | rfl)
      · exact le_rfl
      · exact hle
    · refine ⟨Set.mem_insert_of_mem _ rfl, ?_⟩
      rintro v (rfl | rfl)
      · exact hle
      · exact le_rfl
  · omega

end OffsetSource

end Almanac
