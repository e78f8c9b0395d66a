import Mathlib
import Almanac.Proofs.WallClock.Resolve
import Almanac.Zone.Text

/-!
# The changes of a zone

The search for the next change goes in steps of a day and then halves the day that it stops at. It
finds a change that is not undone before the end of that day.

* `narrow_eq`: halving finds the second at which a value is left for good.
* `searchDays_eq`: so does the search, as far as its days reach.
* `OffsetTable.totalAt_source`, `OffsetTable.withinDay_source`,
  `OffsetTable.changesOnceAround_source`: the source of a table.
* `Zone.withinDay_of_ofText`, `Zone.withinDay_of_known`: zones that texts name have offsets of less
  than a day.
* **`Zone.namesChange`**: a zone finds the single change around a reading.
-/

namespace Almanac

section Search

variable {total : ℤ → ℤ} {base low high change : ℤ}

theorem narrow_eq (hlow : ∀ u, low ≤ u → u < change → total u = base)
    (hhigh : ∀ u, change ≤ u → u ≤ high → total u ≠ base) (h₁ : low < change)
    (h₂ : change ≤ high) : narrow total base low high = change := by
  fun_induction narrow total base low high with
  | case1 low high hwide middle hm ih =>
    have hlt : middle < change := by
      by_contra hge
      exact hhigh middle (by omega) (by omega) hm
    exact ih (fun u hu => hlow u (by omega)) hhigh hlt h₂
  | case2 low high hwide middle hm ih =>
    have hge : change ≤ middle := by
      by_contra hlt
      exact hm (hlow middle (by omega) (by omega))
    exact ih hlow (fun u hu hu' => hhigh u hu (by omega)) h₁ hge
  | case3 low high hnarrow => omega

/-- The search finds the second `change` if `total` stays other than `base` for a day from there
on, or to the end of the days that are looked at. -/
theorem searchDays_eq {days : ℕ} (hlow : ∀ u, low ≤ u → u < change → total u = base)
    (hchange : ∀ u, change ≤ u → u < change + secondsPerDay → u ≤ low + days * secondsPerDay →
      total u ≠ base)
    (h₁ : low < change) (h₂ : change ≤ low + days * secondsPerDay) :
    searchDays total base days low = some change := by
  induction days generalizing low with
  | zero =>
    simp only [Nat.cast_zero, zero_mul, add_zero] at h₂
    omega
  | succ days ih =>
    have hend : low + ((days + 1 : ℕ) : ℤ) * secondsPerDay =
        low + secondsPerDay + days * secondsPerDay := by
      push_cast
      ring
    have hnonneg : (0 : ℤ) ≤ days * secondsPerDay := by
      unfold secondsPerDay
      positivity
    rw [hend] at hchange h₂
    rw [searchDays]
    by_cases hc : change ≤ low + secondsPerDay
    · have hend' := hchange (low + secondsPerDay) hc (by omega) (by omega)
      rw [if_neg hend', narrow_eq hlow (fun u hu hu' => hchange u hu (by omega) (by omega)) h₁ hc]
    · have hend' := hlow (low + secondsPerDay) (by unfold secondsPerDay; omega) (by omega)
      rw [if_pos hend']
      exact ih (fun u hu => hlow u (by unfold secondsPerDay at hu; omega)) hchange (by omega) h₂

theorem searchDays_add {days : ℕ} (more : ℕ) (h : searchDays total base days low = some change) :
    searchDays total base (days + more) low = some change := by
  induction days generalizing low with
  | zero => simp [searchDays] at h
  | succ days ih =>
    rw [Nat.add_right_comm, searchDays]
    rw [searchDays] at h
    split
    · rename_i hb
      rw [if_pos hb] at h
      exact ih h
    · rename_i hb
      rwa [if_neg hb] at h

end Search

/-! ## Tables -/

namespace OffsetTable

theorem totalAt_source (table : OffsetTable) {u : ℤ} (hu : u.natAbs ≤ 2 ^ 53) :
    table.source.totalAt (.ofSeconds u) = table.totalAt u := by
  change table.totalAt (Instant.ofSeconds u).wholeSeconds = table.totalAt u
  rw [Instant.wholeSeconds_ofSeconds hu]

theorem follow_mem (second : ℤ) (current : Offsets) (spans : List Span) :
    follow second current spans = current ∨
      ∃ span ∈ spans, follow second current spans = span.offsets := by
  induction spans generalizing current with
  | nil => exact Or.inl rfl
  | cons span rest ih =>
    rw [follow]
    split
    · rcases ih span.offsets with h | ⟨other, ho, h⟩
      · exact Or.inr ⟨span, List.mem_cons_self, h⟩
      · exact Or.inr ⟨other, List.mem_cons_of_mem _ ho, h⟩
    · exact Or.inl rfl

theorem follow_eq {low second : ℤ} {spans : List Span}
    (h : ∀ span ∈ spans, span.start ≤ low ∨ second < span.start) (hle : low ≤ second)
    (current : Offsets) : follow second current spans = follow low current spans := by
  induction spans generalizing current with
  | nil => rfl
  | cons span rest ih =>
    have hiff : span.start ≤ second ↔ span.start ≤ low := by
      have hs := h span List.mem_cons_self
      omega
    rw [follow, follow, ih fun other ho => h other (List.mem_cons_of_mem _ ho)]
    simp only [hiff]

/-- A table whose spans all have offsets of less than a day. -/
def WithinDay (table : OffsetTable) : Prop :=
  (-secondsPerDay < table.first.total ∧ table.first.total < secondsPerDay) ∧
    ∀ span ∈ table.later,
      -secondsPerDay < span.offsets.total ∧ span.offsets.total < secondsPerDay

instance (table : OffsetTable) : Decidable table.WithinDay := inferInstanceAs (Decidable (_ ∧ _))

theorem withinDay_source {table : OffsetTable} (h : table.WithinDay) : table.source.WithinDay := by
  intro t
  change -secondsPerDay < (follow t.wholeSeconds table.first table.later).total ∧
    (follow t.wholeSeconds table.first table.later).total < secondsPerDay
  rcases follow_mem t.wholeSeconds table.first table.later with hf | ⟨span, hs, hf⟩
  · rw [hf]
    exact h.1
  · rw [hf]
    exact h.2 span hs

variable {table : OffsetTable} {reading : ℤ}

theorem totalAt_eq {low second : ℤ}
    (h : ∀ span ∈ table.later, span.start ≤ low ∨ second < span.start) (hle : low ≤ second) :
    table.totalAt second = table.totalAt low := by
  rw [totalAt, totalAt, offsetsAt, offsetsAt, follow_eq h hle]

theorem namesChange_source (h₁ : (reading - secondsPerDay).natAbs ≤ 2 ^ 53)
    (h₂ : (reading + secondsPerDay).natAbs ≤ 2 ^ 53) : table.source.NamesChange reading := by
  intro change before after h
  have hlow := h.lt_change
  have hhigh := h.change_le
  have hbefore : ∀ u, reading - secondsPerDay ≤ u → u < change → table.totalAt u = before := by
    intro u hu hu'
    rw [← table.totalAt_source (by omega), h.totalAt_before u hu hu']
  have hafter : ∀ u, change ≤ u → u ≤ reading + secondsPerDay → table.totalAt u = after := by
    intro u hu hu'
    rw [← table.totalAt_source (by omega), h.totalAt_after u hu hu']
  have hbase : table.totalAt (reading - secondsPerDay) = before := hbefore _ le_rfl hlow
  -- the change lies in the first two days, and the offsets stay to the end of the second
  have htwo : reading - secondsPerDay + ((2 : ℕ) : ℤ) * secondsPerDay = reading + secondsPerDay := by
    push_cast
    ring
  have hfound : searchDays table.totalAt before 2 (reading - secondsPerDay) = some change := by
    refine searchDays_eq hbefore (fun u hu _ hu' => ?_) hlow (by rwa [htwo])
    rw [hafter u hu (by rwa [htwo] at hu')]
    exact h.before_ne_after.symm
  change ((nextChange? table.totalAt (Instant.ofSeconds (reading - secondsPerDay)).wholeSeconds).map
    Instant.ofSeconds).map Instant.wholeSeconds = some change
  rw [Instant.wholeSeconds_ofSeconds h₁, nextChange?, hbase,
    show changeHorizon = 2 + 18298 from rfl, searchDays_add 18298 hfound, Option.map_some,
    Option.map_some, Instant.wholeSeconds_ofSeconds (by omega)]

theorem totalAt_source_eq {low high u : ℤ}
    (hspans : ∀ span ∈ table.later, span.start ≤ low ∨ high < span.start) (hlow : low ≤ u)
    (hhigh : u ≤ high) (hu : u.natAbs ≤ 2 ^ 53) :
    table.source.totalAt (.ofSeconds u) = table.totalAt low := by
  rw [table.totalAt_source hu]
  refine totalAt_eq (fun span hs => ?_) hlow
  have hspan := hspans span hs
  omega

theorem constantAround_source {offset : ℤ} (hsize : reading.natAbs < 4000000000000000)
    (hspans : ∀ span ∈ table.later, span.start ≤ reading - secondsPerDay ∨
      reading + secondsPerDay < span.start)
    (h : table.totalAt (reading - secondsPerDay) = offset) :
    table.source.ConstantAround reading offset := by
  have hday : secondsPerDay = 86400 := rfl
  intro u hu hu'
  rw [totalAt_source_eq hspans hu hu' (by omega), h]

/-- A table changes once around a reading where it has another offset from `change` on and no other
span begins. -/
theorem changesOnceAround_source {change before after : ℤ}
    (hsize : reading.natAbs < 4000000000000000)
    (hspans : ∀ span ∈ table.later, span.start ≤ reading - secondsPerDay ∨ span.start = change ∨
      reading + secondsPerDay < span.start)
    (hbefore : table.totalAt (reading - secondsPerDay) = before)
    (hafter : table.totalAt change = after) (hne : before ≠ after)
    (h₁ : reading - secondsPerDay < change) (h₂ : change ≤ reading + secondsPerDay) :
    table.source.ChangesOnceAround reading change before after := by
  have hday : secondsPerDay = 86400 := rfl
  refine ⟨hne, h₁, h₂, ?_, ?_⟩
  · intro u hu hu'
    have hlow : ∀ span ∈ table.later, span.start ≤ reading - secondsPerDay ∨ u < span.start := by
      intro span hs
      have hspan := hspans span hs
      omega
    rw [totalAt_source_eq hlow hu le_rfl (by omega), hbefore]
  · intro u hu hu'
    have hlow : ∀ span ∈ table.later, span.start ≤ change ∨ reading + secondsPerDay < span.start := by
      intro span hs
      have hspan := hspans span hs
      omega
    rw [totalAt_source_eq hlow hu hu' (by omega), hafter]

end OffsetTable

theorem Region.withinDay_of_find? {name : String} {table : OffsetTable}
    (h : find? name = some table) : table.WithinDay := by
  have hall : ∀ entry ∈ database, entry.2.WithinDay := by decide +kernel
  obtain ⟨before, after, hl, -⟩ := List.lookup_eq_some_iff.mp h
  refine hall (name, table) ?_
  rw [hl]
  exact List.mem_append_right _ List.mem_cons_self

/-! ## Zones -/

namespace OffsetSource

variable {offset reading : ℤ}

theorem totalAt_constant (t : Instant) : (constant offset).totalAt t = offset := by
  change offset + 0 = offset
  exact add_zero offset

theorem constantAround_constant : (constant offset).ConstantAround reading offset :=
  fun _ _ _ => totalAt_constant _

theorem namesChange_constant : (constant offset).NamesChange reading := by
  intro change before after h
  have hb := h.totalAt_before _ le_rfl h.lt_change
  have ha := h.totalAt_after _ h.change_le le_rfl
  rw [totalAt_constant] at hb ha
  exact absurd (hb.symm.trans ha) h.before_ne_after

end OffsetSource

namespace Zone

theorem withinDay_fixed (offset : FixedOffset) : (fixed offset).source.WithinDay := by
  intro t
  rw [source, OffsetSource.totalAt_constant]
  exact offset.within_day

/-- The zones that texts name have offsets of less than a day if regions do. -/
theorem withinDay_of_ofText {text : String} {regions : String → Option OffsetTable} {zone : Zone}
    (hregions : ∀ name table, regions name = some table → table.WithinDay)
    (h : ofText text regions = .ok zone) : zone.source.WithinDay := by
  simp only [ofText] at h
  cases hregion : regions (trimBlanks text) with
  | some table =>
    rw [hregion] at h
    cases h
    exact OffsetTable.withinDay_source (hregions _ _ hregion)
  | none =>
    rw [hregion] at h
    dsimp only at h
    split at h
    · cases h
      exact withinDay_fixed _
    · cases h

theorem withinDay_of_known {text : String} {zone : Zone} (h : ofText text = .ok zone) :
    zone.source.WithinDay :=
  withinDay_of_ofText (fun _ _ => Region.withinDay_of_find?) h

/-- **A zone finds the single change around a reading.** -/
theorem namesChange (zone : Zone) {reading : ℤ}
    (h₁ : (reading - secondsPerDay).natAbs ≤ 2 ^ 53)
    (h₂ : (reading + secondsPerDay).natAbs ≤ 2 ^ 53) : zone.source.NamesChange reading := by
  cases zone with
  | fixed offset => exact OffsetSource.namesChange_constant
  | region name table => exact OffsetTable.namesChange_source h₁ h₂

end Zone

end Almanac
