import Mathlib
import Almanac.Proofs.Zone.Change

/-!
# The next change is the first one

What the search for the next change finds is a change from the offset of the start, whatever was
changed forth and back before. If changes are at least a day apart, none of them hides between two
samples, so the first one is found.

* `ChangesAt`, `ChangesApart`: the seconds at which a value changes, and how far they are apart.
* `narrow_spec`, **`searchDays_spec`**: what is found, whatever the changes are.
* `ChangesApart.searchDays_eq`: the first change is found.
* `OffsetTable.exists_span_of_changesAt`, `OffsetTable.changesApart_of_isChain`: a table changes only
  where a span begins.
* **`Zone.nextChange_isLeast`**: both, for the search of a region.
-/

namespace Almanac

section Search

variable {total : ℤ → ℤ} {base start low high change : ℤ}

/-- `total` has another value at second `u` than at the second before. -/
def ChangesAt (total : ℤ → ℤ) (u : ℤ) : Prop := total u ≠ total (u - 1)

instance (total : ℤ → ℤ) (u : ℤ) : Decidable (ChangesAt total u) :=
  inferInstanceAs (Decidable (_ ≠ _))

/-- Any two changes after `start` are at least a day apart. -/
def ChangesApart (total : ℤ → ℤ) (start : ℤ) : Prop :=
  ∀ u v, start < u → u < v → ChangesAt total u → ChangesAt total v → u + secondsPerDay ≤ v

theorem eq_of_not_changesAt {u : ℤ} (hle : low ≤ u)
    (h : ∀ v, low < v → v ≤ u → ¬ ChangesAt total v) : total u = total low := by
  induction u, hle using Int.leInduction with
  | base => rfl
  | succ u hu ih =>
    have hlast := not_not.mp (h (u + 1) (by omega) le_rfl)
    rw [hlast, Int.add_sub_cancel]
    exact ih fun v hv hv' => h v hv (by omega)

theorem narrow_spec (hlt : low < high) (hlow : total low = base) (hhigh : total high ≠ base) :
    (low < narrow total base low high ∧ narrow total base low high ≤ high) ∧
      total (narrow total base low high - 1) = base ∧ total (narrow total base low high) ≠ base := by
  fun_induction narrow total base low high with
  | case1 low high hwide middle hm ih =>
    obtain ⟨⟨h₁, h₂⟩, hspec⟩ := ih (by omega) hm hhigh
    exact ⟨⟨by omega, h₂⟩, hspec⟩
  | case2 low high hwide middle hm ih =>
    obtain ⟨⟨h₁, h₂⟩, hspec⟩ := ih (by omega) hlow hm
    exact ⟨⟨h₁, by omega⟩, hspec⟩
  | case3 low high hnarrow =>
    have hlast : high - 1 = low := by omega
    rw [hlast]
    exact ⟨⟨hlt, le_rfl⟩, hlow, hhigh⟩

/-- **What the search finds**: a second inside the days that are looked at with another value than
`base`, which the second before has. -/
theorem searchDays_spec {days : ℕ} (hlow : total low = base)
    (h : searchDays total base days low = some change) :
    (low < change ∧ change ≤ low + days * secondsPerDay) ∧
      total (change - 1) = base ∧ total change ≠ base := by
  induction days generalizing low with
  | zero => cases h
  | succ days ih =>
    rw [searchDays] at h
    split at h
    · next hsame =>
      obtain ⟨hmem, hspec⟩ := ih hsame h
      refine ⟨?_, hspec⟩
      unfold secondsPerDay at *
      omega
    · next hother =>
      obtain ⟨hmem, hspec⟩ := narrow_spec (by unfold secondsPerDay; omega) hlow hother
      obtain rfl := Option.some.inj h
      refine ⟨?_, hspec⟩
      unfold secondsPerDay at *
      omega

theorem searchDays_eq_none {days : ℕ}
    (h : ∀ u, low < u → u ≤ low + days * secondsPerDay → total u = base) :
    searchDays total base days low = none := by
  induction days generalizing low with
  | zero => rfl
  | succ days ih =>
    have hday : secondsPerDay = 86400 := rfl
    rw [searchDays, if_pos (h _ (by omega) (by unfold secondsPerDay; omega))]
    refine ih fun u hu hu' => h u (by omega) ?_
    unfold secondsPerDay at *
    omega

theorem ChangesApart.searchDays_eq {days : ℕ} (hapart : ChangesApart total low)
    (hfirst : IsLeast {u | low < u ∧ ChangesAt total u} change)
    (hle : change ≤ low + days * secondsPerDay) :
    searchDays total (total low) days low = some change := by
  obtain ⟨⟨hlt, hchange⟩, hleast⟩ := hfirst
  have hbefore : ∀ u, low ≤ u → u < change → total u = total low := by
    intro u hu hu'
    refine eq_of_not_changesAt hu fun v hv hv' hc => ?_
    have := hleast ⟨hv, hc⟩
    omega
  refine Almanac.searchDays_eq hbefore (fun u hu hu' _ => ?_) hlt hle
  have hstay : total u = total change := by
    refine eq_of_not_changesAt hu fun v hv hv' hc => ?_
    have := hapart change v hlt hv hchange hc
    omega
  rw [hstay, ← hbefore (change - 1) (by omega) (by omega)]
  exact hchange

theorem exists_isLeast_changesAt (h : ∃ u, (low < u ∧ u ≤ high) ∧ ChangesAt total u) :
    ∃ change, IsLeast {u | low < u ∧ ChangesAt total u} change ∧ change ≤ high := by
  obtain ⟨u, ⟨hlow, hhigh⟩, hu⟩ := h
  obtain ⟨change, hmem, hleast⟩ := Int.exists_least_of_bdd
    (P := fun u => low < u ∧ ChangesAt total u) ⟨low, fun u hu => hu.1.le⟩ ⟨u, hlow, hu⟩
  exact ⟨change, ⟨hmem, fun v hv => hleast v hv⟩, (hleast u ⟨hlow, hu⟩).trans hhigh⟩

theorem ChangesApart.searchDays_eq_none_iff {days : ℕ} (hapart : ChangesApart total low) :
    searchDays total (total low) days low = none ↔
      ∀ u, low < u → u ≤ low + days * secondsPerDay → ¬ ChangesAt total u := by
  constructor
  · intro hnone u hu hu' hc
    obtain ⟨change, hfirst, hle⟩ := exists_isLeast_changesAt ⟨u, ⟨hu, hu'⟩, hc⟩
    rw [hapart.searchDays_eq hfirst hle] at hnone
    cases hnone
  · intro h
    exact searchDays_eq_none fun u hu hu' =>
      eq_of_not_changesAt hu.le fun v hv hv' => h v hv (hv'.trans hu')

end Search

/-! ## Regions -/

/-- The span `a` begins at least a day before `b`. -/
def Span.IsDayBefore (a b : Span) : Prop := a.start + secondsPerDay ≤ b.start

instance : DecidableRel Span.IsDayBefore := fun _ _ => inferInstanceAs (Decidable (_ ≤ _))

instance : Trans Span.IsDayBefore Span.IsDayBefore Span.IsDayBefore where
  trans {a b c} hab hbc := by
    unfold Span.IsDayBefore secondsPerDay at *
    omega

namespace OffsetTable

variable {table : OffsetTable} {start : ℤ}

theorem exists_span_of_changesAt {u : ℤ} (h : ChangesAt table.totalAt u) :
    ∃ span ∈ table.later, span.start = u := by
  by_contra hnone
  refine h (totalAt_eq (fun span hs => ?_) (by omega))
  have hne : span.start ≠ u := fun heq => hnone ⟨span, hs, heq⟩
  omega

theorem changesApart_of_isChain (h : table.later.IsChain Span.IsDayBefore) (start : ℤ) :
    ChangesApart table.totalAt start := by
  have hspans : table.later.Pairwise Span.IsDayBefore := h.pairwise
  have hforth : table.later.Pairwise fun a b => a.start < b.start → a.IsDayBefore b := by
    refine hspans.imp fun {a b} hab _ => ?_
    exact hab
  have hback : table.later.Pairwise fun a b => b.start < a.start → b.IsDayBefore a := by
    refine hspans.imp fun {a b} hab hlt => ?_
    unfold Span.IsDayBefore secondsPerDay at *
    omega
  have hdays := List.Pairwise.forall_of_forall_of_flip
    (fun a _ hlt => absurd hlt (lt_irrefl a.start)) hforth hback
  intro u v _ hlt hu hv
  obtain ⟨a, ha, rfl⟩ := exists_span_of_changesAt hu
  obtain ⟨b, hb, rfl⟩ := exists_span_of_changesAt hv
  exact hdays ha hb hlt

end OffsetTable

/-- The offsets of every known region change at least a day apart. -/
theorem Region.changesApart_database {name : String} {table : OffsetTable}
    (h : (name, table) ∈ database) (start : ℤ) : ChangesApart table.totalAt start := by
  have hchain : ∀ entry ∈ database, entry.2.later.IsChain Span.IsDayBefore := by decide +kernel
  exact OffsetTable.changesApart_of_isChain (hchain _ h) start

namespace Zone

/-- **The next change of a region.** What is found lies within fifty years after `start`, and is a
change from the offset of the start. If changes are at least a day apart, it is the first change,
and nothing is found only if there is none in these years. -/
theorem nextChange_isLeast (name : String) (table : OffsetTable) {start : ℤ}
    (hstart : start.natAbs ≤ 2 ^ 52) :
    (∀ t, (region name table).source.nextChange (.ofSeconds start) = some t →
      ∃ u, t = .ofSeconds u ∧ (start < u ∧ u ≤ start + changeHorizon * secondsPerDay) ∧
        (table.totalAt (u - 1) = table.totalAt start ∧ table.totalAt u ≠ table.totalAt start) ∧
        (ChangesApart table.totalAt start →
          IsLeast {v | start < v ∧ ChangesAt table.totalAt v} u)) ∧
    (ChangesApart table.totalAt start →
      ((region name table).source.nextChange (.ofSeconds start) = none ↔
        ∀ v, start < v → v ≤ start + changeHorizon * secondsPerDay →
          ¬ ChangesAt table.totalAt v)) := by
  have hnext : (region name table).source.nextChange (.ofSeconds start) =
      (searchDays table.totalAt (table.totalAt start) changeHorizon start).map .ofSeconds := by
    change (nextChange? table.totalAt (Instant.ofSeconds start).wholeSeconds).map _ = _
    rw [Instant.wholeSeconds_ofSeconds (by omega), nextChange?]
  rw [hnext]
  refine ⟨fun t ht => ?_, fun hapart => ?_⟩
  · obtain ⟨u, hu, rfl⟩ := Option.map_eq_some_iff.mp ht
    obtain ⟨hmem, hspec⟩ := searchDays_spec rfl hu
    refine ⟨u, rfl, hmem, hspec, fun hapart => ?_⟩
    have hchange : ChangesAt table.totalAt u := by
      rw [ChangesAt, hspec.1]
      exact hspec.2
    obtain ⟨change, hfirst, hle⟩ := exists_isLeast_changesAt ⟨u, hmem, hchange⟩
    rw [hapart.searchDays_eq hfirst hle] at hu
    rwa [← Option.some.inj hu]
  · rw [Option.map_eq_none_iff]
    exact hapart.searchDays_eq_none_iff

/-- From 2012 on, the next change of Moscow is the one of October 2014. -/
theorem nextChange_isLeast_moscow :
    (region "Europe/Moscow" Region.moscow).source.nextChange (.ofSeconds 1325376000) =
      some (.ofSeconds 1414274400) := by
  have hapart : ChangesApart Region.moscow.totalAt 1325376000 :=
    Region.changesApart_database
      (by decide +kernel : ("Europe/Moscow", Region.moscow) ∈ Region.database) _
  have hchange : ChangesAt Region.moscow.totalAt 1414274400 := by decide +kernel
  obtain ⟨hfound, hnone⟩ := nextChange_isLeast "Europe/Moscow" Region.moscow
    (by decide : (1325376000 : ℤ).natAbs ≤ 2 ^ 52)
  cases ht : (region "Europe/Moscow" Region.moscow).source.nextChange (.ofSeconds 1325376000) with
  | none => exact absurd hchange ((hnone hapart).mp ht _ (by decide) (by decide))
  | some t =>
    obtain ⟨u, rfl, -, -, hleast⟩ := hfound t ht
    obtain ⟨⟨hlt, hu⟩, hle⟩ := hleast hapart
    obtain ⟨span, hspan, rfl⟩ := OffsetTable.exists_span_of_changesAt hu
    have hspans : ∀ span ∈ Region.moscow.later,
        1325376000 < span.start → 1414274400 ≤ span.start := by decide +kernel
    have hlow := hspans span hspan hlt
    have hhigh := hle ⟨by decide, hchange⟩
    obtain heq : span.start = 1414274400 := by omega
    rw [heq]

end Zone

end Almanac
