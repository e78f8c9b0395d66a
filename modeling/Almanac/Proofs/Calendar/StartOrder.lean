import Mathlib
import Almanac.Binary64.Bits
import Almanac.Proofs.Instant.Fraction
import Almanac.Proofs.Calendar.Nesting

/-!
# Starts and the order of instants

The start of a unit is a whole second that is not after the second of the instant. That second is
after the instant where the fraction is carried, shortly before a second, and so is the start if the
unit begins there. Otherwise no start is after its instant.

* `Instant.nextSecond`: the whole second that an instant may be carried to.
* `Calendar.exists_startOf?_eq`: starts are whole seconds, not after the second of the instant.
* `Calendar.startOf?_nextSecond`: a carried instant has the starts of the next second.
* **`Calendar.startOf?_later_iff`**: when a start is after its instant.
* `Calendar.startOf?_later`: the last moment of 1969 is said to be in a year that begins after it.
-/

namespace Almanac

/-- The first whole second after an instant. -/
def Instant.nextSecond (t : Instant) : Instant := .ofSeconds (⌊t.seconds.toRat⌋ + 1)

namespace Calendar

variable {cal : Calendar} {offset : FixedOffset} (hzone : cal.zone = .fixed offset)
  {unit : TimeUnit} {t s : Instant}
include hzone

theorem exists_startOf?_eq (hunit : unit ≠ .nanosecond)
    (ht : t.secondsAndNanos.1.natAbs ≤ 2 ^ 52 + 1) (h : cal.startOf? unit t = some s) :
    ∃ n : ℤ, s = .ofSeconds n ∧ n ≤ t.secondsAndNanos.1 ∧ n.natAbs ≤ 2 ^ 53 := by
  have ho := offset.within_day
  rw [startOf?_fixed hzone hunit, Option.map_eq_some_iff] at h
  obtain ⟨b, hb, rfl⟩ := h
  have hle := LocalTime.beginning?_le hb
  have hexact : (b - offset.seconds).natAbs ≤ 2 ^ 53 := by
    have hmem := LocalTime.beginning?_mem hb
    unfold secondsPerDay eraStart at *
    omega
  refine ⟨b - offset.seconds, ?_, by omega, hexact⟩
  split
  · rfl
  · rw [FixedOffset.instantAt, Instant.ofSeconds_add_ofInt hexact (by decide) (by rwa [add_zero]),
      add_zero]

/-- An instant that is carried has the starts of the second that it is carried to. -/
theorem startOf?_nextSecond (hunit : unit ≠ .nanosecond)
    (ht : t.secondsAndNanos.1.natAbs ≤ 2 ^ 52 + 1)
    (hcarried : t.secondsAndNanos.1 = ⌊t.seconds.toRat⌋ + 1) :
    cal.startOf? unit t.nextSecond = cal.startOf? unit t := by
  rw [startOf?_fixed hzone hunit, startOf?_fixed hzone hunit, Instant.nextSecond, ← hcarried,
    Instant.secondsAndNanos_ofSeconds (by omega)]

theorem exists_startOf?_later (hunit : unit ≠ .nanosecond)
    (ht : Binary64.Within (2 ^ 52) 0 t.seconds) (h : cal.startOf? unit t = some s) :
    ∃ n : ℤ, s = .ofSeconds n ∧ n.natAbs ≤ 2 ^ 53 ∧
      (t.seconds.toRat < n → n = ⌊t.seconds.toRat⌋ + 1) ∧
      (t.seconds.toRat < n ↔
        t.RoundsUp ∧ cal.startOf? unit t.nextSecond = some t.nextSecond) := by
  have hfloor := Instant.floor_mem ht
  have hsecond := Instant.second_eq ht
  have hle := Int.floor_le t.seconds.toRat
  have hlt := Int.lt_floor_add_one t.seconds.toRat
  have hsmall : t.secondsAndNanos.1.natAbs ≤ 2 ^ 52 + 1 := by
    rw [hsecond]
    split <;> omega
  obtain ⟨n, rfl, hn, hexact⟩ := exists_startOf?_eq hzone hunit hsmall h
  have hafter : t.seconds.toRat < n → ⌊t.seconds.toRat⌋ + 1 ≤ n := by
    intro hlater
    have hcast : ((⌊t.seconds.toRat⌋ : ℤ) : ℚ) < n := hle.trans_lt hlater
    exact Int.cast_lt.mp hcast
  by_cases hup : t.RoundsUp
  · rw [if_pos hup] at hsecond
    have hnext : t.nextSecond = .ofSeconds n ↔ t.seconds.toRat < n := by
      constructor
      · intro heq
        have hn' := Instant.ofSeconds_inj (m := n) (n := ⌊t.seconds.toRat⌋ + 1) (by omega) heq.symm
        rw [hn']
        push_cast
        exact hlt
      · intro hlater
        have hn' := hafter hlater
        rw [Instant.nextSecond]
        congr 1
        omega
    refine ⟨n, rfl, hexact, fun hlater => ?_, ?_⟩
    · have hn' := hafter hlater
      omega
    · rw [startOf?_nextSecond hzone hunit hsmall hsecond, h, Option.some_inj, eq_comm, hnext]
      exact ⟨fun hlater => ⟨hup, hlater⟩, fun hlater => hlater.2⟩
  · rw [if_neg hup, add_zero] at hsecond
    have hearly : ¬ t.seconds.toRat < n := by
      intro hlater
      have hn' := hafter hlater
      omega
    exact ⟨n, rfl, hexact, fun hlater => absurd hlater hearly,
      iff_of_false hearly fun hlater => hup hlater.1⟩

/-- **A start is after its instant exactly if the instant is carried to a second at which the unit
begins.** It is that second then, later by at most the margin. In the order of instants, second `0` as
a start is also after the instant `-0`. No number that is 49 days or more off the epoch has a start
after it. -/
theorem startOf?_later_iff (ht : Binary64.Within (2 ^ 52) 0 t.seconds)
    (h : cal.startOf? unit t = some s) :
    (t.seconds.toRat < s.seconds.toRat ↔ unit ≠ .nanosecond ∧ t.RoundsUp ∧
      cal.startOf? unit t.nextSecond = some t.nextSecond) ∧
    (t.seconds.toRat < s.seconds.toRat →
      s = t.nextSecond ∧ s.seconds.toRat ≤ t.seconds.toRat + carryMargin) ∧
    (compare s t = .gt ↔ t.seconds.toRat < s.seconds.toRat ∨
      t.seconds = .negativeZero ∧ s = .ofSeconds 0) ∧
    (2 ^ 22 ≤ |t.seconds.toRat| → Binary64.nearest t.seconds.toRat = t.seconds.toRat →
      compare s t ≠ .gt) := by
  by_cases hunit : unit = .nanosecond
  · -- every instant is the start of its own nanosecond
    subst hunit
    obtain rfl := Option.some.inj h
    have hzero : ¬ (t.seconds = .negativeZero ∧ t = .ofSeconds 0) := by
      rintro ⟨hnegative, heq⟩
      rw [heq, Instant.seconds_ofSeconds (by decide)] at hnegative
      cases hnegative
    simp [Instant.compare_self, hzero]
  obtain ⟨n, rfl, hexact, hnext, hlater⟩ := exists_startOf?_later hzone hunit ht h
  have hvalue : (Instant.ofSeconds n).seconds.toRat = n := by
    rw [Instant.seconds_ofSeconds hexact]
    rfl
  have hzero : Instant.ofSeconds n = .ofSeconds 0 ↔ n = 0 :=
    ⟨Instant.ofSeconds_inj (by decide), congrArg Instant.ofSeconds⟩
  rw [hvalue, Instant.compare_ofSeconds_eq_gt_iff hexact ht, hzero]
  refine ⟨by simp [hlater, hunit], fun hn => ?_, Iff.rfl, fun hlarge hnumber hgt => ?_⟩
  · have hfract := Int.self_sub_floor t.seconds.toRat
    have hup : 1 - carryMargin ≤ Int.fract t.seconds.toRat := (hlater.mp hn).1
    refine ⟨by rw [hnext hn]; rfl, ?_⟩
    rw [hnext hn]
    push_cast
    linarith
  · rw [Instant.compare_ofSeconds_eq_gt_iff hexact ht] at hgt
    obtain hn | ⟨hnegative, -⟩ := hgt
    · exact Instant.not_roundsUp_of_large hlarge hnumber (hlater.mp hn).1
    · rw [hnegative] at hlarge
      norm_num [Binary64.toRat] at hlarge

omit hzone in
/-- In the zone five hours behind, the year 1970 begins at second 18000. The instant `2 ^ -32` seconds
before it is said to be in that year, and in the ISO week year that begins three days before. -/
theorem startOf?_later_iff_newYear :
    let cal : Calendar := ⟨⟨2, 4, by decide, by decide⟩, .fixed ⟨-18000, by decide⟩⟩
    let t : Instant := ⟨.finite (18000 - 1 / 2 ^ 32)⟩
    Binary64.Within (2 ^ 52) 0 t.seconds ∧ cal.startOf? .year t = some (.ofSeconds 18000) ∧
      t.seconds.toRat < (Instant.ofSeconds 18000).seconds.toRat ∧
      cal.startOf? .yearForWeekOfYear t = some (.ofSeconds (-241200)) ∧
      compare (.ofSeconds (-241200)) t ≠ .gt := by
  intro cal t
  have hwithin : Binary64.Within (2 ^ 52) 0 t.seconds := .finite (by norm_num)
  have hyear : cal.startOf? .year t = some (.ofSeconds 18000) := by decide +kernel
  have hweekYear : cal.startOf? .yearForWeekOfYear t = some (.ofSeconds (-241200)) := by
    decide +kernel
  have hlater := (startOf?_later_iff rfl hwithin hyear).1
  have hearlier := (startOf?_later_iff rfl hwithin hweekYear).2.2.1
  refine ⟨hwithin, hyear, hlater.mpr ⟨by decide, by decide +kernel, by decide +kernel⟩, hweekYear, ?_⟩
  rw [ne_eq, hearlier]
  decide +kernel

omit hzone in
/-- The last moment of 1969 is said to be in a second and in a year that begin after it. -/
theorem startOf?_later :
    let t : Instant := ⟨.ofBits 0xbdf0000000000000⟩
    t.seconds.toRat = -1 / 2 ^ 32 ∧
      standard.startOf? .second t = some (.ofSeconds 0) ∧
      standard.startOf? .year t = some (.ofSeconds 0) ∧
      t.seconds.toRat < (Instant.ofSeconds 0).seconds.toRat ∧ compare (.ofSeconds 0) t = .gt := by
  decide +kernel

end Calendar

end Almanac
