import Mathlib
import Almanac.Proofs.Calendar.Cycle
import Almanac.Proofs.Calendar.DaySteps
import Almanac.Calendar.Start

/-!
# The time of day across changes of the offset

Hours, minutes and seconds are read off the wall clock, but instants are moved by elapsed seconds.
The two agree as long as the clock is not changed in between. Otherwise what is shown in the end is
off by as much as the clock was changed.

* `LocalTime.SameThrough`: two local times of the same day, hour or minute;
  `LocalTime.sameThrough_iff` says so of their readings.
* `Calendar.RunsFrom`: an hour or a minute that runs from one second to another.
* **`Calendar.startOf?_clock_runs`**: the start of an hour or a minute, and when they run from it.
* **`Calendar.add?_clock_turns`**: cyclic moves of the time of day, and when they stay in the day, the
  hour or the minute.
-/

namespace Almanac

/-- The seconds that a wall clock counts in a day, an hour or a minute. -/
def TimeUnit.clockLength? : TimeUnit → Option ℤ
  | .day => some secondsPerDay
  | .hour => some 3600
  | .minute => some 60
  | _ => none

theorem TimeUnit.clockLength_mem {unit : TimeUnit} {length : ℤ}
    (hlength : unit.clockLength? = some length) : 0 < length ∧ length ≤ secondsPerDay := by
  cases unit with
  | day | hour | minute =>
    obtain rfl := Option.some.inj hlength
    decide
  | _ => cases hlength

theorem TimeUnit.exists_clockLength {unit container : TimeUnit}
    (hunit : unit.clockContainer? = some container) :
    ∃ length, container.clockLength? = some length := by
  cases unit with
  | hour | minute | second =>
    obtain rfl := Option.some.inj hunit
    exact ⟨_, rfl⟩
  | _ => cases hunit

theorem Date.ofDayNumber_inj {a b : ℤ} : ofDayNumber a = ofDayNumber b ↔ a = b :=
  ⟨fun h => by rw [← dayNumber_ofDayNumber a, h, dayNumber_ofDayNumber], fun h => h ▸ rfl⟩

variable {unit container : TimeUnit} {reading reading' length amount : ℤ}

namespace LocalTime

/-- Two local times of the same day, the same hour or the same minute. -/
inductive SameThrough (l l' : LocalTime) : TimeUnit → Prop where
  | day (hdate : l'.date = l.date) : SameThrough l l' .day
  | hour (hdate : l'.date = l.date) (hhour : l'.hour = l.hour) : SameThrough l l' .hour
  | minute (hdate : l'.date = l.date) (hhour : l'.hour = l.hour) (hminute : l'.minute = l.minute) :
      SameThrough l l' .minute

theorem Cycled.sameThrough {l l' : LocalTime} {weeks : WeekNumbering}
    (h : l.Cycled weeks amount l' unit) (hunit : unit.clockContainer? = some container) :
    l.SameThrough l' container := by
  cases h with
  | hour hdate =>
    obtain rfl := Option.some.inj hunit
    exact .day hdate
  | minute hdate hhour =>
    obtain rfl := Option.some.inj hunit
    exact .hour hdate hhour
  | second hdate hhour hminute =>
    obtain rfl := Option.some.inj hunit
    exact .minute hdate hhour hminute
  | _ => cases hunit

theorem sameThrough_nanos_iff (hlength : unit.clockLength? = some length) (nanos nanos' : ℤ) :
    SameThrough { ofReading reading with nanosecond := nanos }
      { ofReading reading' with nanosecond := nanos' } unit ↔
        reading' / length = reading / length := by
  constructor
  · intro h
    cases h with
    | day hdate =>
      obtain rfl := Option.some.inj hlength
      exact Date.ofDayNumber_inj.mp hdate
    | hour hdate hhour =>
      obtain rfl := Option.some.inj hlength
      have hday := Date.ofDayNumber_inj.mp hdate
      simp only [hour, ofReading] at hhour
      unfold secondsPerDay at *
      omega
    | minute hdate hhour hminute =>
      obtain rfl := Option.some.inj hlength
      have hday := Date.ofDayNumber_inj.mp hdate
      simp only [hour, minute, ofReading] at hhour hminute
      unfold secondsPerDay at *
      omega
  · intro h
    have hdate : reading' / secondsPerDay = reading / secondsPerDay →
        (ofReading reading').date = (ofReading reading).date := Date.ofDayNumber_inj.mpr
    unfold secondsPerDay at hdate
    cases unit with
    | day =>
      obtain rfl := Option.some.inj hlength
      exact .day (hdate h)
    | hour =>
      obtain rfl := Option.some.inj hlength
      refine .hour (hdate (by omega)) ?_
      simp only [hour, ofReading]
      unfold secondsPerDay
      omega
    | minute =>
      obtain rfl := Option.some.inj hlength
      refine .minute (hdate (by omega)) ?_ ?_
      all_goals
        simp only [hour, minute, ofReading]
        unfold secondsPerDay
        omega
    | _ => cases hlength

theorem sameThrough_iff (hlength : unit.clockLength? = some length) :
    (ofReading reading).SameThrough (ofReading reading') unit ↔
      reading' / length = reading / length := sameThrough_nanos_iff hlength 0 0

end LocalTime

namespace Calendar

variable {cal : Calendar} {n s : ℤ}

theorem sameThrough_localTime_iff (hlength : unit.clockLength? = some length) (t t' : Instant) :
    (cal.localTime t).SameThrough (cal.localTime t') unit ↔
      cal.zone.source.toLocal t'.secondsAndNanos.1 / length =
        cal.zone.source.toLocal t.secondsAndNanos.1 / length := by
  rw [localTime_eq, localTime_eq, LocalTime.sameThrough_nanos_iff hlength]

theorem sameThrough_ofSeconds_iff (hlength : unit.clockLength? = some length)
    (hn : n.natAbs ≤ 2 ^ 53) (t : Instant) :
    (cal.localTime (.ofSeconds n)).SameThrough (cal.localTime t) unit ↔
      cal.zone.source.toLocal t.secondsAndNanos.1 / length =
        cal.zone.source.toLocal n / length := by
  rw [sameThrough_localTime_iff hlength, Instant.secondsAndNanos_ofSeconds hn]

/-! ## Starts -/

/-- From second `s` to second `n` it is the same hour or minute, and `s` is its own start. -/
structure RunsFrom (cal : Calendar) (unit : TimeUnit) (s n : ℤ) : Prop where
  same : ∀ t, s ≤ t.secondsAndNanos.1 → t.secondsAndNanos.1 ≤ n →
    (cal.localTime (.ofSeconds n)).SameThrough (cal.localTime t) unit
  startOf?_self : cal.startOf? unit (.ofSeconds s) = some (.ofSeconds s)

theorem startOf?_clock_eq (hunit : unit = .hour ∨ unit = .minute)
    (hlength : unit.clockLength? = some length) (hn : n.natAbs ≤ 2 ^ 53) :
    cal.startOf? unit (.ofSeconds n) =
      some (.ofSeconds (n - cal.zone.source.toLocal n % length)) := by
  have htruncate : ∀ length, length ∣ secondsPerDay → cal.truncate (.ofSeconds n) length =
      .ofSeconds (n - cal.zone.source.toLocal n % length) := by
    intro length hd
    rw [truncate, Instant.secondsAndNanos_ofSeconds hn, cal.localTime_ofSeconds hn]
    change Instant.ofSeconds (n - cal.zone.source.toLocal n % secondsPerDay % length) = _
    rw [Int.emod_emod_of_dvd _ hd]
  rcases hunit with rfl | rfl
  · obtain rfl := Option.some.inj hlength
    exact congrArg some (htruncate 3600 (by decide))
  · obtain rfl := Option.some.inj hlength
    exact congrArg some (htruncate 60 (by decide))

theorem startOf?_clock_self_iff (cal : Calendar) (hunit : unit = .hour ∨ unit = .minute)
    (hlength : unit.clockLength? = some length) (hs : s.natAbs < 2 ^ 53) :
    cal.startOf? unit (.ofSeconds s) = some (.ofSeconds s) ↔
      cal.zone.source.toLocal s % length = 0 := by
  rw [startOf?_clock_eq hunit hlength hs.le, Option.some_inj]
  constructor
  · intro hself
    have hback := Instant.ofSeconds_inj hs hself
    omega
  · intro hzero
    rw [hzero, sub_zero]

section RunsFrom

variable (hunit : unit = .hour ∨ unit = .minute) (hlength : unit.clockLength? = some length)
  (hn : n.natAbs ≤ 2 ^ 53) (hs : s.natAbs < 2 ^ 53)
  (hback : n - s = cal.zone.source.toLocal n % length)
include hunit hlength hn hs hback

theorem runsFrom_of_totalAt (hkeep : ∀ u, s ≤ u → u ≤ n →
    cal.zone.source.totalAt (.ofSeconds u) = cal.zone.source.totalAt (.ofSeconds n)) :
    cal.RunsFrom unit s n := by
  have hpos := (TimeUnit.clockLength_mem hlength).1
  have hrest := emod_mem (cal.zone.source.toLocal n) hpos
  have hsplit := Int.ediv_mul_add_emod (cal.zone.source.toLocal n) length
  have hshown : ∀ u, s ≤ u → u ≤ n →
      cal.zone.source.toLocal u = cal.zone.source.toLocal n - (n - u) := by
    intro u hu hu'
    rw [OffsetSource.toLocal, hkeep u hu hu', OffsetSource.toLocal]
    omega
  constructor
  · intro t ht ht'
    rw [sameThrough_ofSeconds_iff hlength hn, hshown _ ht ht']
    -- the reading lies between the beginning of the unit and the reading at `n`
    refine le_antisymm (Int.ediv_le_ediv hpos (by omega)) ?_
    exact Int.le_ediv_of_mul_le hpos (by omega)
  · rw [cal.startOf?_clock_self_iff hunit hlength hs, hshown s le_rfl (by omega), hback,
      Int.sub_emod, Int.emod_emod, sub_self, Int.zero_emod]

theorem RunsFrom.totalAt_eq (hruns : cal.RunsFrom unit s n) :
    cal.zone.source.totalAt (.ofSeconds s) = cal.zone.source.totalAt (.ofSeconds n) := by
  have hrest := emod_mem (cal.zone.source.toLocal n) (TimeUnit.clockLength_mem hlength).1
  have hzero := (cal.startOf?_clock_self_iff hunit hlength hs).mp hruns.startOf?_self
  have hsplits := Instant.secondsAndNanos_ofSeconds hs.le
  have hsame := hruns.same (.ofSeconds s) (by rw [hsplits]) (by rw [hsplits]; dsimp only; omega)
  rw [sameThrough_ofSeconds_iff hlength hn, hsplits] at hsame
  -- so the two readings are as far apart as the two seconds
  have hstart := Int.ediv_mul_add_emod (cal.zone.source.toLocal s) length
  have hsplit := Int.ediv_mul_add_emod (cal.zone.source.toLocal n) length
  rw [hsame, hzero] at hstart
  unfold OffsetSource.toLocal at *
  omega

end RunsFrom

/-- **Starts of hours and minutes.** The start is as many elapsed seconds back as the clock shows past
the hour or the minute. With one offset all the way from the start, the unit runs from there; it
never does so if the offset at the start is another one, as the start then shows the beginning of
the unit moved by the difference. -/
theorem startOf?_clock_runs (hunit : unit = .hour ∨ unit = .minute)
    (hlength : unit.clockLength? = some length) (hexact : ExactAround n) :
    ∃ s, cal.startOf? unit (.ofSeconds n) = some (.ofSeconds s) ∧
      (s ≤ n ∧ n - s = cal.zone.source.toLocal n % length) ∧
      cal.zone.source.toLocal s = cal.zone.source.toLocal n / length * length +
        (cal.zone.source.totalAt (.ofSeconds s) - cal.zone.source.totalAt (.ofSeconds n)) ∧
      ((∀ u, s ≤ u → u ≤ n → cal.zone.source.totalAt (.ofSeconds u) =
        cal.zone.source.totalAt (.ofSeconds n)) → cal.RunsFrom unit s n) ∧
      (cal.RunsFrom unit s n → cal.zone.source.totalAt (.ofSeconds s) =
        cal.zone.source.totalAt (.ofSeconds n)) := by
  have hpos := TimeUnit.clockLength_mem hlength
  have hrest := emod_mem (cal.zone.source.toLocal n) hpos.1
  have hsplit := Int.ediv_mul_add_emod (cal.zone.source.toLocal n) length
  unfold ExactAround at hexact
  obtain ⟨s, hs⟩ : ∃ s, s = n - cal.zone.source.toLocal n % length := ⟨_, rfl⟩
  have hn : n.natAbs ≤ 2 ^ 53 := by omega
  have hs53 : s.natAbs < 2 ^ 53 := by omega
  have hback : n - s = cal.zone.source.toLocal n % length := by omega
  refine ⟨s, hs ▸ startOf?_clock_eq hunit hlength hn, ⟨by omega, hback⟩, ?_,
    runsFrom_of_totalAt hunit hlength hn hs53 hback, RunsFrom.totalAt_eq hunit hlength hn hs53 hback⟩
  unfold OffsetSource.toLocal at *
  omega

/-- In Los Angeles, the second pass of the hour from 01:00 runs from the second at which the clock is
set back. -/
theorem startOf?_clock_runs_secondPass :
    let cal : Calendar := ⟨.sunday, .region "America/Los_Angeles" Region.losAngeles⟩
    cal.startOf? .hour (.ofSeconds 1699176892) = some (.ofSeconds 1699174800) ∧
      cal.RunsFrom .hour 1699174800 1699176892 := by
  intro cal
  have htotal : ∀ u, 1699174800 ≤ u → u ≤ 1699176892 →
      cal.zone.source.totalAt (.ofSeconds u) = -28800 := by
    intro u hu hu'
    have hspans : ∀ span ∈ Region.losAngeles.later,
        span.start ≤ 1699174800 ∨ 1699176892 < span.start := by decide +kernel
    change Region.losAngeles.source.totalAt _ = _
    rw [OffsetTable.totalAt_source_eq hspans hu hu' (by omega)]
    decide +kernel
  have hlocal : cal.zone.source.toLocal 1699176892 = 1699148092 := by
    rw [OffsetSource.toLocal, htotal _ (by decide) (by decide)]
    rfl
  obtain ⟨s, hs, ⟨-, hback⟩, -, hruns, -⟩ :=
    cal.startOf?_clock_runs (Or.inl rfl) rfl (⟨by decide, by decide⟩ : ExactAround 1699176892)
  rw [hlocal] at hback
  obtain rfl : s = 1699174800 := by omega
  exact ⟨hs, hruns fun u hu hu' => by rw [htotal u hu hu', htotal _ (by decide) le_rfl]⟩

/-- In Lord Howe the clock is set forward from 02:00 to 02:30. The start of the hour at that moment is
a second that shows 01:30, and its start is another one. -/
theorem startOf?_hour_outside :
    let cal : Calendar := ⟨.sunday, .region "Australia/Lord_Howe" Region.lordHowe⟩
    cal.startOf? .hour (.ofSeconds 1570289400) = some (.ofSeconds 1570287600) ∧
      (cal.localTime (.ofSeconds 1570289400)).hour = 2 ∧
      (cal.localTime (.ofSeconds 1570287600)).hour = 1 ∧
      cal.startOf? .hour (.ofSeconds 1570287600) = some (.ofSeconds 1570285800) := by
  decide +kernel

/-! ## Cyclic moves -/

/-- A cyclic move of the time of day moves the second and the reading alike, if the clock is not
changed. -/
theorem add?_clock_eq (cal : Calendar) (hunit : unit.clockContainer? = some container)
    (hamount : IsFieldSized amount) (hexact : ExactAround n) :
    ∃ k, k.natAbs < 86400 ∧
      cal.add? unit amount (.ofSeconds n) true = some (.ofSeconds (n + k)) ∧
      (LocalTime.ofReading (cal.zone.source.toLocal n)).Cycled cal.weeks amount
        (.ofReading (cal.zone.source.toLocal n + k)) unit := by
  have hs := LocalTime.secondOfDay_mem (cal.zone.source.toLocal n)
  have hmem := LocalTime.clockShift_mem _ hs amount unit
  have hcycled : (LocalTime.ofReading (cal.zone.source.toLocal n)).Cycled cal.weeks amount _ unit :=
    LocalTime.cycled_clockShift _ hunit
  rw [← LocalTime.ofReading_addSeconds hmem] at hcycled
  unfold secondsPerDay at hs hmem
  unfold ExactAround secondsPerDay at hexact
  refine ⟨_, by omega, ?_, hcycled⟩
  by_cases hzero : amount = 0
  · rw [add?, if_pos hzero, hzero, LocalTime.clockShift_zero _ hs, add_zero]
  · rw [add?, if_neg hzero, if_pos hamount, if_pos rfl, cycle?_clock hunit,
      cal.localTime_ofSeconds (by omega), Instant.ofSeconds_add_ofInt (by omega) (by omega)
      (by omega)]

/-- **Cyclic moves of the time of day.** The reading is turned round inside the day, the hour or the
minute, and the difference is added as elapsed seconds. So what is shown in the end is the turned
reading moved by the difference of the offsets: the very one if the offsets are the same, and one of
the same day, hour or minute exactly if that difference does not lead out of it. -/
theorem add?_clock_turns (hunit : unit.clockContainer? = some container)
    (hamount : IsFieldSized amount) (hexact : ExactAround n) :
    ∃ m turned, cal.add? unit amount (.ofSeconds n) true = some (.ofSeconds m) ∧
      (cal.localTime (.ofSeconds n)).Cycled cal.weeks amount (.ofReading turned) unit ∧
      (m - n = turned - cal.zone.source.toLocal n ∧
        cal.localTime (.ofSeconds m) = .ofReading (turned +
          (cal.zone.source.totalAt (.ofSeconds m) - cal.zone.source.totalAt (.ofSeconds n)))) ∧
      (cal.zone.source.totalAt (.ofSeconds m) = cal.zone.source.totalAt (.ofSeconds n) →
        (cal.localTime (.ofSeconds n)).Cycled cal.weeks amount (cal.localTime (.ofSeconds m)) unit) ∧
      ((cal.localTime (.ofSeconds n)).SameThrough (cal.localTime (.ofSeconds m)) container ↔
        (LocalTime.ofReading turned).SameThrough (.ofReading (turned +
          (cal.zone.source.totalAt (.ofSeconds m) - cal.zone.source.totalAt (.ofSeconds n))))
          container) := by
  obtain ⟨k, hk, hadd, hcycled⟩ := cal.add?_clock_eq hunit hamount hexact
  obtain ⟨length, hlength⟩ := TimeUnit.exists_clockLength hunit
  unfold ExactAround secondsPerDay at hexact
  have hlocal := cal.localTime_ofSeconds (show n.natAbs ≤ 2 ^ 53 by omega)
  have hlocal' := cal.localTime_ofSeconds (show (n + k).natAbs ≤ 2 ^ 53 by omega)
  have hreading : cal.zone.source.toLocal (n + k) = cal.zone.source.toLocal n + k +
      (cal.zone.source.totalAt (.ofSeconds (n + k)) - cal.zone.source.totalAt (.ofSeconds n)) := by
    unfold OffsetSource.toLocal
    omega
  rw [hreading] at hlocal'
  have hturned := (LocalTime.sameThrough_iff hlength).mp (hcycled.sameThrough hunit)
  rw [← hlocal] at hcycled
  refine ⟨n + k, _, hadd, hcycled, ⟨by omega, hlocal'⟩, fun hoffset => ?_, ?_⟩
  · rwa [hlocal', hoffset, sub_self, add_zero]
  · rw [hlocal, hlocal', LocalTime.sameThrough_iff hlength, LocalTime.sameThrough_iff hlength,
      hturned]

/-- On the day that the clock of Los Angeles is set forward, thirteen hours on from 12:00 are counted
to 01:00, which is an hour before the change; the clock shows 00:00 of the same day. -/
theorem add?_clock_turns_setForward :
    let cal : Calendar := ⟨.sunday, .region "America/Los_Angeles" Region.losAngeles⟩
    cal.add? .hour 13 (.ofSeconds 1710097200) true = some (.ofSeconds 1710057600) ∧
      (cal.localTime (.ofSeconds 1710097200)).SameThrough
        (cal.localTime (.ofSeconds 1710057600)) .day := by
  intro cal
  have hvalue : cal.add? .hour 13 (.ofSeconds 1710097200) true = some (.ofSeconds 1710057600) := by
    decide +kernel
  have hbefore : cal.zone.source.totalAt (.ofSeconds 1710057600) = -28800 := by decide +kernel
  have hafter : cal.zone.source.totalAt (.ofSeconds 1710097200) = -25200 := by decide +kernel
  obtain ⟨m, turned, hadd, -, ⟨hmove, -⟩, -, hsame⟩ := cal.add?_clock_turns
    (rfl : TimeUnit.hour.clockContainer? = some .day) (by decide : IsFieldSized 13)
    (⟨by decide, by decide⟩ : ExactAround 1710097200)
  obtain rfl : m = 1710057600 :=
    Instant.ofSeconds_inj (by decide) (Option.some.inj (hadd.symm.trans hvalue))
  rw [OffsetSource.toLocal, hafter] at hmove
  obtain rfl : turned = 1710032400 := by omega
  refine ⟨hadd, hsame.mpr ?_⟩
  rw [hbefore, hafter, LocalTime.sameThrough_iff rfl]
  rfl

/-- An hour on from 23:00 of that day leads to the day before. And far out, where seconds are rounded,
four seconds on from the 56th of a minute lead to the minute before. -/
theorem add?_hour_leaves_day :
    let cal : Calendar := ⟨.sunday, .region "America/Los_Angeles" Region.losAngeles⟩
    (cal.add? .hour 1 (.ofSeconds 1710136800) true = some (.ofSeconds 1710054000) ∧
      (cal.localTime (.ofSeconds 1710136800)).date = ⟨2024, 3, 10⟩ ∧
      (cal.localTime (.ofSeconds 1710054000)).date = ⟨2024, 3, 9⟩) ∧
    standard.add? .second 4 (.ofSeconds 72057594037928096) true =
        some (.ofSeconds 72057594037928032) ∧
      (standard.localTime (.ofSeconds 72057594037928096)).minute = 54 ∧
      (standard.localTime (.ofSeconds 72057594037928032)).minute = 53 := by
  decide +kernel

end Calendar

end Almanac
