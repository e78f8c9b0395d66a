import Mathlib
import Almanac.Proofs.Calendar.Fixed
import Almanac.Proofs.Calendar.DaySteps
import Almanac.Calendar.Add

/-!
# Several amounts at once

Amounts of several units are added one after the other, each against the result of the one before.
In a fixed zone, and from a day that every month has, the steps add up: the months move the month,
and days, weeks and the time of day shift the reading.

* `FixedOffset.Shows`: an instant is exactly the second of a reading.
* `TimeUnit.months` and `TimeUnit.shift`: what one of a unit adds to the month or to the reading.
* `totalOf`: the sum of steps in one of these measures.
* `movedReading`: the reading after a move of months and a shift.
* `Calendar.exists_add?`: one step more adds to the sums; `Calendar.exists_foldlM_add?`: so does a
  whole run.
* **`Calendar.addFields?_carries`**: the normal form of a record of amounts.
-/

namespace Almanac

/-! ## Measures of amounts -/

namespace TimeUnit

/-- The months in one of a unit. -/
def months : TimeUnit → ℤ
  | .year => 12
  | .quarter => 3
  | .month => 1
  | _ => 0

/-- The seconds by which one of a unit shifts the reading. -/
def shift : TimeUnit → ℤ
  | .hour => 3600
  | .minute => 60
  | .second => 1
  | unit => unit.dayStep?.getD 0

theorem shift_of_months : ∀ unit : TimeUnit, unit.months ≠ 0 → unit.shift = 0 := by decide

end TimeUnit

/-- The sum of steps, each counted by the size of its unit. -/
def totalOf (size : TimeUnit → ℤ) (steps : List (TimeUnit × ℤ)) : ℤ :=
  (steps.map fun step => size step.1 * step.2).sum

section TotalOf

variable (size : TimeUnit → ℤ) (steps : List (TimeUnit × ℤ))

@[simp]
theorem totalOf_nil : totalOf size [] = 0 := rfl

@[simp]
theorem totalOf_concat (step : TimeUnit × ℤ) :
    totalOf size (steps ++ [step]) = totalOf size steps + size step.1 * step.2 := by
  simp [totalOf]

theorem totalOf_eq_zero (h : ∀ step ∈ steps, size step.1 = 0) : totalOf size steps = 0 := by
  apply List.sum_eq_zero
  intro a ha
  obtain ⟨step, hstep, rfl⟩ := List.mem_map.mp ha
  rw [h step hstep, zero_mul]

theorem totalOf_amounts (c : DateFields) : totalOf size c.amounts =
    (TimeUnit.additionOrder.map fun unit => size unit * (c.get unit).getD 0).sum := by
  unfold totalOf DateFields.amounts
  induction TimeUnit.additionOrder with
  | nil => rfl
  | cons unit units ih =>
    cases hget : c.get unit with
    | none => simpa [hget] using ih
    | some value => simpa [hget] using ih

end TotalOf

namespace DateFields

variable (c : DateFields)

theorem totalOf_months : totalOf TimeUnit.months c.amounts =
    12 * c.year.getD 0 + 3 * c.quarter.getD 0 + c.month.getD 0 := by
  rw [totalOf_amounts]
  simp [TimeUnit.additionOrder, TimeUnit.months, get]
  ring

theorem totalOf_shift : totalOf TimeUnit.shift c.amounts =
    secondsPerDay * (c.day.getD 0 + c.weekday.getD 0 +
      7 * (c.weekOfYear.getD 0 + c.weekOfMonth.getD 0 + c.weekdayOrdinal.getD 0)) +
    (3600 * c.hour.getD 0 + 60 * c.minute.getD 0 + c.second.getD 0) := by
  rw [totalOf_amounts]
  simp [TimeUnit.additionOrder, TimeUnit.shift, TimeUnit.dayStep?, get]
  ring

/-- Steps of months come before all that shift the reading. -/
theorem pairwise_amounts :
    c.amounts.Pairwise fun step later => later.1.months ≠ 0 → step.1.shift = 0 := by
  have horder : TimeUnit.additionOrder.Pairwise fun unit later =>
      later.months ≠ 0 → unit.shift = 0 := by decide
  refine List.Pairwise.filterMap _ ?_ horder
  intro unit later h step hstep step' hstep'
  obtain ⟨value, -, rfl⟩ := Option.map_eq_some_iff.mp hstep
  obtain ⟨value', -, rfl⟩ := Option.map_eq_some_iff.mp hstep'
  exact h

end DateFields

/-! ## Instants of readings -/

/-- The instant is exactly the second at which a clock of this offset shows a reading. -/
structure FixedOffset.Shows (offset : FixedOffset) (t : Instant) (reading : ℤ) : Prop where
  seconds_eq : t.seconds = .finite ((reading - offset.seconds : ℤ) : ℚ)
  mem : Binary64.int64Min ≤ reading - offset.seconds ∧
    reading - offset.seconds ≤ Binary64.int64Max

section Shows

variable {offset : FixedOffset} {t : Instant} {reading k : ℤ}

theorem FixedOffset.shows_instantAt (h : offset.IsExact reading) :
    offset.Shows (offset.instantAt reading) reading := by
  refine ⟨Instant.seconds_ofSeconds h, ?_⟩
  unfold FixedOffset.IsExact at h
  unfold Binary64.int64Min Binary64.int64Max
  omega

theorem FixedOffset.Shows.add (ht : offset.Shows t reading) (hk : k.natAbs ≤ 2 ^ 53)
    (h : offset.IsExact (reading + k)) : offset.Shows (t + Binary64.ofInt k) (reading + k) := by
  have hsum : reading - offset.seconds + k = reading + k - offset.seconds := by ring
  unfold FixedOffset.IsExact at h
  rw [← hsum] at h
  refine ⟨?_, ?_⟩
  · change t.seconds + Binary64.ofInt k = _
    rw [ht.seconds_eq, Binary64.ofInt_eq_finite hk, Binary64.finite_add_finite h, hsum]
  · unfold Binary64.int64Min Binary64.int64Max
    omega

/-- Nothing added to a second that is held exactly changes nothing, however large it is. -/
theorem FixedOffset.shows_instantAt_add_zero (h : offset.Shows (offset.instantAt reading) reading) :
    offset.Shows (offset.instantAt reading + Binary64.ofInt 0) reading := by
  refine ⟨?_, h.mem⟩
  change Binary64.add (offset.instantAt reading).seconds (Binary64.ofInt 0) = _
  rw [h.seconds_eq, Binary64.ofInt_eq_finite (by decide)]
  change Binary64.ofRat (((reading - offset.seconds : ℤ) : ℚ) + ((0 : ℤ) : ℚ)) = _
  rw [Int.cast_zero, add_zero]
  exact h.seconds_eq

theorem FixedOffset.Shows.localTime_eq {cal : Calendar} (hzone : cal.zone = .fixed offset)
    (ht : offset.Shows t reading) : cal.localTime t = .ofReading reading := by
  obtain ⟨seconds⟩ := t
  obtain ⟨rfl, hmin, hmax⟩ := ht
  rw [cal.localTime_eq, Instant.secondsAndNanos_finite, Binary64.toInt64_finite_intCast hmin hmax,
    Calendar.toLocal_fixed hzone, Int.sub_add_cancel]
  rfl

end Shows

/-! ## Moves of the reading -/

/-- The reading after a move to another month, day and time of day kept, and a shift by seconds. -/
def movedReading (reading months shift : ℤ) : ℤ :=
  (monthStart ((LocalTime.ofReading reading).date.monthIndex + months) +
      ((LocalTime.ofReading reading).date.day - 1)) * secondsPerDay +
    (LocalTime.ofReading reading).secondOfDay + shift

section MovedReading

variable {reading : ℤ} (months shift : ℤ)

theorem movedReading_add : movedReading reading months shift =
    movedReading reading months 0 + shift := by
  unfold movedReading
  ring

theorem movedReading_zero : movedReading reading 0 shift = reading + shift := by
  have hmonth : (LocalTime.ofReading reading).date.dayNumber = _ :=
    Date.dayNumber_eq_monthStart (LocalTime.date_isValid reading).month_mem
  have hday : (LocalTime.ofReading reading).date.dayNumber =
    (LocalTime.ofReading reading).dayNumber := Date.dayNumber_ofDayNumber _
  have hreading := LocalTime.reading_eq reading
  rw [movedReading, add_zero, Date.monthIndex, ← hmonth, hday, hreading]

variable (hday : (LocalTime.ofReading reading).date.day ≤ 28)
include hday

theorem ofReading_movedReading : LocalTime.ofReading (movedReading reading months 0) =
    ⟨monthStart ((LocalTime.ofReading reading).date.monthIndex + months) +
        ((LocalTime.ofReading reading).date.day - 1),
      ⟨((LocalTime.ofReading reading).date.monthIndex + months) / 12,
        ((LocalTime.ofReading reading).date.monthIndex + months) % 12 + 1,
        (LocalTime.ofReading reading).date.day⟩,
      (LocalTime.ofReading reading).secondOfDay, 0⟩ := by
  have hmem := (LocalTime.date_isValid reading).day_mem
  generalize hindex : (LocalTime.ofReading reading).date.monthIndex + months = index
  have hlength := monthLength_mem (index / 12) (index % 12 + 1)
  rw [movedReading, hindex, add_zero, LocalTime.ofReading_add (LocalTime.secondOfDay_mem reading),
    Date.ofDayNumber_monthStart_add ⟨by omega, by omega⟩]

theorem movedReading_movedReading (more : ℤ) :
    movedReading (movedReading reading months 0) more 0 = movedReading reading (months + more) 0 := by
  have hindex : ∀ index : ℤ, 12 * (index / 12) + (index % 12 + 1) - 1 = index := by
    intro index
    omega
  have hmoved := ofReading_movedReading months hday
  rw [movedReading, hmoved, Date.monthIndex]
  simp only [hindex]
  rw [movedReading, add_assoc _ months more]

end MovedReading

/-! ## One step -/

namespace Calendar

variable {cal : Calendar} {offset : FixedOffset} (hzone : cal.zone = .fixed offset)
  {t : Instant} {reading : ℤ} (ht : offset.Shows t reading) {unit : TimeUnit} {amount : ℤ}
include hzone ht

theorem carry?_months (hday : (LocalTime.ofReading reading).date.day ≤ 28)
    (hunit : unit.months ≠ 0)
    (hyear : IsYearSized
      (LocalTime.ofReading (movedReading reading (unit.months * amount) 0)).date.year)
    (hexact : offset.IsExact (movedReading reading (unit.months * amount) 0)) :
    cal.carry? unit amount t =
      some (offset.instantAt (movedReading reading (unit.months * amount) 0)) := by
  have hmem := (LocalTime.date_isValid reading).day_mem
  have hl := ht.localTime_eq hzone
  have hmove : ∀ year month : ℤ, 12 * year + month - 1 =
      (LocalTime.ofReading reading).date.monthIndex + unit.months * amount →
      cal.moveToMonth? (.ofReading reading) year month =
        some (offset.instantAt (movedReading reading (unit.months * amount) 0)) := by
    intro year month hindex
    have hlength := monthLength_mem
      (((LocalTime.ofReading reading).date.monthIndex + unit.months * amount) / 12)
      (((LocalTime.ofReading reading).date.monthIndex + unit.months * amount) % 12 + 1)
    rw [ofReading_movedReading _ hday] at hyear
    unfold movedReading at hexact ⊢
    rw [add_zero] at hexact ⊢
    rw [cal.moveToMonth?_eq _ hindex, if_pos hyear, min_eq_left (by omega)]
    exact congrArg some (moveToDay_fixed hzone hexact)
  cases unit with
  | year | quarter | month =>
    simp only [carry?, hl]
    apply hmove
    simp only [Date.monthIndex, TimeUnit.months]
    ring
  | _ => exact absurd rfl hunit

theorem exists_carry?_shift (hunit : unit.months = 0)
    (hother : unit ≠ .yearForWeekOfYear ∧ unit ≠ .nanosecond) (hamount : IsFieldSized amount)
    (hexact : offset.IsExact (reading + unit.shift * amount)) :
    ∃ t', cal.carry? unit amount t = some t' ∧
      offset.Shows t' (reading + unit.shift * amount) := by
  have hl := ht.localTime_eq hzone
  have hr := LocalTime.reading_eq reading
  have hmove : ∀ day, (day - (LocalTime.ofReading reading).dayNumber) * secondsPerDay =
      unit.shift * amount → offset.Shows (cal.moveToDay (.ofReading reading) day)
        (reading + unit.shift * amount) := by
    intro day hshift
    have hmoved : day * secondsPerDay + reading % secondsPerDay =
        reading + unit.shift * amount := by
      have hsecond : (LocalTime.ofReading reading).secondOfDay = reading % secondsPerDay := rfl
      rw [← hshift, ← hsecond]
      linarith
    rw [← hmoved] at hexact ⊢
    rw [moveToDay_fixed hzone hexact]
    exact FixedOffset.shows_instantAt hexact
  unfold IsFieldSized largestField at hamount
  cases unit with
  | era =>
    refine ⟨t, rfl, ?_⟩
    simpa [TimeUnit.shift, TimeUnit.dayStep?] using ht
  | day | weekday =>
    refine ⟨_, rfl, ?_⟩
    rw [hl]
    apply hmove
    simp only [TimeUnit.shift, TimeUnit.dayStep?, Option.getD_some]
    ring
  | weekOfYear | weekOfMonth | weekdayOrdinal =>
    refine ⟨_, rfl, ?_⟩
    rw [hl]
    apply hmove
    simp only [TimeUnit.shift, TimeUnit.dayStep?, Option.getD_some]
    ring
  | hour | minute =>
    simp only [TimeUnit.shift] at hexact ⊢
    rw [mul_comm] at hexact ⊢
    exact ⟨_, rfl, ht.add (by omega) hexact⟩
  | second =>
    simp only [TimeUnit.shift, one_mul] at hexact ⊢
    exact ⟨_, rfl, ht.add (by omega) hexact⟩
  | year | quarter | month => cases hunit
  | yearForWeekOfYear => exact absurd rfl hother.1
  | nanosecond => exact absurd rfl hother.2

end Calendar

/-! ## Runs of steps -/

/-- Every step leads to an exact second, and every step of months to a year of allowed size. -/
structure StaysInside (offset : FixedOffset) (reading : ℤ) (steps : List (TimeUnit × ℤ)) : Prop where
  exact : ∀ done step, done ++ [step] <+: steps →
    offset.IsExact (movedReading reading (totalOf TimeUnit.months (done ++ [step]))
      (totalOf TimeUnit.shift (done ++ [step])))
  year : ∀ done step, done ++ [step] <+: steps → step.1.months ≠ 0 →
    IsYearSized (LocalTime.ofReading (movedReading reading
      (totalOf TimeUnit.months (done ++ [step])) (totalOf TimeUnit.shift (done ++ [step])))).date.year

theorem StaysInside.nil (offset : FixedOffset) (reading : ℤ) : StaysInside offset reading [] where
  exact done step hdone := by simp at hdone
  year done step hdone := by simp at hdone

theorem StaysInside.concat {offset : FixedOffset} {reading : ℤ} {steps : List (TimeUnit × ℤ)}
    (h : StaysInside offset reading steps) (step : TimeUnit × ℤ)
    (hexact : offset.IsExact (movedReading reading (totalOf TimeUnit.months (steps ++ [step]))
      (totalOf TimeUnit.shift (steps ++ [step]))))
    (hyear : step.1.months ≠ 0 → IsYearSized (LocalTime.ofReading (movedReading reading
      (totalOf TimeUnit.months (steps ++ [step]))
      (totalOf TimeUnit.shift (steps ++ [step])))).date.year) :
    StaysInside offset reading (steps ++ [step]) where
  exact done later hdone := by
    rcases List.prefix_concat_iff.mp hdone with hall | hdone
    · rwa [hall]
    · exact h.exact done later hdone
  year done later hdone hunit := by
    rcases List.prefix_concat_iff.mp hdone with hall | hdone
    · obtain ⟨rfl, rfl⟩ := List.append_singleton_inj.mp hall
      exact hyear hunit
    · exact h.year done later hdone hunit

theorem StaysInside.of_append {offset : FixedOffset} {reading : ℤ} {steps more : List (TimeUnit × ℤ)}
    (h : StaysInside offset reading (steps ++ more)) : StaysInside offset reading steps where
  exact done step hdone := h.exact done step (hdone.trans (List.prefix_append steps more))
  year done step hdone := h.year done step (hdone.trans (List.prefix_append steps more))

namespace Calendar

variable {cal : Calendar} {offset : FixedOffset} (hzone : cal.zone = .fixed offset)
  {t : Instant} {reading : ℤ} (hday : (LocalTime.ofReading reading).date.day ≤ 28)
include hzone hday

theorem exists_add? {steps : List (TimeUnit × ℤ)} {step : TimeUnit × ℤ}
    (ht : offset.Shows t (movedReading reading (totalOf TimeUnit.months steps)
      (totalOf TimeUnit.shift steps)))
    (hother : step.1 ≠ .yearForWeekOfYear ∧ step.1 ≠ .nanosecond) (hsized : IsFieldSized step.2)
    (horder : ∀ done ∈ steps, step.1.months ≠ 0 → done.1.shift = 0)
    (hinside : StaysInside offset reading (steps ++ [step])) :
    ∃ t', cal.add? step.1 step.2 t false = some t' ∧
      offset.Shows t' (movedReading reading (totalOf TimeUnit.months (steps ++ [step]))
        (totalOf TimeUnit.shift (steps ++ [step]))) := by
  have hexact := hinside.exact steps step List.prefix_rfl
  have hyear := hinside.year steps step List.prefix_rfl
  obtain ⟨unit, amount⟩ := step
  simp only [totalOf_concat] at hexact hyear ⊢
  by_cases hzero : amount = 0
  · subst hzero
    refine ⟨t, by simp [add?], ?_⟩
    simpa using ht
  rw [add?, if_neg hzero, if_pos hsized, if_neg Bool.false_ne_true]
  by_cases hunit : unit.months = 0
  · -- a shift adds to the reading, whatever the months before it were
    rw [hunit, zero_mul, add_zero, movedReading_add, ← add_assoc, ← movedReading_add] at hexact ⊢
    exact exists_carry?_shift hzone ht hunit hother hsized hexact
  · -- before a step of months nothing has shifted the reading, so the day is still kept
    have hnone : totalOf TimeUnit.shift steps = 0 :=
      totalOf_eq_zero _ _ fun done hdone => horder done hdone hunit
    rw [hnone] at ht hexact hyear ⊢
    rw [unit.shift_of_months hunit, zero_mul, add_zero,
      ← movedReading_movedReading _ hday] at hexact hyear ⊢
    have hkept : (LocalTime.ofReading
        (movedReading reading (totalOf TimeUnit.months steps) 0)).date.day ≤ 28 := by
      rw [ofReading_movedReading _ hday]
      exact hday
    exact ⟨_, carry?_months hzone ht hkept hunit (hyear hunit) hexact,
      FixedOffset.shows_instantAt hexact⟩

/-- A run of steps leads to the reading of their sums. -/
theorem exists_foldlM_add? (ht : offset.Shows t reading) {steps : List (TimeUnit × ℤ)}
    (hother : ∀ step ∈ steps, step.1 ≠ .yearForWeekOfYear ∧ step.1 ≠ .nanosecond)
    (hsized : ∀ step ∈ steps, IsFieldSized step.2)
    (horder : steps.Pairwise fun step later => later.1.months ≠ 0 → step.1.shift = 0)
    (hinside : StaysInside offset reading steps) :
    ∃ t', steps.foldlM (fun t step => cal.add? step.1 step.2 t false) t = some t' ∧
      offset.Shows t' (movedReading reading (totalOf TimeUnit.months steps)
        (totalOf TimeUnit.shift steps)) := by
  -- from the end, as each step is taken from the result of those before it
  induction steps using List.reverseRecOn with
  | nil => exact ⟨t, rfl, by simpa [movedReading_zero] using ht⟩
  | append_singleton steps step ih =>
    rw [List.pairwise_append] at horder
    obtain ⟨t', hrun, ht'⟩ := ih (fun done hdone => hother done (by simp [hdone]))
      (fun done hdone => hsized done (by simp [hdone])) horder.1 hinside.of_append
    obtain ⟨t'', hstep, ht''⟩ := exists_add? hzone hday ht' (hother step (by simp))
      (hsized step (by simp)) (fun done hdone => horder.2.2 done hdone step (by simp)) hinside
    refine ⟨t'', ?_, ht''⟩
    simp [List.foldlM_append, hrun, hstep]

omit hday in
/-- **The normal form of a record of amounts.** From a day that every month has, the years, quarters
and months move the month, day and time of day kept; then days and weeks and the time of day shift
the reading. Absent fields count as zero, and neither an era nor the leap flag takes part. -/
theorem addFields?_carries {c : DateFields} (hlimits : c.WithinLimits)
    (hweekYear : c.yearForWeekOfYear = none) (hnanosecond : c.nanosecond = none) {n : ℤ}
    (ht : t.seconds = .finite (n : ℚ)) (hn : Binary64.int64Min ≤ n ∧ n ≤ Binary64.int64Max)
    (hday : (cal.localTime t).date.day ≤ 28)
    (hinside : StaysInside offset (n + offset.seconds) c.amounts) :
    ∃ index moved : ℤ,
      index = (cal.localTime t).date.monthIndex +
        (12 * c.year.getD 0 + 3 * c.quarter.getD 0 + c.month.getD 0) ∧
      (LocalTime.ofReading moved).date =
        ⟨index / 12, index % 12 + 1, (cal.localTime t).date.day⟩ ∧
      (LocalTime.ofReading moved).secondOfDay = (cal.localTime t).secondOfDay ∧
      cal.addFields? c t false = some ⟨.finite ((moved +
        secondsPerDay * (c.day.getD 0 + c.weekday.getD 0 +
          7 * (c.weekOfYear.getD 0 + c.weekOfMonth.getD 0 + c.weekdayOrdinal.getD 0)) +
        (3600 * c.hour.getD 0 + 60 * c.minute.getD 0 + c.second.getD 0) -
          offset.seconds : ℤ) : ℚ)⟩ := by
  have hshows : offset.Shows t (n + offset.seconds) :=
    ⟨by rw [ht, Int.add_sub_cancel], by rwa [Int.add_sub_cancel]⟩
  have hl := hshows.localTime_eq hzone
  rw [hl] at hday ⊢
  have hother : ∀ step ∈ c.amounts, step.1 ≠ .yearForWeekOfYear ∧ step.1 ≠ .nanosecond := by
    rintro ⟨unit, amount⟩ hstep
    have hget := DateFields.mem_amounts.mp hstep
    constructor
    · rintro rfl
      exact absurd (hweekYear.symm.trans hget) (by simp)
    · rintro rfl
      exact absurd (hnanosecond.symm.trans hget) (by simp)
  have hsized : ∀ step ∈ c.amounts, IsFieldSized step.2 := by
    rintro ⟨unit, amount⟩ hstep
    exact hlimits unit unit.mem_all amount (DateFields.mem_amounts.mp hstep)
  obtain ⟨⟨seconds⟩, hrun, hseconds, -⟩ :=
    exists_foldlM_add? hzone hday hshows hother hsized c.pairwise_amounts hinside
  have hmoved := ofReading_movedReading (totalOf TimeUnit.months c.amounts) hday
  refine ⟨_, movedReading (n + offset.seconds) (totalOf TimeUnit.months c.amounts) 0, rfl, ?_, ?_, ?_⟩
  · rw [hmoved, c.totalOf_months]
  · rw [hmoved]
  · rw [add_assoc, ← c.totalOf_shift, ← movedReading_add, ← hseconds]
    exact hrun

omit hzone hday in
/-- From 2023-11-28 22:00 at +01:00, a year and a quarter on, less a week, is 2025-02-21, and 30
hours later it is 04:00 on the 23rd. -/
theorem addFields?_carries_negativeWeek :
    let cal : Calendar := ⟨.sunday, .fixed ⟨3600, by decide⟩⟩
    let c : DateFields := { era := some 0, year := some 1, quarter := some 1,
                            weekOfMonth := some (-1), hour := some 30, isLeapMonth := some true }
    cal.addFields? c (.ofSeconds 1701205200) false = some (.ofSeconds 1740279600) := by
  intro cal c
  let offset : FixedOffset := ⟨3600, by decide⟩
  have hlocal : cal.localTime (.ofSeconds 1701205200) = .ofReading 1701208800 := by decide +kernel
  have hinside : StaysInside offset 1701208800 c.amounts := by
    have hexact : ∀ reading : ℤ, reading.natAbs < 9000000000000000 → offset.IsExact reading :=
      fun _ => offset.isExact_of_lt
    have hera := (StaysInside.nil offset 1701208800).concat (.era, 0)
      (hexact _ (by decide +kernel)) (by decide)
    have hyear := hera.concat (.year, 1) (hexact _ (by decide +kernel)) (by decide +kernel)
    have hquarter := hyear.concat (.quarter, 1) (hexact _ (by decide +kernel)) (by decide +kernel)
    have hweek := hquarter.concat (.weekOfMonth, -1) (hexact _ (by decide +kernel)) (by decide)
    exact hweek.concat (.hour, 30) (hexact _ (by decide +kernel)) (by decide)
  obtain ⟨index, moved, rfl, hdate, htime, hadd⟩ := addFields?_carries
    (show cal.zone = .fixed offset from rfl) (c := c) (by decide) rfl rfl
    (Instant.seconds_ofSeconds (n := 1701205200) (by decide)) (by decide)
    (by rw [hlocal]; decide) hinside
  rw [hlocal] at hdate htime
  have hday : (LocalTime.ofReading moved).dayNumber = 20147 := by
    rw [← Date.dayNumber_ofDayNumber (LocalTime.ofReading moved).dayNumber]
    exact (congrArg Date.dayNumber hdate).trans (by decide +kernel)
  obtain rfl : 20147 * secondsPerDay + 79200 = moved := by
    rw [← LocalTime.reading_eq moved, hday, htime]
    decide +kernel
  exact hadd.trans (by decide +kernel)

end Calendar

end Almanac
