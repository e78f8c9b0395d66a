import Mathlib
import Almanac.Proofs.Calendar.Cycle
import Almanac.Proofs.Calendar.Extent

/-!
# Cyclic moves by weeks

A cyclic move by weeks that leaves weeks `1` to `52` turns round among the weeks that it counts for
the week year. It numbers the last day of the year by the position of that day in its week, where
the weekday is meant. With weeks from Sunday that is the same; otherwise the count may be one off.

* `LocalTime.dayOfWeekYear_eq`: days are counted from the first of January of the week year.
* `LocalTime.weekCount_near`: the count of the weeks, against the weeks of the week year.
* `LocalTime.weekAfter`: the week after a cyclic move by weeks.
* **`Calendar.add?_turns_weeks`**: the local time after the move.
-/

namespace Almanac

theorem Date.IsValid.dayOfYear_le_iff {date : Date} (h : date.IsValid) :
    date.dayOfYear ≤ 31 ↔ date.month = 1 := by
  have hm := h.month_mem
  have hstart := dayNumber_eq_monthStart hm
  have hfirst := dayNumber_eq_first (show (1 : ℤ) ≤ 1 ∧ (1 : ℤ) ≤ 12 by decide)
    (show 12 * date.year + 1 - 1 = 12 * date.year by ring)
  have hjanuary : monthStart (12 * date.year + 1) = monthStart (12 * date.year) + 31 := by
    rw [monthStart_succ, Int.mul_emod_right]
    rfl
  have hd := h.day_mem
  have hlen := monthLength_mem date.year date.month
  unfold dayOfYear
  rw [hstart, hfirst]
  constructor
  · intro hle
    by_contra hne
    have hmono := monthStart_mono
      (show 12 * date.year + 1 ≤ 12 * date.year + date.month - 1 by omega)
    omega
  · intro hone
    rw [hone, Int.add_sub_cancel]
    omega

theorem WeekNumbering.exists_weekYearStart_succ (weeks : WeekNumbering) (weekYear : ℤ) :
    ∃ count, weeks.weekYearStart (weekYear + 1) = weeks.weekYearStart weekYear + 7 * count ∧
      52 ≤ count ∧ count ≤ 53 := by
  have hcount := weeks.weeksIn_eq weekYear
  exact ⟨weeks.weeksIn weekYear, weeks.weekYearStart_add_weeksIn weekYear, by omega, by omega⟩

namespace LocalTime

variable {l : LocalTime} {reading weekYear : ℤ} (h : l.ShownAt reading) (weeks : WeekNumbering)

/-- The week after a cyclic move from `week` by `amount`, if `count` weeks are turned round. -/
def weekAfter (count week amount : ℤ) : ℤ :=
  if amount = 0 ∨ 1 ≤ week + amount ∧ week + amount ≤ 52 then week + amount
  else (week - 1 + amount) % count + 1

theorem weekAfter_eq_emod {count week amount : ℤ} (hcount : 52 ≤ count)
    (hweek : 1 ≤ week ∧ week ≤ count) :
    weekAfter count week amount = (week - 1 + amount) % count + 1 := by
  unfold weekAfter
  split
  · rw [Int.emod_eq_of_lt (by omega) (by omega)]
    omega
  · rfl

theorem weekAfter_mem {count turn week : ℤ} (amount : ℤ) (hcount : 52 ≤ count)
    (hturn : count - 1 ≤ turn ∧ turn ≤ count + 1) (hweek : 1 ≤ week ∧ week ≤ count) :
    1 ≤ weekAfter turn week amount ∧ weekAfter turn week amount ≤ count + 1 := by
  have hmoved := emod_mem (week - 1 + amount) (show 0 < turn by omega)
  unfold weekAfter
  split <;> omega

theorem cycleWeek_of_ne {week amount : ℤ} (hamount : amount ≠ 0) :
    l.cycleWeek weeks week weekYear amount =
      weekAfter (l.weekCount weeks week weekYear) week amount := by
  simp only [cycleWeek, weekAfter, hamount, false_or]
  rw [sub_add_eq_add_sub]

namespace ShownAt

include h

theorem dayNumber_eq_dayOfYear :
    l.dayNumber = Date.dayNumber ⟨l.date.year, 1, 1⟩ + (l.date.dayOfYear - 1) := by
  have hdate : l.date.dayNumber = l.dayNumber := h.eq ▸ Date.dayNumber_ofDayNumber _
  rw [← hdate, Date.dayOfYear]
  ring

theorem exists_weekYear : ∃ weekYear,
    (weeks.weekYearStart weekYear ≤ l.dayNumber ∧
      l.dayNumber < weeks.weekYearStart (weekYear + 1)) ∧
      (l.date.year - 1 ≤ weekYear ∧ weekYear ≤ l.date.year + 1) ∧
      l.weekOfYear weeks = ((l.dayNumber - weeks.weekYearStart weekYear) / 7 + 1, weekYear) :=
  h.eq ▸ weeks.exists_weekYear (ofReading reading).dayNumber

theorem dayOfWeekYear_eq (hmem : weeks.weekYearStart weekYear ≤ l.dayNumber ∧
      l.dayNumber < weeks.weekYearStart (weekYear + 1)) :
    l.dayOfWeekYear ((l.dayNumber - weeks.weekYearStart weekYear) / 7 + 1) weekYear =
      l.dayNumber - Date.dayNumber ⟨weekYear, 1, 1⟩ + 1 := by
  have hday := h.dayNumber_eq_dayOfYear
  have hlen := h.isValid.dayOfYear_mem
  have hjanuary := h.isValid.dayOfYear_le_iff
  obtain ⟨other, hother, hnear, -⟩ := h.exists_weekYear weeks
  obtain rfl := weeks.weekYear_unique hmem hother
  have hstart := weeks.firstWeek_mem (Date.dayNumber ⟨other, 1, 1⟩)
  have hnext := weeks.firstWeek_mem (Date.dayNumber ⟨other + 1, 1, 1⟩)
  rw [← weeks.weekYearStart_eq_firstWeek] at hstart hnext
  -- the week year is the year, the year before, if the day is in January, or the next one
  have hyear := dayNumber_next_year other
  have hyear' := dayNumber_next_year (other - 1)
  rw [Int.sub_add_cancel] at hyear'
  have hlength := yearLength_mem other
  have hlength' := yearLength_mem (other - 1)
  unfold dayOfWeekYear
  obtain hsame | hbefore | hafter :
      l.date.year = other ∨ l.date.year = other + 1 ∨ l.date.year = other - 1 := by omega
  · rw [hsame] at hday hlen
    split
    · rw [if_neg (by omega)]
      omega
    · rw [if_neg (by omega)]
      omega
  · rw [hbefore] at hday hlen
    rw [if_pos (by omega), if_pos (by omega)]
    omega
  · rw [hafter] at hday hlen
    rw [if_neg (by omega), if_pos (by omega)]
    omega

/-- The weeks that a cyclic move counts are those of the week year if weeks begin on Sunday. -/
theorem weekCount_near (hmem : weeks.weekYearStart weekYear ≤ l.dayNumber ∧
      l.dayNumber < weeks.weekYearStart (weekYear + 1)) {count : ℤ}
    (hcount : weeks.weekYearStart (weekYear + 1) = weeks.weekYearStart weekYear + 7 * count) :
    (count - 1 ≤ l.weekCount weeks ((l.dayNumber - weeks.weekYearStart weekYear) / 7 + 1) weekYear ∧
      l.weekCount weeks ((l.dayNumber - weeks.weekYearStart weekYear) / 7 + 1) weekYear ≤
        count + 1) ∧
    (weeks.firstWeekday = 1 →
      l.weekCount weeks ((l.dayNumber - weeks.weekYearStart weekYear) / 7 + 1) weekYear =
        count) := by
  have hm := weeks.minimumDays_mem
  have hf := weeks.firstWeekday_mem
  have hlength := yearLength_mem weekYear
  simp only [weeks.weekYearStart_eq_firstWeek, WeekNumbering.firstWeek,
    WeekNumbering.startOfWeek_eq, dayNumber_next_year] at hcount
  simp only [weekCount, h.dayOfWeekYear_eq weeks hmem, WeekNumbering.weekAt, weekday, weekdayOf]
  generalize Date.dayNumber ⟨weekYear, 1, 1⟩ = first at *
  generalize yearLength weekYear = length at *
  omega

end ShownAt

end LocalTime

namespace Calendar

section WeekYear

variable {cal : Calendar} {t : Instant} {weekYear count : ℤ}
  (hcount : cal.weeks.weekYearStart (weekYear + 1) = cal.weeks.weekYearStart weekYear + 7 * count)
include hcount

theorem range?_weekOfYear (hmem : cal.weeks.weekYearStart weekYear ≤ (cal.localTime t).dayNumber ∧
      (cal.localTime t).dayNumber < cal.weeks.weekYearStart (weekYear + 1)) :
    cal.range? .weekOfYear .yearForWeekOfYear t = some ⟨1, count + 1⟩ := by
  have hrange : cal.range? .weekOfYear .yearForWeekOfYear t =
      some ⟨1, (cal.localTime t).weeksOfYear cal.weeks + 1⟩ := rfl
  rw [hrange, weeksOfYear_of_weekYear hmem, hcount]
  congr 2
  omega

theorem weekOfYear_of_week {week place : ℤ} (hweek : 1 ≤ week ∧ week ≤ count)
    (hplace : 0 ≤ place ∧ place < 7) (hday : (cal.localTime t).dayNumber =
      cal.weeks.weekYearStart weekYear + 7 * (week - 1) + place) :
    (cal.localTime t).weekOfYear cal.weeks = (week, weekYear) := by
  have hmem : t ∈ cal.onDays (Set.Ico (cal.weeks.weekYearStart weekYear)
      (cal.weeks.weekYearStart (weekYear + 1))) := by
    change _ ≤ (cal.localTime t).dayNumber ∧ (cal.localTime t).dayNumber < _
    omega
  rw [weekOfYear_of_weekYear hmem, hday]
  congr 1
  omega

/-- A week after the last one is the first of the next week year. -/
theorem weekOfYear_of_week_le_succ {week place : ℤ} (hweek : 1 ≤ week ∧ week ≤ count + 1)
    (hplace : 0 ≤ place ∧ place < 7) (hday : (cal.localTime t).dayNumber =
      cal.weeks.weekYearStart weekYear + 7 * (week - 1) + place) :
    (cal.localTime t).weekOfYear cal.weeks =
      if week ≤ count then (week, weekYear) else (1, weekYear + 1) := by
  split
  · exact weekOfYear_of_week hcount (by omega) hplace hday
  · obtain ⟨next, hnext, hfew, -⟩ := cal.weeks.exists_weekYearStart_succ (weekYear + 1)
    exact weekOfYear_of_week hnext (by omega) hplace (by omega)

end WeekYear

variable {cal : Calendar} {offset : FixedOffset} (hzone : cal.zone = .fixed offset)
  {reading : ℤ} {l : LocalTime} (hl : l.ShownAt reading)
include hzone hl

theorem moveToDay_weeks (weeks : ℤ) (hd : (l.dayNumber + 7 * weeks).natAbs < 100000000000) :
    cal.moveToDay l (l.dayNumber + 7 * weeks) =
        offset.instantAt (reading + 7 * secondsPerDay * weeks) ∧
      (cal.localTime (cal.moveToDay l (l.dayNumber + 7 * weeks))).dayNumber =
        l.dayNumber + 7 * weeks ∧
      (cal.localTime (cal.moveToDay l (l.dayNumber + 7 * weeks))).weekday = l.weekday ∧
      l.SameTime (cal.localTime (cal.moveToDay l (l.dayNumber + 7 * weeks))) := by
  have hlocal := localTime_moveToDay hzone hl hd
  refine ⟨?_, ?_, ?_, sameTime_moveToDay hzone hl hd⟩
  · obtain ⟨rfl, -⟩ := hl
    have hs := LocalTime.secondOfDay_mem reading
    have hsum : ((LocalTime.ofReading reading).dayNumber + 7 * weeks) * secondsPerDay +
        reading % secondsPerDay = reading + 7 * secondsPerDay * weeks := by
      have hr := LocalTime.reading_eq reading
      change _ + reading % secondsPerDay = reading at hr
      linarith
    have hexact : offset.IsExact (((LocalTime.ofReading reading).dayNumber + 7 * weeks) *
        secondsPerDay + reading % secondsPerDay) := by
      refine offset.isExact_of_lt ?_
      unfold secondsPerDay
      omega
    rw [moveToDay_fixed hzone hexact, hsum]
  · rw [hlocal]
  · rw [hlocal, LocalTime.weekday, LocalTime.weekday]
    dsimp only
    unfold weekdayOf
    omega

theorem cycle?_weekOfYear {week weekYear : ℤ} (amount : ℤ) (hsized : IsYearSized weekYear)
    (hweek : l.weekOfYear cal.weeks = (week, weekYear))
    (hday : week = (l.dayNumber - cal.weeks.weekYearStart weekYear) / 7 + 1) :
    cal.cycle? .weekOfYear amount (offset.instantAt reading) = some (cal.moveToDay l
      (l.dayNumber + 7 * (l.cycleWeek cal.weeks week weekYear amount - week))) := by
  have hback := cal.weeks.dayAt_weekOf (Date.dayNumber ⟨weekYear, 1, 1⟩) l.dayNumber
  rw [cal.weeks.dayAt_weekYear, ← cal.weeks.weekYearStart_eq_firstWeek, ← hday] at hback
  simp only [cycle?, localTime_shownAt hzone hl, hweek]
  rw [dayNumber?_of_mem _ (by decide) hsized, Option.map_some, cal.weeks.dayAt_weekYear]
  congr 2
  unfold LocalTime.weekday
  omega

theorem add?_weekOfYear {week weekYear amount : ℤ} (hsized : IsYearSized weekYear)
    (hamount : IsFieldSized amount) (hweek : l.weekOfYear cal.weeks = (week, weekYear))
    (hday : week = (l.dayNumber - cal.weeks.weekYearStart weekYear) / 7 + 1) :
    cal.add? .weekOfYear amount (offset.instantAt reading) true = some (cal.moveToDay l
      (l.dayNumber + 7 *
        (LocalTime.weekAfter (l.weekCount cal.weeks week weekYear) week amount - week))) := by
  by_cases hzero : amount = 0
  · have hdn := hl.dayNumber_lt
    have hstay := (moveToDay_weeks hzone hl 0 (by omega)).1
    rw [add?, if_pos hzero, LocalTime.weekAfter, if_pos (Or.inl hzero), hzero, add_zero, sub_self,
      hstay, mul_zero, add_zero]
  · rw [add?, if_neg hzero, if_pos hamount, if_pos rfl,
      cycle?_weekOfYear hzone hl amount hsized hweek hday, LocalTime.cycleWeek_of_ne _ hzero]

omit hzone hl in
/-- **A cyclic move by weeks turns round among the weeks that it counts.** These are the weeks of
the week year if weeks begin on Sunday, and may otherwise be one more or less. The move keeps the
weekday and the time of day, and the week year unless it is to a week after the last. -/
theorem add?_turns_weeks (hzone : cal.zone = .fixed offset) {n amount : ℤ}
    (hyear : -largestYear < (cal.localTime (.ofSeconds n)).date.year ∧
      (cal.localTime (.ofSeconds n)).date.year < largestYear)
    (hamount : IsFieldSized amount) :
    ∃ week weekYear count turn moved t',
      (cal.localTime (.ofSeconds n)).weekOfYear cal.weeks = (week, weekYear) ∧
      cal.range? .weekOfYear .yearForWeekOfYear (.ofSeconds n) = some ⟨1, count + 1⟩ ∧
      turn = (cal.localTime (.ofSeconds n)).weekCount cal.weeks week weekYear ∧
      (count - 1 ≤ turn ∧ turn ≤ count + 1 ∧ (cal.weeks.firstWeekday = 1 → turn = count)) ∧
      moved = LocalTime.weekAfter turn week amount ∧
      (turn = count ∨ 1 ≤ week + amount ∧ week + amount ≤ 52 →
        moved = (week - 1 + amount) % count + 1) ∧
      cal.add? .weekOfYear amount (.ofSeconds n) true = some t' ∧
      t' = .ofSeconds (n + 7 * secondsPerDay * (moved - week)) ∧
      (cal.localTime (.ofSeconds n)).SameTime (cal.localTime t') ∧
      (cal.localTime t').weekday = (cal.localTime (.ofSeconds n)).weekday ∧
      (cal.localTime t').weekOfYear cal.weeks =
        if moved ≤ count then (moved, weekYear) else (1, weekYear + 1) := by
  have hl := shownAt_ofSeconds hzone (n := n) ⟨by omega, by omega⟩
  obtain ⟨weekYear, hmem, hnear, hweek⟩ := hl.exists_weekYear cal.weeks
  obtain ⟨count, hcount, hfew, hmany⟩ := cal.weeks.exists_weekYearStart_succ weekYear
  have hturn := hl.weekCount_near cal.weeks hmem hcount
  obtain ⟨week, hday⟩ : ∃ week, week = ((cal.localTime (.ofSeconds n)).dayNumber -
    cal.weeks.weekYearStart weekYear) / 7 + 1 := ⟨_, rfl⟩
  rw [← hday] at hweek hturn
  have hadd := add?_weekOfYear hzone hl ⟨by omega, by omega⟩ hamount hweek hday
  rw [← offset.ofSeconds_eq_instantAt] at hadd
  generalize hcounted : (cal.localTime (.ofSeconds n)).weekCount cal.weeks week weekYear = turn
    at hturn hadd
  have hmoved := LocalTime.weekAfter_mem amount hfew hturn.1
    (show 1 ≤ week ∧ week ≤ count by omega)
  generalize hafter : LocalTime.weekAfter turn week amount = moved at hadd hmoved
  have hdn := hl.dayNumber_lt
  obtain ⟨hinstant, hnumber, hweekday, htime⟩ :=
    moveToDay_weeks hzone hl (moved - week) (by omega)
  refine ⟨week, weekYear, count, turn, moved, _, hweek, range?_weekOfYear hcount hmem,
    hcounted.symm, ⟨hturn.1.1, hturn.1.2, hturn.2⟩, hafter.symm, ?_, hadd, ?_, htime, hweekday, ?_⟩
  · rw [← hafter]
    rintro (hsame | hinside)
    · rw [hsame, LocalTime.weekAfter_eq_emod hfew (by omega)]
    · rw [LocalTime.weekAfter, if_pos (Or.inr hinside), Int.emod_eq_of_lt (by omega) (by omega)]
      omega
  · rw [hinstant, FixedOffset.instantAt]
    congr 1
    ring
  · have hplace := emod_mem ((cal.localTime (.ofSeconds n)).dayNumber -
      cal.weeks.weekYearStart weekYear) (show (0 : ℤ) < 7 by decide)
    exact weekOfYear_of_week_le_succ hcount hmoved hplace (by omega)

omit hzone hl in
/-- From Sunday, the week year 2016 has 53 weeks, and as many weeks on is the same instant. -/
theorem add?_turns_weeks_longWeekYear :
    standard.range? .weekOfYear .yearForWeekOfYear (.ofSeconds 1465992000) = some ⟨1, 54⟩ ∧
      standard.add? .weekOfYear 53 (.ofSeconds 1465992000) true = some (.ofSeconds 1465992000) := by
  have hyear : (standard.localTime (.ofSeconds 1465992000)).date.year = 2016 := by decide +kernel
  have hweeks : standard.range? .weekOfYear .yearForWeekOfYear (.ofSeconds 1465992000) =
      some ⟨1, 54⟩ := by decide +kernel
  have hcalendar : (standard.localTime (.ofSeconds 1465992000)).weekOfYear standard.weeks =
      (25, 2016) := by decide +kernel
  refine ⟨hweeks, ?_⟩
  obtain ⟨week, weekYear, count, turn, moved, t', hweek, hrange, -, ⟨-, -, hturn⟩, -, hmoved, hadd,
    rfl, -⟩ := add?_turns_weeks (show standard.zone = .fixed _ from rfl) (n := 1465992000)
      (by rw [hyear]; decide) (by decide : IsFieldSized 53)
  rw [hcalendar, Prod.mk.injEq] at hweek
  rw [hweeks, Option.some_inj, ValueRange.mk.injEq] at hrange
  obtain ⟨rfl, rfl⟩ := hweek
  obtain rfl : count = 53 := by omega
  obtain rfl : moved = 25 := hmoved (Or.inl (hturn rfl))
  exact hadd

omit hzone hl in
/-- The ISO week year 2018 has 52 weeks, but a cyclic move counts 51 of them: 52 weeks on is a week
later. -/
theorem add?_weekOfYear_week_later :
    let cal : Calendar := ⟨⟨2, 4, by decide, by decide⟩, .utc⟩
    cal.range? .weekOfYear .yearForWeekOfYear (.ofSeconds 1527811200) = some ⟨1, 53⟩ ∧
      (cal.localTime (.ofSeconds 1527811200)).weekCount cal.weeks 22 2018 = 51 ∧
      cal.add? .weekOfYear 52 (.ofSeconds 1527811200) true =
        some (.ofSeconds (1527811200 + 7 * secondsPerDay)) := by
  decide +kernel

end Calendar

end Almanac
