import Mathlib
import Almanac.Proofs.Calendar.Tiling
import Almanac.Calendar.Add

/-!
# Cyclic moves keep their container

A cyclic move changes the number of its unit and leaves alone what holds the unit: the year of a
month, the month of a day, the week of a weekday. In a fixed zone the local time after the move is
known in full.

* `LocalTime.Cycled`: the local times before and after a cyclic move.
* `LocalTime.weekdayCount`: how often the weekday of a date occurs in its month.
* `Calendar.exists_moveToMonth?`, `Calendar.localTime_moveToDay`, `Calendar.localTime_addSeconds`:
  the local time after a move to a month, to a day, and by seconds of the day.
* **`Calendar.add?_cycles`**: cyclic moves succeed unless a year is too large, keep the time of day
  if they move days, and turn the number of the unit round inside its container.
-/

namespace Almanac

/-- The units whose number turns round inside a container that stays. -/
def TimeUnit.cyclic : List TimeUnit :=
  [year, quarter, month, day, weekday, weekdayOrdinal, hour, minute, second]

/-- The unit inside which a unit of the time of day turns round. -/
def TimeUnit.clockContainer? : TimeUnit → Option TimeUnit
  | .hour => some .day
  | .minute => some .hour
  | .second => some .minute
  | _ => none

theorem emod_mem (a : ℤ) {n : ℤ} (hn : 0 < n) : 0 ≤ a % n ∧ a % n < n :=
  ⟨Int.emod_nonneg a hn.ne', Int.emod_lt_of_pos a hn⟩

namespace LocalTime

variable (l : LocalTime)

/-- The year moved by `amount` inside its era. -/
def cycledYear (amount : ℤ) : ℤ :=
  if 1 ≤ l.date.year then max 1 (l.date.year + amount) else min 0 (l.date.year + amount)

/-- How many days of the month fall on the weekday of the date. -/
def weekdayCount : ℕ :=
  ((Finset.range l.monthLength.toNat).filter
    fun k : ℕ => weekdayOf (l.dayNumber - (l.date.day - 1) + k) = l.weekday).card

/-- The same time of day. -/
def SameTime (l l' : LocalTime) : Prop :=
  l'.secondOfDay = l.secondOfDay ∧ l'.nanosecond = l.nanosecond

/-- How a cyclic move by `amount` of a unit changes a local time. -/
inductive Cycled (weeks : WeekNumbering) (amount : ℤ) (l l' : LocalTime) : TimeUnit → Prop where
  | year (hera : (yearOfEra l'.date.year).1 = (yearOfEra l.date.year).1)
      (hyear : l'.date.year = l.cycledYear amount) (hmonth : l'.date.month = l.date.month)
      (hday : l'.date.day = min l.date.day l'.monthLength) (htime : l.SameTime l') :
      Cycled weeks amount l l' .year
  | quarter (hyear : l'.date.year = l.date.year)
      (hquarter : quarterOf l'.date.month = (quarterOf l.date.month - 1 + amount) % 4 + 1)
      (hplace : (l'.date.month - 1) % 3 = (l.date.month - 1) % 3)
      (hday : l'.date.day = min l.date.day l'.monthLength) (htime : l.SameTime l') :
      Cycled weeks amount l l' .quarter
  | month (hyear : l'.date.year = l.date.year)
      (hmonth : l'.date.month = (l.date.month - 1 + amount) % 12 + 1)
      (hday : l'.date.day = min l.date.day l'.monthLength) (htime : l.SameTime l') :
      Cycled weeks amount l l' .month
  | day (hyear : l'.date.year = l.date.year) (hmonth : l'.date.month = l.date.month)
      (hday : l'.date.day = (l.date.day - 1 + amount) % l.monthLength + 1)
      (htime : l.SameTime l') : Cycled weeks amount l l' .day
  | weekday (hweek : weeks.startOfWeek l'.dayNumber = weeks.startOfWeek l.dayNumber)
      (hplace : weeks.placeOf l'.weekday = (weeks.placeOf l.weekday + amount) % 7)
      (htime : l.SameTime l') : Cycled weeks amount l l' .weekday
  | weekdayOrdinal (hyear : l'.date.year = l.date.year) (hmonth : l'.date.month = l.date.month)
      (hweekday : l'.weekday = l.weekday)
      (hordinal : l'.value weeks .weekdayOrdinal =
        (l.value weeks .weekdayOrdinal - 1 + amount) % l.weekdayCount + 1)
      (htime : l.SameTime l') : Cycled weeks amount l l' .weekdayOrdinal
  | hour (hdate : l'.date = l.date) (hhour : l'.hour = (l.hour + amount) % 24)
      (hminute : l'.minute = l.minute) (hsecond : l'.second = l.second)
      (hnanosecond : l'.nanosecond = l.nanosecond) : Cycled weeks amount l l' .hour
  | minute (hdate : l'.date = l.date) (hhour : l'.hour = l.hour)
      (hminute : l'.minute = (l.minute + amount) % 60) (hsecond : l'.second = l.second)
      (hnanosecond : l'.nanosecond = l.nanosecond) : Cycled weeks amount l l' .minute
  | second (hdate : l'.date = l.date) (hhour : l'.hour = l.hour) (hminute : l'.minute = l.minute)
      (hsecond : l'.second = (l.second + amount) % 60)
      (hnanosecond : l'.nanosecond = l.nanosecond) : Cycled weeks amount l l' .second

theorem Cycled.sameTime {weeks : WeekNumbering} {amount : ℤ} {l l' : LocalTime} {unit : TimeUnit}
    (h : Cycled weeks amount l l' unit) (hunit : unit.isClockUnit = false) : l.SameTime l' := by
  cases h with
  | hour | minute | second => cases hunit
  | _ => assumption

theorem weekdayCount_eq (h : 1 ≤ l.date.day ∧ l.date.day ≤ l.monthLength) :
    (l.weekdayCount : ℤ) = (l.date.day - 1) / 7 + (l.monthLength - l.date.day) / 7 + 1 := by
  have hdays : (Finset.range l.monthLength.toNat).filter
        (fun k : ℕ => weekdayOf (l.dayNumber - (l.date.day - 1) + k) = l.weekday) =
      (Finset.range ((l.date.day - 1) / 7 + (l.monthLength - l.date.day) / 7 + 1).toNat).image
        fun j => ((l.date.day - 1) % 7).toNat + 7 * j := by
    ext k
    rw [Finset.mem_filter, Finset.mem_image]
    simp only [Finset.mem_range, weekday, weekdayOf]
    constructor
    · rintro ⟨hmem, hweekday⟩
      exact ⟨k / 7, by omega, by omega⟩
    · rintro ⟨j, hj, rfl⟩
      omega
  have hinj : Function.Injective fun j : ℕ => ((l.date.day - 1) % 7).toNat + 7 * j := by
    intro a b hab
    dsimp only at hab
    omega
  rw [weekdayCount, hdays, Finset.card_image_of_injective _ hinj, Finset.card_range]
  omega

/-- A year has 51 to 54 weeks, whichever way its last days are counted. -/
theorem weekCount_mem (weeks : WeekNumbering) (week weekYear : ℤ) :
    51 ≤ l.weekCount weeks week weekYear ∧ l.weekCount weeks week weekYear ≤ 54 := by
  have hlen := yearLength_mem weekYear
  have hm := weeks.minimumDays_mem
  simp only [weekCount, WeekNumbering.weekAt]
  omega

theorem cycleWeek_mem (weeks : WeekNumbering) (week weekYear amount : ℤ) :
    1 ≤ l.cycleWeek weeks week weekYear amount ∧ l.cycleWeek weeks week weekYear amount ≤ 54 := by
  have hcount := l.weekCount_mem weeks week weekYear
  have hmoved := emod_mem (week + amount - 1)
    (show 0 < l.weekCount weeks week weekYear by omega)
  simp only [cycleWeek]
  omega

theorem cycledYear_eq (amount : ℤ) :
    astronomicalYear (yearOfEra l.date.year).1 (max 1 (if (yearOfEra l.date.year).1 = 1 then
      (yearOfEra l.date.year).2 + amount else (yearOfEra l.date.year).2 - amount)) =
        l.cycledYear amount := by
  unfold cycledYear yearOfEra astronomicalYear
  split
  · dsimp only
    rw [if_neg (by omega), if_pos rfl]
  · dsimp only
    rw [if_pos le_rfl, if_neg (by omega)]
    omega

theorem era_cycledYear (amount : ℤ) :
    (yearOfEra (l.cycledYear amount)).1 = (yearOfEra l.date.year).1 := by
  unfold cycledYear yearOfEra
  split
  · rw [if_pos (by omega)]
  · rw [if_neg (by omega)]

/-- The seconds by which a cyclic move of the hour, the minute or the second moves an instant. -/
def clockShift (amount : ℤ) : TimeUnit → ℤ
  | .hour => ((l.hour + amount) % 24 - l.hour) * 3600
  | .minute => ((l.minute + amount) % 60 - l.minute) * 60
  | .second => (l.second + amount) % 60 - l.second
  | _ => 0

theorem clockShift_mem (hs : 0 ≤ l.secondOfDay ∧ l.secondOfDay < secondsPerDay) (amount : ℤ)
    (unit : TimeUnit) : 0 ≤ l.secondOfDay + l.clockShift amount unit ∧
      l.secondOfDay + l.clockShift amount unit < secondsPerDay := by
  unfold secondsPerDay at *
  cases unit with
  | hour =>
    simp only [clockShift, hour]
    omega
  | minute =>
    simp only [clockShift, minute]
    omega
  | second =>
    simp only [clockShift, second]
    omega
  | _ => simpa [clockShift] using hs

theorem clockShift_zero (hs : 0 ≤ l.secondOfDay ∧ l.secondOfDay < secondsPerDay) (unit : TimeUnit) :
    l.clockShift 0 unit = 0 := by
  unfold secondsPerDay at hs
  cases unit with
  | hour =>
    simp only [clockShift, hour]
    omega
  | minute =>
    simp only [clockShift, minute]
    omega
  | second =>
    simp only [clockShift, second]
    omega
  | _ => rfl

theorem cycled_clockShift {weeks : WeekNumbering} {amount : ℤ} {unit container : TimeUnit}
    (hunit : unit.clockContainer? = some container) :
    l.Cycled weeks amount { l with secondOfDay := l.secondOfDay + l.clockShift amount unit }
      unit := by
  cases unit with
  | hour =>
    refine .hour rfl ?_ ?_ ?_ rfl
    all_goals
      simp only [clockShift, hour, minute, second]
      omega
  | minute =>
    refine .minute rfl ?_ ?_ ?_ rfl
    all_goals
      simp only [clockShift, hour, minute, second]
      omega
  | second =>
    refine .second rfl ?_ ?_ ?_ rfl
    all_goals
      simp only [clockShift, hour, minute, second]
      omega
  | _ => cases hunit

/-! ## Local times of readings -/

/-- A local time is that of a reading, and its year is of allowed size. -/
structure ShownAt (reading : ℤ) : Prop where
  eq : ofReading reading = l
  isYearSized : IsYearSized l.date.year

namespace ShownAt

variable {l} {reading : ℤ} (h : l.ShownAt reading)
include h

theorem isValid : l.date.IsValid := h.eq ▸ date_isValid reading

theorem day_mem : 1 ≤ l.date.day ∧ l.date.day ≤ l.monthLength := h.isValid.day_mem

theorem secondOfDay_mem : 0 ≤ l.secondOfDay ∧ l.secondOfDay < secondsPerDay :=
  h.eq ▸ LocalTime.secondOfDay_mem reading

theorem nanosecond_eq : l.nanosecond = 0 := h.eq ▸ rfl

theorem reading_lt : reading.natAbs < 4000000000000000 :=
  Calendar.reading_mem (h.eq ▸ h.isYearSized)

theorem dayNumber_lt : l.dayNumber.natAbs < 50000000000 := by
  have hr := h.reading_lt
  have hn : l.dayNumber = reading / 86400 := h.eq ▸ rfl
  omega

theorem dayNumber_inMonth (day : ℤ) :
    Date.dayNumber ⟨l.date.year, l.date.month, day⟩ = l.dayNumber + (day - l.date.day) := by
  have hdate : l.date.dayNumber = l.dayNumber := h.eq ▸ Date.dayNumber_ofDayNumber _
  have hday : l.date.dayNumber = _ := dayNumber_add_day l.date.year l.date.month l.date.day
  rw [← hdate, hday, dayNumber_add_day]
  ring

theorem week_mem (weeks : WeekNumbering) :
    1 ≤ (l.weekOfYear weeks).1 ∧ (l.weekOfYear weeks).1 ≤ 53 := by
  obtain ⟨weekYear, hmem, -, heq⟩ := weeks.exists_weekYear (ofReading reading).dayNumber
  have hs := weeks.weekYearStart_succ weekYear
  have hweek : ((ofReading reading).weekOfYear weeks).1 = _ := congrArg Prod.fst heq
  dsimp only at hweek
  rw [← h.eq]
  omega

theorem cycled_zero {weeks : WeekNumbering} {unit : TimeUnit} (hunit : unit ∈ TimeUnit.cyclic) :
    l.Cycled weeks 0 l unit := by
  have hm := h.isValid.month_mem
  have hd := h.day_mem
  have hs := h.secondOfDay_mem
  unfold secondsPerDay at hs
  cases unit with
  | year => exact .year rfl (by unfold cycledYear; omega) rfl (by omega) ⟨rfl, rfl⟩
  | quarter => exact .quarter rfl (by unfold quarterOf; omega) rfl (by omega) ⟨rfl, rfl⟩
  | month => exact .month rfl (by omega) (by omega) ⟨rfl, rfl⟩
  | day => exact .day rfl rfl (by rw [Int.emod_eq_of_lt] <;> omega) ⟨rfl, rfl⟩
  | weekday =>
    have hp := weeks.placeOf_mem l.weekday
    exact .weekday rfl (by omega) ⟨rfl, rfl⟩
  | weekdayOrdinal =>
    have hcount := l.weekdayCount_eq hd
    refine .weekdayOrdinal rfl rfl rfl ?_ ⟨rfl, rfl⟩
    rw [value, Int.emod_eq_of_lt] <;> omega
  | hour => exact .hour rfl (by unfold LocalTime.hour; omega) rfl rfl rfl
  | minute => exact .minute rfl rfl (by unfold LocalTime.minute; omega) rfl rfl
  | second => exact .second rfl rfl rfl (by unfold LocalTime.second; omega) rfl
  | era | yearForWeekOfYear | weekOfMonth | weekOfYear | nanosecond =>
    exact absurd hunit (by decide)

end ShownAt

end LocalTime

namespace WeekNumbering

variable (weeks : WeekNumbering)

theorem natAbs_weekYearStart_lt {weekYear : ℤ} (hyear : IsYearSized weekYear) :
    (weeks.weekYearStart weekYear).natAbs < 40000000000 := by
  have hlen := monthLength_mem weekYear 1
  have hv : (⟨weekYear, 1, 1⟩ : Date).IsValid := ⟨by dsimp only; omega, by dsimp only; omega⟩
  have hmem := Date.dayNumber_mem hv hyear
  have hfirst := weeks.firstWeek_mem (Date.dayNumber ⟨weekYear, 1, 1⟩)
  rw [weekYearStart_eq_firstWeek]
  omega

theorem natAbs_dayAt_lt {year week start : ℤ} (weekday : ℤ)
    (hstart : dayNumber? year 1 1 = some start) (hweek : 1 ≤ week ∧ week ≤ 54) :
    (weeks.dayAt start week (some weekday)).natAbs < 100000000000 := by
  rw [dayNumber?_eq year 1 (by decide)] at hstart
  split at hstart
  · next hyear =>
    obtain rfl := Option.some.inj hstart
    have hfirst := weeks.natAbs_weekYearStart_lt hyear
    have hplace := weeks.placeOf_mem weekday
    rw [dayAt_weekYear]
    omega
  · cases hstart

end WeekNumbering

namespace Calendar

variable {cal : Calendar} {offset : FixedOffset} (hzone : cal.zone = .fixed offset)
  {reading : ℤ} {l : LocalTime} (hl : l.ShownAt reading)
include hzone hl

/-! ## The local time after a move -/

theorem localTime_shownAt : cal.localTime (offset.instantAt reading) = l := by
  have hr := hl.reading_lt
  rw [localTime_instantAt hzone (offset.isExact_of_lt (by omega)), hl.eq]

omit hl in
theorem shownAt_ofSeconds {n : ℤ} (hyear : IsYearSized (cal.localTime (.ofSeconds n)).date.year) :
    (cal.localTime (.ofSeconds n)).ShownAt (n + offset.seconds) := by
  have hr := reading_fixed hzone hyear
  refine ⟨?_, hyear⟩
  rw [offset.ofSeconds_eq_instantAt n, localTime_instantAt hzone (offset.isExact_of_lt (by omega))]

theorem localTime_moveToDay {day : ℤ} (hd : day.natAbs < 100000000000) :
    cal.localTime (cal.moveToDay l day) = ⟨day, .ofDayNumber day, l.secondOfDay, 0⟩ := by
  obtain ⟨rfl, -⟩ := hl
  have hs := LocalTime.secondOfDay_mem reading
  have hexact : offset.IsExact (day * secondsPerDay + reading % secondsPerDay) := by
    refine offset.isExact_of_lt ?_
    unfold secondsPerDay
    omega
  exact localTime_moveToDay_fixed hzone hexact

theorem sameTime_moveToDay {day : ℤ} (hd : day.natAbs < 100000000000) :
    l.SameTime (cal.localTime (cal.moveToDay l day)) := by
  rw [localTime_moveToDay hzone hl hd]
  exact ⟨rfl, hl.nanosecond_eq.symm⟩

theorem localTime_moveToDate {date : Date} (hv : date.IsValid) (hyear : IsYearSized date.year) :
    cal.localTime (cal.moveToDay l date.dayNumber) =
      ⟨date.dayNumber, date, l.secondOfDay, 0⟩ := by
  have hd := Date.dayNumber_mem hv hyear
  rw [localTime_moveToDay hzone hl (by omega), Date.ofDayNumber_dayNumber hv]

theorem localTime_moveInMonth {day : ℤ} (hd : 1 ≤ day ∧ day ≤ l.monthLength) :
    cal.localTime (cal.moveToDay l (l.dayNumber + (day - l.date.day))) =
      ⟨l.dayNumber + (day - l.date.day), ⟨l.date.year, l.date.month, day⟩, l.secondOfDay, 0⟩ := by
  rw [← hl.dayNumber_inMonth day]
  exact localTime_moveToDate hzone hl ⟨hl.isValid.month_mem, hd⟩ hl.isYearSized

theorem exists_moveToMonth? {year month : ℤ} (hmonth : 1 ≤ month ∧ month ≤ 12)
    (hyear : IsYearSized year) : ∃ t', cal.moveToMonth? l year month = some t' ∧
      (cal.localTime t').date = ⟨year, month, min l.date.day (monthLength year month)⟩ ∧
      l.SameTime (cal.localTime t') := by
  have hd := hl.day_mem
  have hlen := monthLength_mem year month
  have hv : (⟨year, month, min l.date.day (monthLength year month)⟩ : Date).IsValid :=
    ⟨hmonth, by dsimp only; omega⟩
  have hmove : cal.moveToMonth? l year month = some (cal.moveToDay l
      (Date.dayNumber ⟨year, month, min l.date.day (monthLength year month)⟩)) := by
    simp only [moveToMonth?, foldMonth_of_mem hmonth.1 hmonth.2, if_pos hyear]
    rw [dayNumber?_of_mem _ hmonth hyear, Option.map_some]
  refine ⟨_, hmove, ?_⟩
  rw [localTime_moveToDate hzone hl hv hyear]
  exact ⟨rfl, rfl, hl.nanosecond_eq.symm⟩

theorem localTime_addSeconds {k : ℤ}
    (h : 0 ≤ l.secondOfDay + k ∧ l.secondOfDay + k < secondsPerDay) :
    cal.localTime (offset.instantAt reading + Binary64.ofInt k) =
      { l with secondOfDay := l.secondOfDay + k } := by
  have hr := hl.reading_lt
  have hs := hl.secondOfDay_mem
  obtain ⟨rfl, -⟩ := hl
  rw [← LocalTime.ofReading_addSeconds h]
  unfold secondsPerDay at hs h
  have hexact := offset.isExact_of_lt (show reading.natAbs < 9000000000000000 by omega)
  have hexact' := offset.isExact_of_lt (show (reading + k).natAbs < 9000000000000000 by omega)
  rw [offset.instantAt_add hexact (by omega) hexact', localTime_instantAt hzone hexact']

/-! ## Moves of months -/

omit hzone hl in
theorem cycle?_year (t : Instant) (amount : ℤ) :
    cal.cycle? .year amount t = cal.moveToMonth? (cal.localTime t)
      ((cal.localTime t).cycledYear amount) (cal.localTime t).date.month := by
  rw [← LocalTime.cycledYear_eq]
  rfl

theorem exists_cycle?_year {amount : ℤ} (hyear : IsYearSized (l.cycledYear amount)) :
    ∃ t', cal.cycle? .year amount (offset.instantAt reading) = some t' ∧
      l.Cycled cal.weeks amount (cal.localTime t') .year := by
  obtain ⟨t', ht', hdate, hsame⟩ := exists_moveToMonth? hzone hl hl.isValid.month_mem hyear
  refine ⟨t', ?_, ?_⟩
  · rw [cycle?_year, localTime_shownAt hzone hl, ht']
  · refine .year ?_ ?_ ?_ ?_ hsame <;> simp only [hdate, LocalTime.monthLength]
    exact l.era_cycledYear amount

theorem cycle?_year_eq_none {amount : ℤ} (hyear : ¬ IsYearSized (l.cycledYear amount)) :
    cal.cycle? .year amount (offset.instantAt reading) = none := by
  have hm := hl.isValid.month_mem
  rw [cycle?_year, localTime_shownAt hzone hl]
  simp only [moveToMonth?, foldMonth_of_mem hm.1 hm.2, if_neg hyear]

theorem exists_cycle?_quarter (amount : ℤ) :
    ∃ t', cal.cycle? .quarter amount (offset.instantAt reading) = some t' ∧
      l.Cycled cal.weeks amount (cal.localTime t') .quarter := by
  have hm := hl.isValid.month_mem
  obtain ⟨t', ht', hdate, hsame⟩ := exists_moveToMonth? hzone hl
    (show 1 ≤ ((l.date.month - 1) / 3 + amount) % 4 * 3 + (l.date.month - 1) % 3 + 1 ∧ _ by
      omega) hl.isYearSized
  refine ⟨t', ?_, ?_⟩
  · change cal.moveToMonth? (cal.localTime _) _ _ = _
    rw [localTime_shownAt hzone hl]
    exact ht'
  · refine .quarter ?_ ?_ ?_ ?_ hsame <;> simp only [hdate, LocalTime.monthLength]
    · unfold quarterOf
      omega
    · omega

theorem exists_cycle?_month (amount : ℤ) :
    ∃ t', cal.cycle? .month amount (offset.instantAt reading) = some t' ∧
      l.Cycled cal.weeks amount (cal.localTime t') .month := by
  obtain ⟨t', ht', hdate, hsame⟩ := exists_moveToMonth? hzone hl
    (show 1 ≤ (l.date.month - 1 + amount) % 12 + 1 ∧ _ by omega) hl.isYearSized
  refine ⟨t', ?_, ?_⟩
  · change cal.moveToMonth? (cal.localTime _) _ _ = _
    rw [localTime_shownAt hzone hl]
    exact ht'
  · refine .month ?_ ?_ ?_ hsame <;> simp only [hdate, LocalTime.monthLength]

/-! ## Moves of days -/

theorem exists_cycle?_day (amount : ℤ) :
    ∃ t', cal.cycle? .day amount (offset.instantAt reading) = some t' ∧
      l.Cycled cal.weeks amount (cal.localTime t') .day := by
  have hd := hl.day_mem
  have hmoved := emod_mem (l.date.day - 1 + amount) (show 0 < l.monthLength by omega)
  have hlocal := localTime_moveInMonth hzone hl
    (show 1 ≤ (l.date.day - 1 + amount) % l.monthLength + 1 ∧ _ by omega)
  rw [← Int.add_sub_assoc] at hlocal
  refine ⟨_, rfl, ?_⟩
  rw [localTime_shownAt hzone hl, LocalTime.cycleDay, hlocal]
  exact .day rfl rfl rfl ⟨rfl, hl.nanosecond_eq.symm⟩

theorem exists_cycle?_weekday (amount : ℤ) :
    ∃ t', cal.cycle? .weekday amount (offset.instantAt reading) = some t' ∧
      l.Cycled cal.weeks amount (cal.localTime t') .weekday := by
  have hp := cal.weeks.placeOf_mem l.weekday
  have hdn := hl.dayNumber_lt
  have hlocal := localTime_moveToDay hzone hl
    (show (l.cycleWeekday cal.weeks amount).natAbs < _ by
      simp only [LocalTime.cycleWeekday]
      omega)
  refine ⟨_, rfl, ?_⟩
  rw [localTime_shownAt hzone hl, hlocal]
  refine .weekday ?_ ?_ ⟨rfl, hl.nanosecond_eq.symm⟩
  · simp only [LocalTime.cycleWeekday, LocalTime.weekday, WeekNumbering.placeOf_weekdayOf,
      WeekNumbering.startOfWeek_eq]
    omega
  · simp only [LocalTime.cycleWeekday, LocalTime.weekday, WeekNumbering.placeOf_weekdayOf]
    omega

theorem exists_cycle?_weekdayOrdinal (amount : ℤ) :
    ∃ t', cal.cycle? .weekdayOrdinal amount (offset.instantAt reading) = some t' ∧
      l.Cycled cal.weeks amount (cal.localTime t') .weekdayOrdinal := by
  have hd := hl.day_mem
  have hcount := l.weekdayCount_eq hd
  have hmoved := emod_mem ((l.date.day - 1) / 7 + amount)
    (show (0 : ℤ) < l.weekdayCount by omega)
  -- the day of the new count among the days of the weekday
  obtain ⟨day, hday⟩ : ∃ day, day = l.date.day +
      7 * (((l.date.day - 1) / 7 + amount) % l.weekdayCount - (l.date.day - 1) / 7) := ⟨_, rfl⟩
  have hcycle : l.cycleOrdinal amount = l.dayNumber + (day - l.date.day) := by
    simp only [LocalTime.cycleOrdinal, hday, hcount]
    ring
  have hlocal := localTime_moveInMonth hzone hl (show 1 ≤ day ∧ _ by omega)
  refine ⟨_, rfl, ?_⟩
  rw [localTime_shownAt hzone hl, hcycle, hlocal]
  refine .weekdayOrdinal rfl rfl ?_ ?_ ⟨rfl, hl.nanosecond_eq.symm⟩
  · simp only [LocalTime.weekday, weekdayOf]
    omega
  · simp only [LocalTime.value]
    rw [add_sub_cancel_right]
    omega

/-! ## Moves of the time of day -/

omit hzone hl in
theorem cycle?_clock {unit container : TimeUnit} (hunit : unit.clockContainer? = some container)
    (t : Instant) (amount : ℤ) : cal.cycle? unit amount t =
      some (t + Binary64.ofInt ((cal.localTime t).clockShift amount unit)) := by
  cases unit with
  | hour | minute | second => rfl
  | _ => cases hunit

theorem exists_cycle?_clock {unit container : TimeUnit}
    (hunit : unit.clockContainer? = some container) (amount : ℤ) :
    ∃ t', cal.cycle? unit amount (offset.instantAt reading) = some t' ∧
      l.Cycled cal.weeks amount (cal.localTime t') unit := by
  have hs := hl.secondOfDay_mem
  refine ⟨_, cycle?_clock hunit _ _, ?_⟩
  rw [localTime_shownAt hzone hl, localTime_addSeconds hzone hl (l.clockShift_mem hs amount unit)]
  exact l.cycled_clockShift hunit

/-! ## All moves -/

theorem exists_cycle? {unit : TimeUnit} {amount : ℤ} (hunit : unit ∈ TimeUnit.cyclic)
    (hsized : unit = .year → IsYearSized (l.cycledYear amount)) :
    ∃ t', cal.cycle? unit amount (offset.instantAt reading) = some t' ∧
      l.Cycled cal.weeks amount (cal.localTime t') unit := by
  cases unit with
  | year => exact exists_cycle?_year hzone hl (hsized rfl)
  | quarter => exact exists_cycle?_quarter hzone hl amount
  | month => exact exists_cycle?_month hzone hl amount
  | day => exact exists_cycle?_day hzone hl amount
  | weekday => exact exists_cycle?_weekday hzone hl amount
  | weekdayOrdinal => exact exists_cycle?_weekdayOrdinal hzone hl amount
  | hour | minute | second => exact exists_cycle?_clock hzone hl rfl amount
  | era | yearForWeekOfYear | weekOfMonth | weekOfYear | nanosecond =>
    exact absurd hunit (by decide)

theorem sameTime_of_cycle? {unit : TimeUnit} {amount : ℤ} {t' : Instant}
    (hunit : unit.isClockUnit = false)
    (h : cal.cycle? unit amount (offset.instantAt reading) = some t') :
    l.SameTime (cal.localTime t') := by
  have htime := localTime_shownAt hzone hl
  by_cases hcyclic : unit ∈ TimeUnit.cyclic
  · have hsized : unit = .year → IsYearSized (l.cycledYear amount) := by
      rintro rfl
      by_contra hlarge
      rw [cycle?_year_eq_none hzone hl hlarge] at h
      cases h
    obtain ⟨t'', ht'', hcycled⟩ := exists_cycle? hzone hl hcyclic hsized
    obtain rfl := Option.some.inj (h.symm.trans ht'')
    exact hcycled.sameTime hunit
  cases unit with
  | era =>
    obtain rfl := Option.some.inj h
    rw [htime]
    exact ⟨rfl, rfl⟩
  | yearForWeekOfYear =>
    simp only [cycle?, carry?, htime, Option.map_eq_some_iff] at h
    obtain ⟨start, hstart, rfl⟩ := h
    have hweek := hl.week_mem cal.weeks
    exact sameTime_moveToDay hzone hl (cal.weeks.natAbs_dayAt_lt _ hstart (by omega))
  | weekOfYear =>
    simp only [cycle?, htime, Option.map_eq_some_iff] at h
    obtain ⟨start, hstart, rfl⟩ := h
    exact sameTime_moveToDay hzone hl
      (cal.weeks.natAbs_dayAt_lt _ hstart (l.cycleWeek_mem _ _ _ _))
  | weekOfMonth =>
    simp only [cycle?, htime] at h
    obtain rfl := Option.some.inj h
    have hd := hl.day_mem
    have hdn := hl.dayNumber_lt
    have hlen := monthLength_mem l.date.year l.date.month
    refine sameTime_moveToDay hzone hl ?_
    simp only [LocalTime.cycleWeekOfMonth]
    unfold LocalTime.monthLength at *
    omega
  | nanosecond => cases hunit
  | _ => exact absurd (by decide) hcyclic

theorem sameTime_of_add? {unit : TimeUnit} {amount : ℤ} {t' : Instant}
    (hunit : unit.isClockUnit = false)
    (h : cal.add? unit amount (offset.instantAt reading) true = some t') :
    l.SameTime (cal.localTime t') := by
  unfold add? at h
  split at h
  · obtain rfl := Option.some.inj h
    rw [localTime_shownAt hzone hl]
    exact ⟨rfl, rfl⟩
  split at h
  · rw [if_pos rfl] at h
    exact sameTime_of_cycle? hzone hl hunit h
  · cases h

theorem cycled_of_add? {unit : TimeUnit} {amount : ℤ} (hunit : unit ∈ TimeUnit.cyclic)
    (hamount : IsFieldSized amount) :
    (cal.add? unit amount (offset.instantAt reading) true = none ↔
      unit = .year ∧ ¬ IsYearSized (l.cycledYear amount)) ∧
    ∀ t', cal.add? unit amount (offset.instantAt reading) true = some t' →
      l.Cycled cal.weeks amount (cal.localTime t') unit := by
  by_cases hzero : amount = 0
  · subst hzero
    have hsame : l.cycledYear 0 = l.date.year := by
      unfold LocalTime.cycledYear
      omega
    rw [add?, if_pos rfl, hsame]
    refine ⟨by simp [hl.isYearSized], fun t' h => ?_⟩
    obtain rfl := Option.some.inj h
    rw [localTime_shownAt hzone hl]
    exact hl.cycled_zero hunit
  · rw [add?, if_neg hzero, if_pos hamount, if_pos rfl]
    by_cases hnone : unit = .year ∧ ¬ IsYearSized (l.cycledYear amount)
    · obtain ⟨rfl, hlarge⟩ := hnone
      rw [cycle?_year_eq_none hzone hl hlarge]
      exact ⟨by simp [hlarge], fun t' h => by cases h⟩
    · obtain ⟨t', ht', hcycled⟩ := exists_cycle? hzone hl hunit
        (fun h => not_not.mp fun hlarge => hnone ⟨h, hlarge⟩)
      rw [ht']
      refine ⟨by simp only [reduceCtorEq, hnone], fun t'' h => ?_⟩
      obtain rfl := Option.some.inj h
      exact hcycled

omit hzone hl in
/-- **Cyclic moves keep their container.** Only a year may have no result, if the year inside its
era is too large. -/
theorem add?_cycles (hzone : cal.zone = .fixed offset) {n amount : ℤ}
    (hyear : -largestYear < (cal.localTime (.ofSeconds n)).date.year ∧
      (cal.localTime (.ofSeconds n)).date.year < largestYear)
    (hamount : IsFieldSized amount) (unit : TimeUnit) :
    (unit.isClockUnit = false → ∀ t', cal.add? unit amount (.ofSeconds n) true = some t' →
      (cal.localTime (.ofSeconds n)).SameTime (cal.localTime t')) ∧
    (unit ∈ TimeUnit.cyclic →
      (cal.add? unit amount (.ofSeconds n) true = none ↔
        unit = .year ∧ ¬ IsYearSized ((cal.localTime (.ofSeconds n)).cycledYear amount)) ∧
      ∀ t', cal.add? unit amount (.ofSeconds n) true = some t' →
        (cal.localTime (.ofSeconds n)).Cycled cal.weeks amount (cal.localTime t') unit) ∧
    ∀ t', cal.add? .weekday amount (.ofSeconds n) true = some t' →
      cal.startOf? .weekOfYear t' = cal.startOf? .weekOfYear (.ofSeconds n) := by
  have hsized : IsYearSized (cal.localTime (.ofSeconds n)).date.year := ⟨by omega, by omega⟩
  have hl : (cal.localTime (.ofSeconds n)).ShownAt (n + offset.seconds) := by
    have hr := reading_fixed hzone hsized
    refine ⟨?_, hsized⟩
    rw [offset.ofSeconds_eq_instantAt n, localTime_instantAt hzone (offset.isExact_of_lt (by omega))]
  have ht := offset.ofSeconds_eq_instantAt n
  rw [ht] at hl ⊢
  refine ⟨fun hunit t' h => sameTime_of_add? hzone hl hunit h,
    fun hunit => cycled_of_add? hzone hl hunit hamount, fun t' h => ?_⟩
  cases (cycled_of_add? hzone hl (by decide) hamount).2 t' h with
  | weekday hweek =>
    rw [startOf?_of_not_clock rfl, startOf?_of_not_clock rfl]
    simp only [LocalTime.firstDay?, hweek]

omit hzone hl in
/-- From 2024-01-31 12:00, thirteen months on inside the year are 2024-02-29 12:00. -/
theorem add?_cycles_leapFebruary :
    ∃ t', standard.add? .month 13 (.ofSeconds 1706702400) true = some t' ∧
      (standard.localTime t').date = ⟨2024, 2, 29⟩ ∧
      (standard.localTime t').secondOfDay = 43200 := by
  have hlocal : standard.localTime (.ofSeconds 1706702400) = ⟨19753, ⟨2024, 1, 31⟩, 43200, 0⟩ := by
    decide +kernel
  obtain ⟨-, hcycles, -⟩ := add?_cycles (show standard.zone = .fixed _ from rfl)
    (by rw [hlocal]; decide) (by decide : IsFieldSized 13) .month
  obtain ⟨hnone, hcycled⟩ := hcycles (by decide)
  cases h : standard.add? .month 13 (.ofSeconds 1706702400) true with
  | none => exact absurd (hnone.mp h).1 (by decide)
  | some t' =>
    refine ⟨t', rfl, ?_⟩
    have hmonth := hcycled t' h
    rw [hlocal] at hmonth
    generalize standard.localTime t' = l' at hmonth ⊢
    obtain ⟨dayNumber, ⟨year, month, day⟩, secondOfDay, nanosecond⟩ := l'
    cases hmonth with
    | month hyear hmonth hday htime =>
      obtain rfl : year = 2024 := hyear
      obtain rfl : month = 2 := hmonth
      obtain rfl : day = 29 := hday
      exact ⟨rfl, htime.1⟩

end Calendar

end Almanac
