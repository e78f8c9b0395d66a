import Mathlib
import Almanac.Proofs.Calendar.Cycle
import Almanac.Proofs.Instant.Within

/-!
# How far results leave the allowed years

The limit of years is that of the day which a calculation starts from. What is carried after that,
or moved by days, weeks and elapsed time, may leave the allowed years, by as many days as are
carried.

* `IsBeyondYears`: a day is at most so many days outside the allowed years.
* `DateFields.daysCarried`, `TimeUnit.daysMoved`: the days that are carried without a limit.
* `Calendar.dayNumber_near`: the local day of an instant that was resolved from a reading.
* **`Calendar.abs_year_le`**: the years of dates and of moved instants.
-/

namespace Almanac

/-! ## Years by days -/

namespace Date

theorem year_ofDayNumber_lt_iff (n year : ℤ) :
    (ofDayNumber n).year < year ↔ n < dayNumber ⟨year, 1, 1⟩ := by
  have hm := (ofDayNumber_isValid n).month_mem
  obtain ⟨hle, hlt⟩ := mem_monthDays n
  have hfirst := dayNumber_eq_first (show (1 : ℤ) ≤ 1 ∧ (1 : ℤ) ≤ 12 by decide)
    (show 12 * year + 1 - 1 = 12 * year by ring)
  unfold monthIndex at hle hlt
  rw [hfirst]
  constructor
  · intro h
    exact hlt.trans_le (monthStart_mono (by omega))
  · intro h
    have hindex := monthStart_strictMono.lt_iff_lt.mp (hle.trans_lt h)
    omega

theorem dayNumber_firstOfYear_add_le (year : ℤ) {count : ℤ} (h : 0 ≤ count) :
    dayNumber ⟨year, 1, 1⟩ + 365 * count ≤ dayNumber ⟨year + count, 1, 1⟩ := by
  induction count, h using Int.leInduction with
  | base => simp
  | succ count _ ih =>
    have hlen := yearLength_mem (year + count)
    rw [← add_assoc, dayNumber_next_year]
    omega

end Date

/-- The day is at most `days` days outside the allowed years. -/
def IsBeyondYears (days n : ℤ) : Prop :=
  Date.dayNumber ⟨-largestYear, 1, 1⟩ - days ≤ n ∧
    n < Date.dayNumber ⟨largestYear + 1, 1, 1⟩ + days

namespace IsBeyondYears

variable {days more n n' : ℤ}

theorem zero_iff : IsBeyondYears 0 n ↔ IsYearSized (Date.ofDayNumber n).year := by
  have hlow := Date.year_ofDayNumber_lt_iff n (-largestYear)
  have hhigh := Date.year_ofDayNumber_lt_iff n (largestYear + 1)
  unfold IsBeyondYears IsYearSized
  omega

theorem near (h : IsBeyondYears days n) (hnear : |n' - n| ≤ more) :
    IsBeyondYears (days + more) n' := by
  obtain ⟨hlow, hhigh⟩ := abs_le.mp hnear
  unfold IsBeyondYears at *
  omega

theorem mono (h : IsBeyondYears days n) (hmore : days ≤ more) : IsBeyondYears more n := by
  unfold IsBeyondYears at *
  omega

theorem abs_year_ofDayNumber_le (h : IsBeyondYears days n) (hdays : 0 ≤ days) :
    |(Date.ofDayNumber n).year| ≤ largestYear + 1 + days / 365 := by
  obtain ⟨hlow, hhigh⟩ := h
  have hafter := Date.dayNumber_firstOfYear_add_le (largestYear + 1)
    (show 0 ≤ days / 365 + 1 by omega)
  have hbefore := Date.dayNumber_firstOfYear_add_le (-largestYear - (days / 365 + 1))
    (show 0 ≤ days / 365 + 1 by omega)
  rw [sub_add_cancel] at hbefore
  have hlt := (Date.year_ofDayNumber_lt_iff _ _).mpr
    (show n < Date.dayNumber ⟨largestYear + 1 + (days / 365 + 1), 1, 1⟩ by omega)
  have hge := mt (Date.year_ofDayNumber_lt_iff _ _).mp
    (show ¬ n < Date.dayNumber ⟨-largestYear - (days / 365 + 1), 1, 1⟩ by omega)
  rw [abs_le]
  omega

theorem natAbs_lt (h : IsBeyondYears days n) : (n.natAbs : ℤ) < 37000000000 + days := by
  obtain ⟨hlow, hhigh⟩ := h
  have hfirst : Date.dayNumber ⟨-largestYear, 1, 1⟩ = -36524969528 := by decide
  have hlast : Date.dayNumber ⟨largestYear + 1, 1, 1⟩ = 36523530838 := by decide
  omega

theorem of_week (weeks : WeekNumbering) {year week : ℤ} (weekday : ℤ) (hyear : IsYearSized year)
    (hweek : 1 ≤ week ∧ week ≤ 54) :
    IsBeyondYears 20 (weeks.dayAt (Date.dayNumber ⟨year, 1, 1⟩) week (some weekday)) := by
  have hfirst := weeks.firstWeek_mem (Date.dayNumber ⟨year, 1, 1⟩)
  have hplace := weeks.placeOf_mem weekday
  have hlow := Date.dayNumber_firstOfYear_add_le (-largestYear)
    (show 0 ≤ year + largestYear by unfold IsYearSized at hyear; omega)
  have hhigh := Date.dayNumber_firstOfYear_add_le year
    (show 0 ≤ largestYear + 1 - year by unfold IsYearSized at hyear; omega)
  rw [add_comm year, neg_add_cancel_left] at hlow
  rw [add_sub_cancel] at hhigh
  unfold IsYearSized at hyear
  rw [weeks.dayAt_eq_firstWeek]
  unfold IsBeyondYears
  dsimp only
  omega

end IsBeyondYears

/-- A day of a month that is numbered is as far outside the allowed years as it is from the first of
the month. -/
theorem IsBeyondYears.of_dayNumber? {year month day start days n : ℤ}
    (h : dayNumber? year month day = some start) (hnear : |n - start| ≤ days) :
    IsBeyondYears (|day - 1| + days) n := by
  simp only [dayNumber?, Option.ite_none_right_eq_some, Option.some_inj] at h
  obtain ⟨hyear, rfl⟩ := h
  have hmonth := foldMonth_snd_mem year month
  generalize (foldMonth year month).1 = year', (foldMonth year month).2 = month' at *
  have hlen := monthLength_mem year' month'
  have hv : (⟨year', month', 1⟩ : Date).IsValid := ⟨hmonth, by dsimp only; omega⟩
  have hfirst : IsBeyondYears 0 (Date.dayNumber ⟨year', month', 1⟩) := by
    rw [zero_iff, Date.ofDayNumber_dayNumber hv]
    exact hyear
  have hday : |Date.dayNumber ⟨year', month', day⟩ - Date.dayNumber ⟨year', month', 1⟩| ≤
      |day - 1| := by rw [dayNumber_add_day, add_sub_cancel_left]
  exact ((hfirst.near hday).near hnear).mono (by omega)

theorem WeekNumbering.abs_dayAt_sub_le (weeks : WeekNumbering) (start week : ℤ)
    (weekday : Option ℤ) : |weeks.dayAt start week weekday - start| ≤ 7 * |week - 1| + 13 := by
  have hfirst := weeks.firstWeek_mem start
  rw [dayAt_eq_firstWeek, abs_le]
  have habs := abs_le.mp (le_refl |week - 1|)
  cases weekday with
  | none =>
    dsimp only
    omega
  | some weekday =>
    have hplace := weeks.placeOf_mem weekday
    dsimp only
    omega

theorem WeekNumbering.abs_nthWeekday_sub_le (weeks : WeekNumbering) (start : ℤ) {length : ℤ}
    (hlength : 28 ≤ length ∧ length ≤ 31) (ordinal weekday : ℤ) :
    |weeks.nthWeekday start length ordinal weekday - start| ≤ 7 * |ordinal| + 50 := by
  have hplace := weeks.placeOf_mem weekday
  have hplace' := weeks.placeOf_mem (weekdayOf start)
  have habs := abs_le.mp (le_refl |ordinal|)
  rw [nthWeekday, abs_le]
  omega

/-! ## What is carried -/

/-- The days that a selected day may be away from the first day of its month or year. -/
def DaySelector.daysCarried : DaySelector → ℤ
  | .monthDay day => |day - 1|
  | .yearWeek week | .monthWeek week => 7 * |week - 1|
  | .nthWeekday n _ => 7 * |n|

theorem DaySelector.daysCarried_nonneg (selector : DaySelector) : 0 ≤ selector.daysCarried := by
  cases selector <;> simp only [daysCarried] <;> positivity

/-- The seconds that the time fields stand for. -/
def DateFields.clockSeconds (c : DateFields) : ℤ :=
  c.secondOfDay + c.nanosecond.getD 0 / nanosPerSecond

theorem DateFields.WithinLimits.abs_getD_le {c : DateFields} (h : c.WithinLimits)
    (unit : TimeUnit) : |(c.get unit).getD 0| ≤ largestField := by
  cases hvalue : c.get unit with
  | none => decide
  | some value => exact abs_le.mpr (h unit unit.mem_all value hvalue)

theorem DateFields.WithinLimits.abs_clockSeconds_le {c : DateFields} (h : c.WithinLimits) :
    |c.clockSeconds| ≤ 3661000000001000 := by
  have hhour := abs_le.mp (h.abs_getD_le .hour)
  have hminute := abs_le.mp (h.abs_getD_le .minute)
  have hsecond := abs_le.mp (h.abs_getD_le .second)
  have hnanosecond := abs_le.mp (h.abs_getD_le .nanosecond)
  simp only [DateFields.get] at hhour hminute hsecond hnanosecond
  unfold largestField at *
  rw [clockSeconds, secondOfDay, abs_le]
  unfold nanosPerSecond
  omega

theorem DateFields.WithinLimits.daysCarried_le {c : DateFields} (h : c.WithinLimits)
    {selector : DaySelector} (hselector : c.daySelector? = some selector) :
    selector.daysCarried ≤ 7 * (largestField + 1) := by
  have hfield : ∀ unit value, c.get unit = some value →
      7 * |value| ≤ 7 * largestField ∧ 7 * |value - 1| ≤ 7 * (largestField + 1) := by
    intro unit value hvalue
    have hsize := abs_le.mpr (h unit unit.mem_all value hvalue)
    have hsub := abs_sub value 1
    rw [abs_one] at hsub
    omega
  have hdefault : c.defaultSelector.daysCarried ≤ 7 * (largestField + 1) := by
    unfold defaultSelector
    split
    · cases hweek : c.weekOfYear with
      | none => decide
      | some week => exact (hfield .weekOfYear week hweek).2
    · decide
  unfold daySelector? at hselector
  split at hselector
  · next day hday =>
    obtain rfl := Option.some.inj hselector
    have hle := (hfield .day day hday).2
    have hnonneg := abs_nonneg (day - 1)
    rw [DaySelector.daysCarried]
    omega
  · split at hselector <;> obtain rfl := Option.some.inj hselector
    · next week hweek => exact (hfield .weekOfYear week hweek).2
    · next week _ hweek => exact (hfield .weekOfMonth week hweek).2
    · next n _ _ hn =>
      have hle := (hfield .weekdayOrdinal n hn).1
      rw [DaySelector.daysCarried]
      omega
    · exact hdefault
  · obtain rfl := Option.some.inj (Option.ite_none_left_eq_some.mp hselector).2
    exact hdefault

/-- The days that a unit is moved by without a limit of years. -/
def TimeUnit.daysMoved (unit : TimeUnit) (amount : ℤ) : ℤ :=
  match unit with
  | day | weekday => |amount|
  | weekOfMonth | weekOfYear | weekdayOrdinal => 7 * |amount|
  | hour => |amount| / 24
  | minute => |amount| / 1440
  | second => |amount| / 86400
  | era | year | yearForWeekOfYear | quarter | month | nanosecond => 0

namespace LocalTime

variable {l : LocalTime} (h : 1 ≤ l.date.day ∧ l.date.day ≤ l.monthLength)

theorem cycleWeekday_near (l : LocalTime) (weeks : WeekNumbering) (amount : ℤ) :
    |l.cycleWeekday weeks amount - l.dayNumber| ≤ 50 := by
  have hplace := weeks.placeOf_mem l.weekday
  rw [cycleWeekday, abs_le]
  omega

include h

theorem cycleDay_near (amount : ℤ) : |l.cycleDay amount - l.dayNumber| ≤ 50 := by
  have hlen : l.monthLength ≤ 31 := (monthLength_mem _ _).2
  have hturn := emod_mem (l.date.day - 1 + amount) (show 0 < l.monthLength by omega)
  rw [cycleDay, abs_le]
  omega

theorem cycleOrdinal_near (amount : ℤ) : |l.cycleOrdinal amount - l.dayNumber| ≤ 50 := by
  have hlen : l.monthLength ≤ 31 := (monthLength_mem _ _).2
  have hturn := emod_mem ((l.date.day - 1) / 7 + amount)
    (show 0 < (l.date.day - 1) / 7 + (l.monthLength - l.date.day) / 7 + 1 by omega)
  rw [cycleOrdinal, abs_le]
  omega

theorem cycleWeekOfMonth_near (weeks : WeekNumbering) (amount : ℤ) :
    |l.cycleWeekOfMonth weeks amount - l.dayNumber| ≤ 50 := by
  have hlen : l.monthLength ≤ 31 := (monthLength_mem _ _).2
  simp only [cycleWeekOfMonth]
  rw [abs_le]
  omega

end LocalTime

theorem TimeUnit.daysMoved_nonneg (unit : TimeUnit) (amount : ℤ) : 0 ≤ unit.daysMoved amount := by
  cases unit <;> simp only [daysMoved] <;> positivity

namespace Calendar

variable {cal : Calendar} (hday : cal.zone.source.WithinDay)
include hday

/-! ## Near a reading -/

theorem dayNumber_near {t : Instant} {n reading : ℤ}
    (hn : (t.secondsAndNanos.1 - n).natAbs < 86400) (hr : (n - reading).natAbs < 86400) :
    |(cal.localTime t).dayNumber - reading / secondsPerDay| ≤ 3 := by
  have hoffset := hday (.ofSeconds t.secondsAndNanos.1)
  change |cal.zone.source.toLocal t.secondsAndNanos.1 / secondsPerDay - _| ≤ 3
  rw [abs_le, OffsetSource.toLocal]
  unfold secondsPerDay at *
  omega

theorem dayNumber_instantOf {dayNumber secondOfDay nanosecond reading : ℤ}
    (hreading : dayNumber * secondsPerDay + secondOfDay + nanosecond / nanosPerSecond = reading)
    (h : reading.natAbs < 2 ^ 60) (resolution : Resolution) :
    |(cal.localTime (cal.instantOf dayNumber secondOfDay nanosecond resolution)).dayNumber -
      reading / secondsPerDay| ≤ 3 := by
  have hutc := OffsetSource.toUtc_mem reading hday resolution
  have hnanos : 0 ≤ nanosecond % nanosPerSecond ∧ nanosecond % nanosPerSecond < nanosPerSecond :=
    ⟨Int.emod_nonneg _ (by decide), Int.emod_lt_of_pos _ (by decide)⟩
  unfold secondsPerDay at hutc
  unfold nanosPerSecond at hnanos
  have hinstant : cal.instantOf dayNumber secondOfDay nanosecond resolution =
      Instant.ofSeconds (cal.zone.source.toUtc reading resolution) +
        Binary64.ofInt (nanosecond % nanosPerSecond) / Binary64.ofInt nanosPerSecond := by
    rw [← hreading]
    rfl
  rw [hinstant]
  generalize cal.zone.source.toUtc reading resolution = second at hutc
  refine dayNumber_near hday (n := second) (Instant.seconds_near ?_ (by omega)) (by omega)
  exact Instant.within_add_nanos (Instant.within_ofSeconds (by omega)) (by omega) (by
    unfold nanosPerSecond
    omega)

/-! ## Moves -/

section Moves

variable {reading days : ℤ}

theorem isBeyondYears_moveToDay {day : ℤ} (h : IsBeyondYears days day) (hdays : days < 2 ^ 43) :
    IsBeyondYears (days + 3)
      (cal.localTime (cal.moveToDay (.ofReading reading) day)).dayNumber := by
  have hs := LocalTime.secondOfDay_mem reading
  have hd := h.natAbs_lt
  unfold secondsPerDay at hs
  have hreading : day * secondsPerDay + (LocalTime.ofReading reading).secondOfDay +
      0 / nanosPerSecond = day * 86400 + (LocalTime.ofReading reading).secondOfDay := by
    rw [Int.zero_ediv, add_zero]
    rfl
  have hnear := dayNumber_instantOf hday hreading (by omega) {}
  have hself : (day * 86400 + (LocalTime.ofReading reading).secondOfDay) / secondsPerDay = day := by
    unfold secondsPerDay
    omega
  rw [hself] at hnear
  exact h.near hnear

theorem isBeyondYears_moveToMonth? {year month : ℤ} {t' : Instant}
    (h : cal.moveToMonth? (.ofReading reading) year month = some t') :
    IsBeyondYears 3 (cal.localTime t').dayNumber := by
  rw [cal.moveToMonth?_eq _ rfl, Option.ite_none_right_eq_some] at h
  obtain ⟨hyear, h⟩ := h
  obtain rfl := Option.some.inj h
  have hd := (LocalTime.date_isValid reading).day_mem
  have hlen := monthLength_mem ((12 * year + month - 1) / 12) ((12 * year + month - 1) % 12 + 1)
  refine isBeyondYears_moveToDay hday (IsBeyondYears.zero_iff.mpr ?_) (by norm_num)
  rw [Date.ofDayNumber_monthStart_add (by omega)]
  exact hyear

variable (hyear : IsYearSized (LocalTime.ofReading reading).date.year) {unit : TimeUnit}
  {amount : ℤ} {t t' : Instant}

omit hday in
include hyear in
theorem isBeyondYears_self : IsBeyondYears 0 (LocalTime.ofReading reading).dayNumber :=
  IsBeyondYears.zero_iff.mpr hyear

include hyear in
theorem isBeyondYears_move {day : ℤ}
    (hmoved : |day - (LocalTime.ofReading reading).dayNumber| ≤ days) (hdays : days < 2 ^ 43) :
    IsBeyondYears (days + 3)
      (cal.localTime (cal.moveToDay (.ofReading reading) day)).dayNumber := by
  refine isBeyondYears_moveToDay hday ?_ hdays
  have hnear := (isBeyondYears_self hyear).near hmoved
  rwa [zero_add] at hnear

theorem isBeyondYears_moveToWeek {weekYear week weekday : ℤ}
    (hweek : 1 ≤ week ∧ week ≤ 54) (h : (dayNumber? weekYear 1 1).map (fun start =>
      cal.moveToDay (.ofReading reading) (cal.weeks.dayAt start week (some weekday))) = some t') :
    IsBeyondYears 23 (cal.localTime t').dayNumber := by
  obtain ⟨start, hstart, rfl⟩ := Option.map_eq_some_iff.mp h
  simp only [dayNumber?, foldMonth_of_mem (show (1 : ℤ) ≤ 1 by decide) (by decide),
    Option.ite_none_right_eq_some, Option.some_inj] at hstart
  obtain ⟨hsized, rfl⟩ := hstart
  exact isBeyondYears_moveToDay hday (IsBeyondYears.of_week cal.weeks weekday hsized hweek)
    (by norm_num)

include hyear

theorem isBeyondYears_elapsed {n k : ℤ} (hl : cal.zone.source.toLocal n = reading)
    (ht : (t'.secondsAndNanos.1 - (n + k)).natAbs < 86400) :
    IsBeyondYears (|k| / 86400 + 5) (cal.localTime t').dayNumber := by
  have hoffset := hday (.ofSeconds n)
  unfold OffsetSource.toLocal at hl
  have hnear := dayNumber_near hday ht (show (n + k - (reading + k)).natAbs < 86400 by
    unfold secondsPerDay at *
    omega)
  have hself : |(reading + k) / secondsPerDay - (LocalTime.ofReading reading).dayNumber| ≤
      |k| / 86400 + 1 := by
    change |(reading + k) / 86400 - reading / 86400| ≤ _
    rw [abs_le]
    have habs := abs_le.mp (le_refl |k|)
    omega
  have hmoved := ((isBeyondYears_self hyear).near hself).near hnear
  exact hmoved.mono (by omega)

theorem isBeyondYears_addSeconds {n k : ℤ} (hn : n.natAbs ≤ 2 ^ 53)
    (hl : cal.zone.source.toLocal n = reading) (hk : k.natAbs ≤ 2 ^ 53) :
    IsBeyondYears (|k| / 86400 + 5)
      (cal.localTime (Instant.ofSeconds n + Binary64.ofInt k)).dayNumber := by
  have hwithin := Instant.within_add_ofInt (Instant.within_ofSeconds (n := n) (by omega))
    (by omega) (show k.natAbs < 2 ^ 61 by omega)
  exact isBeyondYears_elapsed hday hyear hl (Instant.seconds_near hwithin (by omega))

theorem isBeyondYears_addNanos {n k : ℤ} (hn : n.natAbs ≤ 2 ^ 53)
    (hl : cal.zone.source.toLocal n = reading) (hk : k.natAbs ≤ 10000000000000) :
    IsBeyondYears 5 (cal.localTime
      (Instant.ofSeconds n + Binary64.ofInt k / Binary64.ofInt nanosPerSecond)).dayNumber := by
  have hwithin := Instant.within_add_nanos (Instant.within_ofSeconds (n := n) (by omega))
    (by omega) hk
  refine isBeyondYears_elapsed hday hyear (k := 0) hl ?_
  rw [add_zero]
  exact Instant.seconds_near hwithin (by omega)

theorem isBeyondYears_carry? {n : ℤ} (hn : n.natAbs ≤ 2 ^ 53)
    (hl : cal.zone.source.toLocal n = reading) (hamount : IsFieldSized amount)
    (h : cal.carry? unit amount (.ofSeconds n) = some t') :
    IsBeyondYears (unit.daysMoved amount + 60) (cal.localTime t').dayNumber := by
  have hlocal : cal.localTime (.ofSeconds n) = .ofReading reading := by
    rw [cal.localTime_ofSeconds hn, hl]
  have hmoved := unit.daysMoved_nonneg amount
  have habs : |amount| ≤ 1000000000000 := abs_le.mpr hamount
  have hsize := Int.abs_eq_natAbs amount
  simp only [carry?, hlocal] at h
  cases unit with
  | era =>
    obtain rfl := Option.some.inj h
    rw [hlocal]
    exact (isBeyondYears_self hyear).mono (by omega)
  | year | quarter | month => exact (isBeyondYears_moveToMonth? hday h).mono (by omega)
  | day | weekday =>
    obtain rfl := Option.some.inj h
    have hnear : |(LocalTime.ofReading reading).dayNumber + amount -
        (LocalTime.ofReading reading).dayNumber| ≤ |amount| := by rw [add_sub_cancel_left]
    exact (isBeyondYears_move hday hyear hnear (by omega)).mono
      (Int.add_le_add_left (by decide) _)
  | weekOfYear | weekOfMonth | weekdayOrdinal =>
    obtain rfl := Option.some.inj h
    have hnear : |(LocalTime.ofReading reading).dayNumber + 7 * amount -
        (LocalTime.ofReading reading).dayNumber| ≤ 7 * |amount| := by
      rw [add_sub_cancel_left, abs_mul]
      rfl
    exact (isBeyondYears_move hday hyear hnear (by omega)).mono
      (Int.add_le_add_left (by decide) _)
  | yearForWeekOfYear =>
    have hweek := LocalTime.ShownAt.week_mem ⟨rfl, hyear⟩ cal.weeks
    exact (isBeyondYears_moveToWeek hday (by omega) h).mono (by omega)
  | hour | minute | second =>
    obtain rfl := Option.some.inj h
    refine (isBeyondYears_addSeconds hday hyear hn hl (by omega)).mono ?_
    simp only [TimeUnit.daysMoved, abs_mul, Nat.abs_ofNat]
    omega
  | nanosecond =>
    obtain rfl := Option.some.inj h
    exact (isBeyondYears_addNanos hday hyear hn hl (by omega)).mono (by omega)

theorem isBeyondYears_cycle? {n : ℤ} (hn : n.natAbs ≤ 2 ^ 53)
    (hl : cal.zone.source.toLocal n = reading) (hamount : IsFieldSized amount)
    (h : cal.cycle? unit amount (.ofSeconds n) = some t') :
    IsBeyondYears 60 (cal.localTime t').dayNumber := by
  have hlocal : cal.localTime (.ofSeconds n) = .ofReading reading := by
    rw [cal.localTime_ofSeconds hn, hl]
  have hd := (LocalTime.date_isValid reading).day_mem
  have hlen := monthLength_mem (LocalTime.ofReading reading).date.year
    (LocalTime.ofReading reading).date.month
  have hs := LocalTime.secondOfDay_mem reading
  have hshift := LocalTime.clockShift_mem _ hs amount unit
  have hmoved : ∀ {day}, cal.moveToDay (.ofReading reading) day = t' →
      |day - (LocalTime.ofReading reading).dayNumber| ≤ 50 →
      IsBeyondYears 60 (cal.localTime t').dayNumber := by
    rintro day rfl hnear
    exact (isBeyondYears_move hday hyear hnear (by norm_num)).mono (by decide)
  have helapsed : ∀ {k}, Instant.ofSeconds n + Binary64.ofInt k = t' → |k| ≤ 86400 →
      IsBeyondYears 60 (cal.localTime t').dayNumber := by
    rintro k rfl hk
    exact (isBeyondYears_addSeconds hday hyear hn hl (by rw [abs_le] at hk; omega)).mono (by omega)
  simp only [cycle?, hlocal] at h
  cases unit with
  | era =>
    obtain rfl := Option.some.inj h
    rw [hlocal]
    exact (isBeyondYears_self hyear).mono (by omega)
  | year | quarter | month => exact (isBeyondYears_moveToMonth? hday h).mono (by omega)
  | yearForWeekOfYear =>
    exact (isBeyondYears_carry? hday hyear hn hl hamount h).mono (zero_add _).le
  | weekOfYear =>
    have hweek := LocalTime.cycleWeek_mem (.ofReading reading) cal.weeks
    exact (isBeyondYears_moveToWeek hday (hweek _ _ _) h).mono (by omega)
  | day => exact hmoved (Option.some.inj h) (LocalTime.cycleDay_near hd amount)
  | weekday => exact hmoved (Option.some.inj h) (LocalTime.cycleWeekday_near _ _ amount)
  | weekdayOrdinal => exact hmoved (Option.some.inj h) (LocalTime.cycleOrdinal_near hd amount)
  | weekOfMonth =>
    exact hmoved (Option.some.inj h) (LocalTime.cycleWeekOfMonth_near hd cal.weeks amount)
  | hour | minute | second =>
    refine helapsed (Option.some.inj h) ?_
    simp only [LocalTime.clockShift] at hshift
    unfold secondsPerDay at hs hshift
    rw [abs_le]
    omega
  | nanosecond =>
    obtain rfl := Option.some.inj h
    have hpos : 0 < nanosPerSecond := by decide
    have hlow := Int.lt_tmod_of_pos ((LocalTime.ofReading reading).nanosecond + amount) hpos
    have hhigh := Int.tmod_lt_of_pos ((LocalTime.ofReading reading).nanosecond + amount) hpos
    have hnone : (LocalTime.ofReading reading).nanosecond = 0 := rfl
    refine (isBeyondYears_addNanos hday hyear hn hl ?_).mono (by omega)
    unfold nanosPerSecond at *
    omega

end Moves

/-! ## Dates -/

omit hday in
theorem isBeyondYears_dayNumberAt? {c : DateFields} {weeks : WeekNumbering} {selector : DaySelector}
    {n : ℤ} (h : c.dayNumberAt? weeks selector = some n) :
    IsBeyondYears (selector.daysCarried + 50) n := by
  cases selector with
  | monthDay day =>
    have hself : |n - n| ≤ 0 := by rw [sub_self, abs_zero]
    exact (IsBeyondYears.of_dayNumber? h hself).mono (Int.add_le_add_left (by decide) _)
  | yearWeek week | monthWeek week =>
    obtain ⟨start, hstart, rfl⟩ := Option.map_eq_some_iff.mp h
    refine (IsBeyondYears.of_dayNumber? hstart (weeks.abs_dayAt_sub_le _ week c.weekday)).mono ?_
    rw [DaySelector.daysCarried, sub_self, abs_zero]
    omega
  | nthWeekday ordinal weekday =>
    obtain ⟨start, hstart, rfl⟩ := Option.map_eq_some_iff.mp h
    refine (IsBeyondYears.of_dayNumber? hstart (weeks.abs_nthWeekday_sub_le _ (monthLength_mem _ _)
      ordinal weekday)).mono ?_
    rw [DaySelector.daysCarried, sub_self, abs_zero]
    omega

theorem isBeyondYears_date? {c : DateFields} {resolution : Resolution} {t : Instant}
    (h : cal.date? c resolution = some t) : ∃ selector, c.daySelector? = some selector ∧
      IsBeyondYears (selector.daysCarried + |c.clockSeconds| / 86400 + 60)
        (cal.localTime t).dayNumber := by
  simp only [date?, Option.ite_none_left_eq_some, Option.bind_eq_bind, Option.bind_eq_some_iff,
    not_or, not_not] at h
  obtain ⟨⟨-, hlimits⟩, selector, hselector, n, hn, ht⟩ := h
  obtain rfl := Option.some.inj ht
  refine ⟨selector, hselector, ?_⟩
  have hbeyond := isBeyondYears_dayNumberAt? hn
  have hsize := hbeyond.natAbs_lt
  have hcarried := hlimits.daysCarried_le hselector
  have hclock := hlimits.abs_clockSeconds_le
  have hclock' := abs_le.mp (le_refl |c.clockSeconds|)
  have hreading : n * secondsPerDay + c.secondOfDay + c.nanosecond.getD 0 / nanosPerSecond =
      n * 86400 + c.clockSeconds := add_assoc _ _ _
  unfold largestField at hcarried
  have hnear := dayNumber_instantOf hday hreading (by omega) resolution
  have hself :
      |(n * 86400 + c.clockSeconds) / secondsPerDay - n| ≤ |c.clockSeconds| / 86400 + 1 := by
    unfold secondsPerDay
    rw [abs_le]
    omega
  exact ((hbeyond.near hself).near hnear).mono (by omega)

theorem isBeyondYears_add? {n amount : ℤ} {unit : TimeUnit} {wrap : Bool} {t' : Instant}
    (hyear : IsYearSized (cal.localTime (.ofSeconds n)).date.year)
    (h : cal.add? unit amount (.ofSeconds n) wrap = some t') :
    IsBeyondYears ((if wrap then 0 else unit.daysMoved amount) + 60)
      (cal.localTime t').dayNumber := by
  obtain ⟨hn, -⟩ := cal.exact_of_year hday hyear
  rw [cal.localTime_ofSeconds hn] at hyear
  have hmoved := unit.daysMoved_nonneg amount
  unfold add? at h
  split at h
  · obtain rfl := Option.some.inj h
    rw [cal.localTime_ofSeconds hn]
    exact (isBeyondYears_self hyear).mono (by split <;> omega)
  obtain ⟨hamount, h⟩ := Option.ite_none_right_eq_some.mp h
  cases wrap with
  | true => exact (isBeyondYears_cycle? hday hyear hn rfl hamount h).mono (zero_add _).ge
  | false => exact isBeyondYears_carry? hday hyear hn rfl hamount h

end Calendar

/-! ## What keeps the limit -/

/-- Whether moves by the unit check the year they lead to, or stay in their month. -/
def TimeUnit.keepsYears (unit : TimeUnit) (wrap : Bool) : Bool :=
  match unit with
  | era | year | quarter | month => true
  | day | weekOfMonth | weekdayOrdinal | hour | minute | second => wrap
  | yearForWeekOfYear | weekOfYear | weekday | nanosecond => false

namespace Calendar

section Fixed

variable {cal : Calendar} {offset : FixedOffset} (hzone : cal.zone = .fixed offset)
  {reading : ℤ} {l : LocalTime} (hl : l.ShownAt reading) {t' : Instant}
include hzone hl

theorem isYearSized_moveToMonth? {year month : ℤ} (h : cal.moveToMonth? l year month = some t') :
    IsYearSized (cal.localTime t').date.year := by
  have hmonth := foldMonth_snd_mem year month
  have hfold : cal.moveToMonth? l year month =
      cal.moveToMonth? l (foldMonth year month).1 (foldMonth year month).2 := by
    simp only [moveToMonth?, foldMonth_of_mem hmonth.1 hmonth.2]
  by_cases hyear : IsYearSized (foldMonth year month).1
  · obtain ⟨t'', ht'', hdate, -⟩ := exists_moveToMonth? hzone hl hmonth hyear
    rw [hfold, ht''] at h
    obtain rfl := Option.some.inj h
    rw [hdate]
    exact hyear
  · simp only [moveToMonth?, if_neg hyear] at h
    cases h

theorem isYearSized_carry? {unit : TimeUnit} {amount : ℤ} (hunit : unit.keepsYears false = true)
    (h : cal.carry? unit amount (offset.instantAt reading) = some t') :
    IsYearSized (cal.localTime t').date.year := by
  simp only [carry?, localTime_shownAt hzone hl] at h
  cases unit with
  | era =>
    obtain rfl := Option.some.inj h
    rw [localTime_shownAt hzone hl]
    exact hl.isYearSized
  | year | quarter | month => exact isYearSized_moveToMonth? hzone hl h
  | _ => cases hunit

theorem isYearSized_cycle?_weekOfMonth {amount : ℤ}
    (h : cal.cycle? .weekOfMonth amount (offset.instantAt reading) = some t') :
    IsYearSized (cal.localTime t').date.year := by
  have hd := hl.day_mem
  -- the day that is moved to is held to those of the month
  obtain ⟨day, hday, hmem⟩ : ∃ day, l.cycleWeekOfMonth cal.weeks amount =
      l.dayNumber + (day - l.date.day) ∧ 1 ≤ day ∧ day ≤ l.monthLength :=
    ⟨_, Int.add_sub_assoc _ _ _, by omega⟩
  simp only [cycle?, localTime_shownAt hzone hl, hday] at h
  obtain rfl := Option.some.inj h
  rw [localTime_moveInMonth hzone hl hmem]
  exact hl.isYearSized

theorem isYearSized_add?_cyclic {unit : TimeUnit} {amount : ℤ} (hunit : unit ∈ TimeUnit.cyclic)
    (hkeeps : unit.keepsYears true = true) (hamount : IsFieldSized amount)
    (h : cal.add? unit amount (offset.instantAt reading) true = some t') :
    IsYearSized (cal.localTime t').date.year := by
  obtain ⟨hnone, hcycled⟩ := cycled_of_add? hzone hl hunit hamount
  cases hcycled t' h with
  | year hera hyear =>
    rw [hyear]
    by_contra hlarge
    rw [hnone.mpr ⟨rfl, hlarge⟩] at h
    cases h
  | quarter hyear | month hyear | day hyear | weekdayOrdinal hyear =>
    rw [hyear]
    exact hl.isYearSized
  | hour hdate | minute hdate | second hdate =>
    rw [hdate]
    exact hl.isYearSized
  | weekday => cases hkeeps

theorem isYearSized_add? {unit : TimeUnit} {amount : ℤ} {wrap : Bool}
    (hkeeps : unit.keepsYears wrap = true)
    (h : cal.add? unit amount (offset.instantAt reading) wrap = some t') :
    IsYearSized (cal.localTime t').date.year := by
  by_cases hzero : amount = 0
  · rw [add?, if_pos hzero] at h
    obtain rfl := Option.some.inj h
    rw [localTime_shownAt hzone hl]
    exact hl.isYearSized
  obtain ⟨hamount, hmove⟩ : IsFieldSized amount ∧ _ := by
    rwa [add?, if_neg hzero, Option.ite_none_right_eq_some] at h
  cases wrap with
  | false => exact isYearSized_carry? hzone hl hkeeps hmove
  | true =>
    cases unit with
    | era =>
      obtain rfl := Option.some.inj hmove
      rw [localTime_shownAt hzone hl]
      exact hl.isYearSized
    | weekOfMonth => exact isYearSized_cycle?_weekOfMonth hzone hl hmove
    | yearForWeekOfYear | weekOfYear | weekday | nanosecond => cases hkeeps
    | _ => exact isYearSized_add?_cyclic hzone hl (by decide) hkeeps hamount h

omit hl in
/-- A date keeps the limit of years if its day is one of its month and its time one of the day. -/
theorem isYearSized_date? {c : DateFields} {resolution : Resolution} {t : Instant} {day : ℤ}
    (hselector : c.daySelector? = some (.monthDay day))
    (hday : 1 ≤ day ∧ day ≤ monthLength (foldMonth c.fullYear (c.month.getD 1)).1
      (foldMonth c.fullYear (c.month.getD 1)).2)
    (hclock : 0 ≤ c.secondOfDay ∧ c.secondOfDay < secondsPerDay) (hnanos : c.nanosecond.getD 0 = 0)
    (h : cal.date? c resolution = some t) : IsYearSized (cal.localTime t).date.year := by
  simp only [date?, Option.ite_none_left_eq_some, Option.bind_eq_bind, Option.bind_eq_some_iff] at h
  obtain ⟨-, selector, hselector', n, hn, ht⟩ := h
  obtain rfl := Option.some.inj (hselector'.symm.trans hselector)
  simp only [DateFields.dayNumberAt?, dayNumber?, Option.ite_none_right_eq_some,
    Option.some_inj] at hn
  obtain ⟨hyear, rfl⟩ := hn
  have hmonth := foldMonth_snd_mem c.fullYear (c.month.getD 1)
  generalize (foldMonth c.fullYear (c.month.getD 1)).1 = year,
    (foldMonth c.fullYear (c.month.getD 1)).2 = month at *
  have hv : (⟨year, month, day⟩ : Date).IsValid := ⟨hmonth, hday⟩
  have hsize := Date.dayNumber_mem hv hyear
  have hexact : offset.IsExact (Date.dayNumber ⟨year, month, day⟩ * secondsPerDay +
      c.secondOfDay) := by
    refine offset.isExact_of_lt ?_
    unfold secondsPerDay at *
    omega
  rw [hnanos, instantOf_fixed hzone hexact] at ht
  obtain rfl := Option.some.inj ht
  rw [localTime_instantAt hzone hexact, LocalTime.ofReading_add hclock,
    Date.ofDayNumber_dayNumber hv]
  exact hyear

end Fixed

variable {cal : Calendar}

/-- **Years leave the limit only by the days that are carried.** A date is pinned in an allowed year
and carries its days and its time from there; a moved instant carries days, weeks and elapsed time.
In a fixed zone the limit is kept if nothing is carried. -/
theorem abs_year_le (hday : cal.zone.source.WithinDay) :
    (∀ c resolution t, cal.date? c resolution = some t →
      ∃ selector, c.daySelector? = some selector ∧
        |(cal.localTime t).date.year| ≤
          largestYear + 1 + (selector.daysCarried + |c.clockSeconds| / 86400 + 60) / 365 ∧
        ∀ offset day, cal.zone = .fixed offset → selector = .monthDay day →
          1 ≤ day ∧ day ≤ monthLength (foldMonth c.fullYear (c.month.getD 1)).1
            (foldMonth c.fullYear (c.month.getD 1)).2 →
          0 ≤ c.secondOfDay ∧ c.secondOfDay < secondsPerDay → c.nanosecond.getD 0 = 0 →
          IsYearSized (cal.localTime t).date.year) ∧
    ∀ n unit amount wrap t, IsYearSized (cal.localTime (.ofSeconds n)).date.year →
      cal.add? unit amount (.ofSeconds n) wrap = some t →
        |(cal.localTime t).date.year| ≤
          largestYear + 1 + ((if wrap then 0 else unit.daysMoved amount) + 60) / 365 ∧
        ∀ offset, cal.zone = .fixed offset → unit.keepsYears wrap = true →
          IsYearSized (cal.localTime t).date.year := by
  constructor
  · intro c resolution t h
    obtain ⟨selector, hselector, hbeyond⟩ := isBeyondYears_date? hday h
    refine ⟨selector, hselector, hbeyond.abs_year_ofDayNumber_le ?_, ?_⟩
    · have hcarried := selector.daysCarried_nonneg
      have hclock := abs_nonneg c.clockSeconds
      omega
    · rintro offset day hzone rfl hmem hclock hnanos
      exact isYearSized_date? hzone hselector hmem hclock hnanos h
  · intro n unit amount wrap t hyear h
    refine ⟨(isBeyondYears_add? hday hyear h).abs_year_ofDayNumber_le ?_, ?_⟩
    · have hmoved := unit.daysMoved_nonneg amount
      split <;> omega
    · intro offset hzone hkeeps
      rw [offset.ofSeconds_eq_instantAt] at h
      exact isYearSized_add? hzone (shownAt_ofSeconds hzone hyear) hkeeps h

/-- The thousandth day of the last December that is allowed is three years beyond the limit, as far
as it can be. -/
theorem abs_year_le_lastDecember :
    ∃ t, standard.date? (.ofDate 100000000 12 1000) {} = some t ∧
      (standard.localTime t).date.year = 100000003 ∧
      |(standard.localTime t).date.year| ≤ 100000003 := by
  have hday : standard.zone.source.WithinDay := Zone.withinDay_fixed _
  have hdate : ∃ t, standard.date? (.ofDate 100000000 12 1000) {} = some t ∧
      (standard.localTime t).date.year = 100000003 := by decide +kernel
  obtain ⟨t, ht, hyear⟩ := hdate
  obtain ⟨selector, hselector, hle, -⟩ := (abs_year_le hday).1 _ _ t ht
  obtain rfl : selector = .monthDay 1000 := Option.some.inj hselector.symm
  exact ⟨t, ht, hyear, hle.trans (by decide)⟩

/-- From 1970, a million million days on are in a year far beyond the limit. -/
theorem add?_beyond_largestYear :
    ∃ t, standard.add? .day 1000000000000 (.ofSeconds 0) false = some t ∧
      (standard.localTime t).date.year = 2737908976 ∧ largestYear < 2737908976 := by
  refine ⟨_, rfl, ?_⟩
  decide +kernel

end Calendar

end Almanac
