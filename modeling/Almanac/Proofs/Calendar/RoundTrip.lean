import Mathlib
import Almanac.Proofs.Calendar.Fields

/-!
# From an instant to its fields and back

A set of units tells the day of an instant in four ways: by its date, by its week in a week year,
by its week in a month, or by counting its weekday in the month. With the time of day, the date of
the fields is the instant again, or another one that its clock shows alike.

* `TimeUnits.TellsDay` and `TimeUnits.TellsClock`: units that tell the day and the time of day.
* `dayNumberAt?_monthDay`, `dayNumberAt?_yearWeek`, `dayNumberAt?_monthWeek` and
  `dayNumberAt?_nthWeekday`: the four ways back to the day.
* `date?_fieldsAt_eq_toUtc`: with the time of day they lead to what the reading is resolved to.
* **`Calendar.date?_fieldsAt`**: the date of the fields of an instant.
-/

namespace Almanac

namespace TimeUnits

/-- Units that tell the day, in the order in which a date looks for them. -/
inductive TellsDay (units : TimeUnits) : Prop where
  /-- By the date. -/
  | monthDay (era : TimeUnit.era ∈ units) (year : TimeUnit.year ∈ units)
      (month : TimeUnit.month ∈ units) (day : TimeUnit.day ∈ units)
  /-- By the week of a week year. -/
  | yearWeek (noDay : TimeUnit.day ∉ units) (weekYear : TimeUnit.yearForWeekOfYear ∈ units)
      (week : TimeUnit.weekOfYear ∈ units) (weekday : TimeUnit.weekday ∈ units)
  /-- By the week of a month. -/
  | monthWeek (noDay : TimeUnit.day ∉ units) (noYearWeek : TimeUnit.weekOfYear ∉ units)
      (era : TimeUnit.era ∈ units) (year : TimeUnit.year ∈ units) (month : TimeUnit.month ∈ units)
      (week : TimeUnit.weekOfMonth ∈ units) (weekday : TimeUnit.weekday ∈ units)
  /-- By counting the weekday in the month. -/
  | nthWeekday (noDay : TimeUnit.day ∉ units) (noYearWeek : TimeUnit.weekOfYear ∉ units)
      (noMonthWeek : TimeUnit.weekOfMonth ∉ units) (era : TimeUnit.era ∈ units)
      (year : TimeUnit.year ∈ units) (month : TimeUnit.month ∈ units)
      (ordinal : TimeUnit.weekdayOrdinal ∈ units) (weekday : TimeUnit.weekday ∈ units)

/-- Units that tell the second of the day. -/
structure TellsClock (units : TimeUnits) : Prop where
  hour : TimeUnit.hour ∈ units
  minute : TimeUnit.minute ∈ units
  second : TimeUnit.second ∈ units

end TimeUnits

/-! ## Back to the day -/

namespace Calendar

variable (cal : Calendar) {units : TimeUnits} {t : Instant} {reading : ℤ}

theorem get_fieldsAt_of_mem (hl : cal.localTime t = .ofReading reading) {u : TimeUnit}
    (hu : u ∈ units) :
    (cal.fieldsAt units t).get u = some ((LocalTime.ofReading reading).value cal.weeks u) := by
  rw [get_fieldsAt, if_pos hu, hl]

theorem get_fieldsAt_of_not_mem {u : TimeUnit} (hu : u ∉ units) :
    (cal.fieldsAt units t).get u = none := by
  rw [get_fieldsAt, if_neg hu]

theorem fullYear_fieldsAt (hl : cal.localTime t = .ofReading reading)
    (hera : TimeUnit.era ∈ units) (hyear : TimeUnit.year ∈ units) :
    (cal.fieldsAt units t).fullYear = (LocalTime.ofReading reading).date.year := by
  have he : (cal.fieldsAt units t).era = _ := cal.get_fieldsAt_of_mem hl hera
  have hy : (cal.fieldsAt units t).year = _ := cal.get_fieldsAt_of_mem hl hyear
  rw [DateFields.fullYear, he, hy]
  exact astronomicalYear_yearOfEra _

theorem month_fieldsAt (hl : cal.localTime t = .ofReading reading)
    (hmonth : TimeUnit.month ∈ units) :
    (cal.fieldsAt units t).month.getD 1 = (LocalTime.ofReading reading).date.month := by
  have hm : (cal.fieldsAt units t).month = _ := cal.get_fieldsAt_of_mem hl hmonth
  rw [hm]
  rfl

theorem weekday_fieldsAt (hl : cal.localTime t = .ofReading reading)
    (hweekday : TimeUnit.weekday ∈ units) : (cal.fieldsAt units t).weekday =
      some (weekdayOf (LocalTime.ofReading reading).dayNumber) :=
  cal.get_fieldsAt_of_mem hl hweekday

section DayNumber

variable (hl : cal.localTime t = .ofReading reading)
  (hyear : -largestYear < (LocalTime.ofReading reading).date.year ∧
    (LocalTime.ofReading reading).date.year < largestYear)
include hl hyear

theorem dayNumber?_fieldsAt (hera : TimeUnit.era ∈ units) (hy : TimeUnit.year ∈ units)
    (hm : TimeUnit.month ∈ units) (day : ℤ) :
    dayNumber? (cal.fieldsAt units t).fullYear ((cal.fieldsAt units t).month.getD 1) day =
      some (Date.dayNumber ⟨(LocalTime.ofReading reading).date.year,
        (LocalTime.ofReading reading).date.month, day⟩) := by
  rw [cal.fullYear_fieldsAt hl hera hy, cal.month_fieldsAt hl hm]
  exact dayNumber?_of_mem day (LocalTime.date_isValid reading).month_mem ⟨hyear.1.le, hyear.2.le⟩

theorem dayNumberAt?_monthDay (hera : TimeUnit.era ∈ units) (hy : TimeUnit.year ∈ units)
    (hm : TimeUnit.month ∈ units) :
    (cal.fieldsAt units t).dayNumberAt? cal.weeks
        (.monthDay (LocalTime.ofReading reading).date.day) =
      some (LocalTime.ofReading reading).dayNumber := by
  rw [DateFields.dayNumberAt?, cal.dayNumber?_fieldsAt hl hyear hera hy hm]
  exact congrArg some (Date.dayNumber_ofDayNumber _)

theorem dayNumberAt?_yearWeek (hy : TimeUnit.yearForWeekOfYear ∈ units)
    (hw : TimeUnit.weekday ∈ units) :
    (cal.fieldsAt units t).dayNumberAt? cal.weeks
        (.yearWeek ((LocalTime.ofReading reading).weekOfYear cal.weeks).1) =
      some (LocalTime.ofReading reading).dayNumber := by
  obtain ⟨weekYear, -, hnear, heq⟩ :=
    cal.weeks.exists_weekYear (LocalTime.ofReading reading).dayNumber
  have heq' : (LocalTime.ofReading reading).weekOfYear cal.weeks = _ := heq
  have hs : (cal.fieldsAt units t).yearForWeekOfYear =
      some ((LocalTime.ofReading reading).weekOfYear cal.weeks).2 := cal.get_fieldsAt_of_mem hl hy
  have hsized : IsYearSized weekYear := by
    change (LocalTime.ofReading reading).date.year - 1 ≤ weekYear ∧
      weekYear ≤ (LocalTime.ofReading reading).date.year + 1 at hnear
    unfold IsYearSized
    omega
  rw [DateFields.dayNumberAt?, hs, heq', Option.getD_some,
    dayNumber?_of_mem 1 (by decide) hsized, Option.map_some, cal.weekday_fieldsAt hl hw,
    cal.weeks.weekYearStart_eq_firstWeek, cal.weeks.dayAt_weekOf]

theorem dayNumberAt?_monthWeek (hera : TimeUnit.era ∈ units) (hy : TimeUnit.year ∈ units)
    (hm : TimeUnit.month ∈ units) (hw : TimeUnit.weekday ∈ units) :
    (cal.fieldsAt units t).dayNumberAt? cal.weeks
        (.monthWeek ((LocalTime.ofReading reading).value cal.weeks .weekOfMonth)) =
      some (LocalTime.ofReading reading).dayNumber := by
  have hn := LocalTime.dayNumber_eq reading
  rw [DateFields.dayNumberAt?, cal.dayNumber?_fieldsAt hl hyear hera hy hm, Option.map_some,
    cal.weekday_fieldsAt hl hw]
  generalize Date.dayNumber _ = start at *
  have hd : (LocalTime.ofReading reading).date.day =
      (LocalTime.ofReading reading).dayNumber - start + 1 := by omega
  have hweek : (LocalTime.ofReading reading).value cal.weeks .weekOfMonth =
      ((LocalTime.ofReading reading).dayNumber - cal.weeks.firstWeek start) / 7 + 1 := by
    rw [← cal.weeks.weekAt_eq_firstWeek, ← hd]
    rfl
  rw [hweek, cal.weeks.dayAt_weekOf]

theorem dayNumberAt?_nthWeekday (hera : TimeUnit.era ∈ units) (hy : TimeUnit.year ∈ units)
    (hm : TimeUnit.month ∈ units) :
    (cal.fieldsAt units t).dayNumberAt? cal.weeks
        (.nthWeekday (((LocalTime.ofReading reading).date.day - 1) / 7 + 1)
          (weekdayOf (LocalTime.ofReading reading).dayNumber)) =
      some (LocalTime.ofReading reading).dayNumber := by
  have hn := LocalTime.dayNumber_eq reading
  have hmonth := (LocalTime.date_isValid reading).month_mem
  have hday := (LocalTime.date_isValid reading).day_mem
  simp only [DateFields.dayNumberAt?]
  rw [cal.fullYear_fieldsAt hl hera hy, cal.month_fieldsAt hl hm,
    foldMonth_of_mem hmonth.1 hmonth.2]
  simp only
  rw [dayNumber?_of_mem 1 hmonth ⟨hyear.1.le, hyear.2.le⟩, Option.map_some]
  generalize Date.dayNumber _ = start at *
  have hd : (LocalTime.ofReading reading).date.day - 1 =
      (LocalTime.ofReading reading).dayNumber - start := by omega
  rw [hd, cal.weeks.nthWeekday_of_le _ (by omega)]

theorem dayNumberAt?_fieldsAt (hday : units.TellsDay) :
    ∃ selector, (cal.fieldsAt units t).daySelector? = some selector ∧
      (cal.fieldsAt units t).dayNumberAt? cal.weeks selector =
        some (LocalTime.ofReading reading).dayNumber := by
  cases hday with
  | monthDay era year month day =>
    refine ⟨_, ?_, cal.dayNumberAt?_monthDay hl hyear era year month⟩
    have hd : (cal.fieldsAt units t).day = _ := cal.get_fieldsAt_of_mem hl day
    rw [DateFields.daySelector?, hd]
    rfl
  | yearWeek noDay weekYear week weekday =>
    refine ⟨_, ?_, cal.dayNumberAt?_yearWeek hl hyear weekYear weekday⟩
    have hd : (cal.fieldsAt units t).day = _ := cal.get_fieldsAt_of_not_mem noDay
    have hk : (cal.fieldsAt units t).weekOfYear = _ := cal.get_fieldsAt_of_mem hl week
    rw [DateFields.daySelector?, hd, cal.weekday_fieldsAt hl weekday, hk]
    rfl
  | monthWeek noDay noYearWeek era year month week weekday =>
    refine ⟨_, ?_, cal.dayNumberAt?_monthWeek hl hyear era year month weekday⟩
    have hd : (cal.fieldsAt units t).day = _ := cal.get_fieldsAt_of_not_mem noDay
    have hk : (cal.fieldsAt units t).weekOfYear = _ := cal.get_fieldsAt_of_not_mem noYearWeek
    have hm : (cal.fieldsAt units t).weekOfMonth = _ := cal.get_fieldsAt_of_mem hl week
    rw [DateFields.daySelector?, hd, cal.weekday_fieldsAt hl weekday, hk, hm]
  | nthWeekday noDay noYearWeek noMonthWeek era year month ordinal weekday =>
    refine ⟨_, ?_, cal.dayNumberAt?_nthWeekday hl hyear era year month⟩
    have hd : (cal.fieldsAt units t).day = _ := cal.get_fieldsAt_of_not_mem noDay
    have hk : (cal.fieldsAt units t).weekOfYear = _ := cal.get_fieldsAt_of_not_mem noYearWeek
    have hm : (cal.fieldsAt units t).weekOfMonth = _ := cal.get_fieldsAt_of_not_mem noMonthWeek
    have ho : (cal.fieldsAt units t).weekdayOrdinal = _ := cal.get_fieldsAt_of_mem hl ordinal
    rw [DateFields.daySelector?, hd, cal.weekday_fieldsAt hl weekday, hk, hm, ho]
    rfl

end DayNumber

/-! ## Back to the instant -/

theorem secondOfDay_fieldsAt (hl : cal.localTime t = .ofReading reading)
    (hclock : units.TellsClock) :
    (cal.fieldsAt units t).secondOfDay = (LocalTime.ofReading reading).secondOfDay := by
  have hh : (cal.fieldsAt units t).hour = _ := cal.get_fieldsAt_of_mem hl hclock.hour
  have hm : (cal.fieldsAt units t).minute = _ := cal.get_fieldsAt_of_mem hl hclock.minute
  have hs : (cal.fieldsAt units t).second = _ := cal.get_fieldsAt_of_mem hl hclock.second
  rw [DateFields.secondOfDay, hh, hm, hs]
  exact LocalTime.clock_eq _

theorem nanosecond_fieldsAt (hl : cal.localTime t = .ofReading reading) :
    (cal.fieldsAt units t).nanosecond.getD 0 = 0 := by
  by_cases hu : TimeUnit.nanosecond ∈ units
  · have hn : (cal.fieldsAt units t).nanosecond = _ := cal.get_fieldsAt_of_mem hl hu
    rw [hn]
    rfl
  · have hn : (cal.fieldsAt units t).nanosecond = _ := cal.get_fieldsAt_of_not_mem hu
    rw [hn]
    rfl

theorem withinLimits_fieldsAt (hl : cal.localTime t = .ofReading reading)
    (hyear : IsYearSized (LocalTime.ofReading reading).date.year) :
    (cal.fieldsAt units t).WithinLimits := by
  intro u _ value hvalue
  rw [get_fieldsAt, hl] at hvalue
  split at hvalue
  · cases hvalue
    exact LocalTime.value_isFieldSized cal.weeks hyear u
  · cases hvalue

variable {s : ℤ}

/-- The date of the fields of a whole second is what the reading of that second is resolved to. -/
theorem date?_fieldsAt_eq_toUtc (hday : cal.zone.source.WithinDay) (hunits : units.TellsDay)
    (hclock : units.TellsClock)
    (hyear : -largestYear < (cal.localTime (.ofSeconds s)).date.year ∧
      (cal.localTime (.ofSeconds s)).date.year < largestYear) (resolution : Resolution) :
    cal.date? (cal.fieldsAt units (.ofSeconds s)) resolution =
      some (.ofSeconds (cal.zone.source.toUtc (cal.zone.source.toLocal s) resolution)) := by
  obtain ⟨hs, hr⟩ := cal.exact_of_year hday ⟨hyear.1.le, hyear.2.le⟩
  have hl := cal.localTime_ofSeconds hs
  rw [hl] at hyear
  have hsized : (cal.fieldsAt units (.ofSeconds s)).WithinLimits :=
    cal.withinLimits_fieldsAt hl ⟨hyear.1.le, hyear.2.le⟩
  have hutc := OffsetSource.toUtc_mem (cal.zone.source.toLocal s) hday resolution
  obtain ⟨selector, hselector, hn⟩ := cal.dayNumberAt?_fieldsAt hl hyear hunits
  rw [cal.date?_of_dayNumber (cal.isLeapMonth_fieldsAt units _) hsized hselector hn resolution,
    cal.secondOfDay_fieldsAt hl hclock, cal.nanosecond_fieldsAt hl, cal.instantOf_reading,
    LocalTime.reading_eq]
  rw [LocalTime.reading_eq]
  unfold secondsPerDay at hutc
  omega

/-- **The date of the fields of an instant is the instant, or one that its clock shows alike.** The
units must tell the day and the time of day, and the offset may change once around the reading. The
offsets of fixed zones and of zones that texts name are less than a day (`Zone.withinDay_fixed`,
`Zone.withinDay_of_known`). -/
theorem date?_fieldsAt (hday : cal.zone.source.WithinDay) (hunits : units.TellsDay)
    (hclock : units.TellsClock)
    (hyear : -largestYear < (cal.localTime (.ofSeconds s)).date.year ∧
      (cal.localTime (.ofSeconds s)).date.year < largestYear) :
    (cal.zone.source.ChangesAtMostOnce (cal.zone.source.toLocal s) → ∀ resolution,
      ∃ u, cal.date? (cal.fieldsAt units (.ofSeconds s)) resolution = some (.ofSeconds u) ∧
        (resolution.repeated = .former →
          IsLeast (cal.zone.source.secondsOf (cal.zone.source.toLocal s)) u) ∧
        (resolution.repeated = .latter →
          IsGreatest (cal.zone.source.secondsOf (cal.zone.source.toLocal s)) u) ∧
        (cal.zone.source.secondsOf (cal.zone.source.toLocal s) = {s} → u = s)) ∧
    ∀ offset, cal.zone = .fixed offset → ∀ resolution,
      cal.date? (cal.fieldsAt units (.ofSeconds s)) resolution = some (.ofSeconds s) := by
  have hdate := cal.date?_fieldsAt_eq_toUtc hday hunits hclock hyear
  constructor
  · intro hchange resolution
    obtain ⟨-, hr⟩ := cal.exact_of_year hday ⟨hyear.1.le, hyear.2.le⟩
    have hnames : cal.zone.source.NamesChange (cal.zone.source.toLocal s) :=
      cal.zone.namesChange (by unfold secondsPerDay; omega) (by unfold secondsPerDay; omega)
    obtain ⟨hleast, hgreatest⟩ := OffsetSource.toUtc_isLeast_or_isGreatest hday hchange hnames
      ⟨s, rfl⟩ resolution
    refine ⟨_, hdate resolution, hleast, hgreatest, fun hs => ?_⟩
    rw [← Set.mem_singleton_iff, ← hs]
    cases hrepeated : resolution.repeated with
    | former => exact (hleast hrepeated).1
    | latter => exact (hgreatest hrepeated).1
  · intro offset hzone resolution
    have hsource : cal.zone.source = .constant offset.seconds := by
      rw [hzone]
      rfl
    rw [hdate, hsource, OffsetSource.toUtc,
      OffsetSource.resolve_of_constant OffsetSource.constantAround_constant, OffsetSource.toLocal,
      OffsetSource.totalAt_constant, Int.add_sub_cancel]

/-- By its week and weekday, 02:30 in Berlin on the day that the clock is set back is dated to its
first or its last occurrence. -/
theorem date?_fieldsAt_berlin :
    let cal : Calendar := ⟨⟨2, 4, by decide, by decide⟩, .region "Europe/Berlin" Region.berlin⟩
    let units : TimeUnits := .ofList
      [.yearForWeekOfYear, .weekOfYear, .weekday, .hour, .minute, .second]
    cal.date? (cal.fieldsAt units (.ofSeconds 1603589400)) ⟨.former, .former⟩ =
        some (.ofSeconds 1603585800) ∧
      cal.date? (cal.fieldsAt units (.ofSeconds 1603589400)) ⟨.latter, .latter⟩ =
        some (.ofSeconds 1603589400) := by
  intro cal units
  have hday : cal.zone.source.WithinDay :=
    OffsetTable.withinDay_source (by decide +kernel : Region.berlin.WithinDay)
  have hlocal : cal.zone.source.toLocal 1603589400 = 1603593000 := by
    rw [OffsetSource.toLocal]
    change 1603589400 + Region.berlin.source.totalAt _ = _
    rw [OffsetTable.totalAt_source Region.berlin (by decide)]
    decide +kernel
  have hchange : cal.zone.source.ChangesOnceAround 1603593000 1603587600 7200 3600 :=
    OffsetTable.changesOnceAround_source (by decide) (by decide +kernel) (by decide +kernel)
      (by decide +kernel) (by decide) (by decide) (by decide)
  have hyear : -largestYear < (cal.localTime (.ofSeconds 1603589400)).date.year ∧
      (cal.localTime (.ofSeconds 1603589400)).date.year < largestYear := by
    rw [cal.localTime_ofSeconds (by decide), hlocal]
    decide
  have hunits : units.TellsDay := .yearWeek (by decide) (by decide) (by decide) (by decide)
  have hround := (cal.date?_fieldsAt hday hunits ⟨by decide, by decide, by decide⟩ hyear).1
  rw [hlocal] at hround
  have hseconds : ∀ u, u ∈ cal.zone.source.secondsOf 1603593000 ↔
      u = 1603585800 ∨ u = 1603589400 := by
    intro u
    rw [hchange.mem_secondsOf_iff hday]
    omega
  constructor
  · obtain ⟨u, hu, hleast, -⟩ := hround (Or.inr ⟨_, _, _, hchange⟩) ⟨.former, .former⟩
    have hmem := (hseconds u).mp (hleast rfl).1
    have hle := (hleast rfl).2 ((hseconds 1603585800).mpr (Or.inl rfl))
    obtain rfl : u = 1603585800 := by omega
    exact hu
  · obtain ⟨u, hu, -, hgreatest, -⟩ := hround (Or.inr ⟨_, _, _, hchange⟩) ⟨.latter, .latter⟩
    have hmem := (hseconds u).mp (hgreatest rfl).1
    have hle := (hgreatest rfl).2 ((hseconds 1603589400).mpr (Or.inr rfl))
    obtain rfl : u = 1603589400 := by omega
    exact hu

end Calendar

end Almanac
