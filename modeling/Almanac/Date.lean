/-!
# Dates of the proleptic Gregorian calendar

Years are astronomical: year `0` is the one before year `1`. Days are numbered without gaps in
both directions; day `0` is 1970-01-01.

* `isLeapYear`, `yearLength`, `monthLength`.
* `Date.dayNumber` and `Date.ofDayNumber`: a date's day number and back, through cycles of 400
  years that begin in March.
* `weekdayOf`: `1` for Sunday to `7` for Saturday.
* `foldMonth`: brings a month number into `1` to `12`, moving the year.
* `yearOfEra` and `astronomicalYear`: years counted in two eras, and back.
-/

namespace Almanac

/-! ## Lengths -/

/-- Every fourth year is a leap year, of the centuries only every fourth. -/
def isLeapYear (year : Int) : Bool :=
  year % 4 = 0 ∧ (year % 100 ≠ 0 ∨ year % 400 = 0)

/-- The number of days of `year`. -/
def yearLength (year : Int) : Int := if isLeapYear year then 366 else 365

/-- The number of days of `month`. Odd months are the long ones up to July, even ones after it. -/
def monthLength (year month : Int) : Int :=
  if month = 2 then (if isLeapYear year then 29 else 28)
  else 30 + (month + month / 8) % 2

/-! ## Day numbers -/

/-- The days of a 400-year cycle. -/
def cycleLength : Int := 146097

/-- The days from the first of March of year `0` to day `0`. -/
def epochShift : Int := 719468

/-- The day number of the first day of year `1`. -/
def eraStart : Int := -719162

/-- A year, a month and a day. -/
structure Date where
  year : Int
  month : Int
  day : Int
deriving DecidableEq

namespace Date

/-- The number of a date's day. The month is meant to lie in `1` to `12`; the day may be any
integer and carries. -/
def dayNumber (date : Date) : Int :=
  let year := if date.month ≤ 2 then date.year - 1 else date.year
  let yearOfCycle := year % 400
  let dayOfYear := (153 * (date.month + 9).tmod 12 + 2).tdiv 5 + date.day - 1
  year / 400 * cycleLength +
    (yearOfCycle * 365 + yearOfCycle / 4 - yearOfCycle / 100 + dayOfYear) - epochShift

/-- The date of a day number. -/
def ofDayNumber (number : Int) : Date :=
  let shifted := number + epochShift
  let cycle := shifted / cycleLength
  let dayOfCycle := shifted % cycleLength
  let yearOfCycle :=
    (dayOfCycle - dayOfCycle / 1460 + dayOfCycle / 36524 - dayOfCycle / 146096) / 365
  let dayOfYear := dayOfCycle - (365 * yearOfCycle + yearOfCycle / 4 - yearOfCycle / 100)
  let monthFromMarch := (5 * dayOfYear + 2) / 153
  let month := if monthFromMarch < 10 then monthFromMarch + 3 else monthFromMarch - 9
  { year := yearOfCycle + cycle * 400 + (if month ≤ 2 then 1 else 0)
    month
    day := dayOfYear - (153 * monthFromMarch + 2) / 5 + 1 }

/-- The position of a date's day in its year, from `1`. -/
def dayOfYear (date : Date) : Int :=
  date.dayNumber - dayNumber ⟨date.year, 1, 1⟩ + 1

end Date

/-- The weekday of a day number, `1` for Sunday to `7` for Saturday. Day `0` is a Thursday. -/
def weekdayOf (number : Int) : Int := (number + 4) % 7 + 1

theorem weekdayOf_mem (number : Int) : 1 ≤ weekdayOf number ∧ weekdayOf number ≤ 7 := by
  unfold weekdayOf
  omega

/-! ## Months and eras -/

/-- The year and month, inside `1` to `12`, of a month counted on from `year`. -/
def foldMonth (year month : Int) : Int × Int :=
  (year + (month - 1) / 12, (month - 1) % 12 + 1)

/-- A folded month lies in its year. -/
theorem foldMonth_snd_mem (year month : Int) :
    1 ≤ (foldMonth year month).2 ∧ (foldMonth year month).2 ≤ 12 := by
  simp only [foldMonth]
  omega

/-- A folded month stands for the same count of months. -/
theorem foldMonth_count (year month : Int) :
    12 * (foldMonth year month).1 + (foldMonth year month).2 = 12 * year + month := by
  simp only [foldMonth]
  omega

/-- A month that lies in its year stays. -/
theorem foldMonth_of_mem {year month : Int} (h₁ : 1 ≤ month) (h₂ : month ≤ 12) :
    foldMonth year month = (year, month) := by
  simp only [foldMonth, Prod.mk.injEq]
  omega

/-- The quarter of a month, from `1`. -/
def quarterOf (month : Int) : Int := (month - 1) / 3 + 1

/-- The first month of the quarter of a month. -/
def quarterStart (month : Int) : Int := (month - 1) / 3 * 3 + 1

/-- The era and the year inside it: years from `1` on are in era `1`, the others are counted
backwards in era `0`. -/
def yearOfEra (year : Int) : Int × Int :=
  if 1 ≤ year then (1, year) else (0, 1 - year)

/-- The astronomical year of a year inside an era. Every positive era counts as era `1`, every
other as era `0`. -/
def astronomicalYear (era year : Int) : Int :=
  if era ≤ 0 then 1 - year else year

theorem astronomicalYear_yearOfEra (year : Int) :
    astronomicalYear (yearOfEra year).1 (yearOfEra year).2 = year := by
  by_cases h : 1 ≤ year
  · rw [yearOfEra, if_pos h]
    rfl
  · rw [yearOfEra, if_neg h]
    change 1 - (1 - year) = year
    omega

end Almanac
