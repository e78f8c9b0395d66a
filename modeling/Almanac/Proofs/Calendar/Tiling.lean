import Mathlib
import Almanac.Proofs.Calendar.Start
import Almanac.Proofs.Week.Year
import Almanac.Calendar.Add

/-!
# Units tile the time line

The instances of a unit follow each other without gap or overlap. Where they begin is a strictly
increasing sequence of readings, and in a fixed zone both the start of a unit and a step to the next
one are taken from that sequence.

* `Tiling`: readings at which tiles begin, one after the other; `Tiling.Covers`: the tile of a
  reading.
* `TimeUnit.tiling?`: the tiling of a unit. Eras, counted weekdays and nanoseconds have none.
* `LocalTime.beginning?_of_covers`: units begin where their tile does.
* `Calendar.carry?_start`: one unit more leads from the beginning of a tile to that of the next.
* **`Calendar.startOf?_tiles`**: starts and steps of a unit agree everywhere.
-/

namespace Almanac

/-! ## Tilings -/

/-- Readings at which tiles begin, one after the other. No tile is longer than 372 days. -/
structure Tiling where
  start : ℤ → ℤ
  lt_succ : ∀ k, start k < start (k + 1)
  succ_le : ∀ k, start (k + 1) ≤ start k + 372 * secondsPerDay

namespace Tiling

variable (T : Tiling) {k j reading : ℤ}

/-- Tile `k` has begun at a reading and has not ended. -/
def Covers (k reading : ℤ) : Prop := T.start k ≤ reading ∧ reading < T.start (k + 1)

theorem strictMono : StrictMono T.start := strictMono_int_of_lt_succ T.lt_succ

theorem covers_start (k : ℤ) : T.Covers k (T.start k) := ⟨le_rfl, T.lt_succ k⟩

theorem covers_mono {later : ℤ} (hk : T.Covers k reading) (hj : T.Covers j later)
    (h : reading ≤ later) : k ≤ j := by
  have hlt := T.strictMono.lt_iff_lt.mp ((hk.1.trans h).trans_lt hj.2)
  omega

theorem exists_covers (reading : ℤ) : ∃ k, T.Covers k reading := by
  -- second by second in both directions, from the beginning of tile `0`
  induction reading using Int.inductionOn' (b := T.start 0) with
  | zero => exact ⟨0, T.covers_start 0⟩
  | succ reading _ ih =>
    obtain ⟨k, h₁, h₂⟩ := ih
    by_cases h : reading + 1 < T.start (k + 1)
    · exact ⟨k, by omega, h⟩
    · have hs := T.lt_succ (k + 1)
      exact ⟨k + 1, by omega, by omega⟩
  | pred reading _ ih =>
    obtain ⟨k, h₁, h₂⟩ := ih
    by_cases h : T.start k ≤ reading - 1
    · exact ⟨k, h, by omega⟩
    · have hs := T.lt_succ (k - 1)
      rw [Int.sub_add_cancel] at hs
      refine ⟨k - 1, by omega, ?_⟩
      rw [Int.sub_add_cancel]
      omega

/-- Tiles of whole days, from the numbers of their first days. -/
def days (first : ℤ → ℤ) (h : ∀ k, first k < first (k + 1) ∧ first (k + 1) ≤ first k + 372) :
    Tiling where
  start k := first k * secondsPerDay
  lt_succ k := by
    have hk := h k
    unfold secondsPerDay
    omega
  succ_le k := by
    have hk := h k
    unfold secondsPerDay
    omega

theorem start_days {first : ℤ → ℤ}
    (h : ∀ k, first k < first (k + 1) ∧ first (k + 1) ≤ first k + 372) :
    (days first h).start k = first k * secondsPerDay := rfl

theorem covers_days {first : ℤ → ℤ}
    (h : ∀ k, first k < first (k + 1) ∧ first (k + 1) ≤ first k + 372) :
    (days first h).Covers k reading ↔
      first k ≤ reading / secondsPerDay ∧ reading / secondsPerDay < first (k + 1) := by
  simp only [Covers, days]
  unfold secondsPerDay
  omega

/-- Tiles of `count` months, at most a year. -/
def months (count : ℤ) (h : 1 ≤ count ∧ count ≤ 12) : Tiling :=
  days (fun k => monthStart (count * k)) fun k => by
    have hnext : count * (k + 1) = count * k + count := by ring
    have hle := monthStart_add_le (count * k) (show 0 ≤ count by omega)
    rw [hnext]
    exact ⟨monthStart_strictMono (by omega), by omega⟩

theorem covers_months {count : ℤ} (h : 1 ≤ count ∧ count ≤ 12) :
    (months count h).Covers k reading ↔
      count * k ≤ (LocalTime.ofReading reading).date.monthIndex ∧
        (LocalTime.ofReading reading).date.monthIndex < count * (k + 1) := by
  obtain ⟨h₁, h₂⟩ := Date.monthIndex_ofDayNumber.mp
    (rfl : (LocalTime.ofReading reading).date.monthIndex = _)
  generalize (LocalTime.ofReading reading).date.monthIndex = index at *
  rw [months, covers_days]
  constructor
  · rintro ⟨h₃, h₄⟩
    have hlt := monthStart_strictMono.lt_iff_lt.mp (h₃.trans_lt h₂)
    exact ⟨by omega, monthStart_strictMono.lt_iff_lt.mp (h₁.trans_lt h₄)⟩
  · rintro ⟨h₃, h₄⟩
    exact ⟨(monthStart_mono h₃).trans h₁, h₂.trans_le (monthStart_mono (by omega))⟩

theorem start_months {count year month : ℤ} {h : 1 ≤ count ∧ count ≤ 12}
    (hmonth : 1 ≤ month ∧ month ≤ 12) (hindex : 12 * year + month - 1 = count * k) :
    (months count h).start k = Date.dayNumber ⟨year, month, 1⟩ * secondsPerDay := by
  rw [dayNumber_eq_first hmonth hindex]
  rfl

/-- Tiles of `length` seconds, at most a day. -/
def every (length : ℤ) (h : 0 < length ∧ length ≤ secondsPerDay) : Tiling where
  start k := k * length
  lt_succ k := by
    rw [add_mul, one_mul]
    omega
  succ_le k := by
    rw [add_mul, one_mul]
    unfold secondsPerDay at *
    omega

theorem start_every {length : ℤ} (h : 0 < length ∧ length ≤ secondsPerDay) :
    (every length h).start k = k * length := rfl

theorem covers_every {length : ℤ} (h : 0 < length ∧ length ≤ secondsPerDay) :
    (every length h).Covers k reading ↔ reading / length = k := by
  simp only [Covers, every]
  rw [← Int.le_ediv_iff_mul_le h.1, ← Int.ediv_lt_iff_lt_mul h.1]
  omega

theorem isExact_start (offset : FixedOffset) (hk : T.Covers k reading)
    (hr : reading.natAbs < 4000000000000000) :
    offset.IsExact (T.start k) ∧ offset.IsExact (T.start (k + 1)) := by
  have hs := T.succ_le k
  obtain ⟨h₁, h₂⟩ := hk
  unfold secondsPerDay at hs
  constructor <;> exact offset.isExact_of_lt (by omega)

end Tiling

/-- The tiling of a unit. Eras have one beginning at most, starts of counted weekdays are days but
their steps are weeks, and nanoseconds are finer than readings. -/
def TimeUnit.tiling? (weeks : WeekNumbering) : TimeUnit → Option Tiling
  | .year => some (.months 12 (by decide))
  | .yearForWeekOfYear => some (.days weeks.weekYearStart fun k => by
      have hs := weeks.weekYearStart_succ k
      omega)
  | .quarter => some (.months 3 (by decide))
  | .month => some (.months 1 (by decide))
  | .weekOfMonth | .weekOfYear => some (.days (fun k => weeks.startOfWeek (7 * k)) fun k => by
      simp only [WeekNumbering.startOfWeek_eq]
      omega)
  | .day | .weekday => some (.days id fun k => by
      simp only [id]
      omega)
  | .hour => some (.every 3600 (by decide))
  | .minute => some (.every 60 (by decide))
  | .second => some (.every 1 (by decide))
  | .era | .weekdayOrdinal | .nanosecond => none

/-! ## Starts -/

section Starts

variable {weeks : WeekNumbering} {unit : TimeUnit} {T : Tiling} {k reading : ℤ}

theorem LocalTime.firstDay?_of_covers (hclock : unit.isClockUnit = false)
    (hT : unit.tiling? weeks = some T) (hk : T.Covers k reading) :
    ∃ day, (ofReading reading).firstDay? weeks unit = some day ∧
      T.start k = day * secondsPerDay := by
  have hv := date_isValid reading
  have hm := hv.month_mem
  cases unit with
  | year =>
    obtain rfl := Option.some.inj hT
    rw [Tiling.covers_months] at hk
    unfold Date.monthIndex at hk
    refine ⟨_, rfl, Tiling.start_months (by decide) ?_⟩
    omega
  | quarter =>
    obtain rfl := Option.some.inj hT
    rw [Tiling.covers_months] at hk
    unfold Date.monthIndex at hk
    refine ⟨_, rfl, Tiling.start_months ?_ ?_⟩ <;> unfold quarterStart <;> omega
  | month =>
    obtain rfl := Option.some.inj hT
    rw [Tiling.covers_months] at hk
    unfold Date.monthIndex at hk
    have hfirst := Tiling.start_months (h := by decide) hm
      (show 12 * (ofReading reading).date.year + _ - 1 = 1 * k by omega)
    refine ⟨_, rfl, ?_⟩
    rw [hfirst, dayNumber_eq reading]
    congr 1
    omega
  | yearForWeekOfYear =>
    obtain rfl := Option.some.inj hT
    rw [Tiling.covers_days] at hk
    obtain ⟨weekYear, hmem, -, heq⟩ := weeks.exists_weekYear (ofReading reading).dayNumber
    have heq' : ((ofReading reading).weekOfYear weeks).2 = k := by
      rw [weeks.weekYear_unique hmem hk]
      exact congrArg Prod.snd heq
    refine ⟨_, rfl, ?_⟩
    rw [heq', WeekNumbering.dayAt_firstWeek, Tiling.start_days]
  | weekOfMonth | weekOfYear =>
    obtain rfl := Option.some.inj hT
    rw [Tiling.covers_days] at hk
    refine ⟨_, rfl, ?_⟩
    change weeks.startOfWeek (7 * k) * secondsPerDay =
      weeks.startOfWeek (reading / secondsPerDay) * secondsPerDay
    simp only [WeekNumbering.startOfWeek_eq] at hk ⊢
    congr 1
    omega
  | day | weekday =>
    obtain rfl := Option.some.inj hT
    rw [Tiling.covers_days] at hk
    refine ⟨_, rfl, ?_⟩
    change k * secondsPerDay = reading / secondsPerDay * secondsPerDay
    simp only [id] at hk
    congr 1
    omega
  | era | weekdayOrdinal => cases hT
  | hour | minute | second | nanosecond => cases hclock

/-- **A unit begins where its tile does.** -/
theorem LocalTime.beginning?_of_covers (hT : unit.tiling? weeks = some T)
    (hk : T.Covers k reading) : beginning? weeks reading unit = some (T.start k) := by
  by_cases hclock : unit.isClockUnit = false
  · obtain ⟨day, hday, hstart⟩ := firstDay?_of_covers hclock hT hk
    rw [beginning?_of_not_clock hclock, hday, Option.map_some, hstart]
  · cases unit with
    | hour | minute =>
      obtain rfl := Option.some.inj hT
      rw [beginning?, (Tiling.covers_every _).mp hk]
      rfl
    | second =>
      obtain rfl := Option.some.inj hT
      rw [Tiling.covers_every, Int.ediv_one] at hk
      rw [beginning?, hk, Tiling.start_every, mul_one]
    | nanosecond => cases hT
    | _ => exact absurd rfl hclock

theorem Calendar.startOf?_of_covers {cal : Calendar} {offset : FixedOffset}
    (hzone : cal.zone = .fixed offset) (hT : unit.tiling? cal.weeks = some T)
    (hk : T.Covers k reading) (hr : offset.IsExact reading) (hs : offset.IsExact (T.start k)) :
    cal.startOf? unit (offset.instantAt reading) = some (offset.instantAt (T.start k)) :=
  startOf?_of_beginning? hzone hr (LocalTime.beginning?_of_covers hT hk) hs

end Starts

/-! ## Steps -/

namespace Calendar

variable {cal : Calendar} {offset : FixedOffset} {unit : TimeUnit} {T : Tiling} {k reading : ℤ}
  (hyear : -largestYear + 1 < (LocalTime.ofReading reading).date.year ∧
    (LocalTime.ofReading reading).date.year < largestYear - 1)
include hyear

theorem isYearSized_start_months {count : ℤ} {h : 1 ≤ count ∧ count ≤ 12}
    (hk : (Tiling.months count h).Covers k reading) : IsYearSized (count * (k + 1) / 12) := by
  have hm := (LocalTime.date_isValid reading).month_mem
  rw [Tiling.covers_months, mul_add, mul_one] at hk
  rw [mul_add, mul_one]
  unfold Date.monthIndex at hk
  unfold IsYearSized largestYear at *
  omega

variable (hzone : cal.zone = .fixed offset)
include hzone

theorem moveToDay_start_days {first : ℤ → ℤ} {next : ℤ}
    {h : ∀ k, first k < first (k + 1) ∧ first (k + 1) ≤ first k + 372}
    (hk : (Tiling.days first h).Covers k reading) (hnext : next = first (k + 1)) :
    cal.moveToDay (.ofReading ((Tiling.days first h).start k)) next =
      offset.instantAt ((Tiling.days first h).start (k + 1)) := by
  have he := (Tiling.isExact_start _ offset hk (reading_mem ⟨by omega, by omega⟩)).2
  have hzero : first k * secondsPerDay % secondsPerDay = 0 := Int.mul_emod_left _ _
  rw [hnext, Tiling.start_days, moveToDay_fixed hzone, hzero, add_zero]
  · rfl
  · rwa [hzero, add_zero]

theorem moveToMonth?_start_months {count year month : ℤ} {h : 1 ≤ count ∧ count ≤ 12}
    (hk : (Tiling.months count h).Covers k reading)
    (hmove : 12 * year + month - 1 =
      (Date.ofDayNumber (monthStart (count * k))).monthIndex + count) :
    cal.moveToMonth? (.ofReading ((Tiling.months count h).start k)) year month =
      some (offset.instantAt ((Tiling.months count h).start (k + 1))) := by
  have hl := monthLength_mem (count * k / 12) (count * k % 12 + 1)
  have hl' := monthLength_mem (count * (k + 1) / 12) (count * (k + 1) % 12 + 1)
  have hnow := Date.monthIndex_ofDayNumber.mpr
    ⟨le_refl (monthStart (count * k)), monthStart_strictMono (by omega)⟩
  have hindex : 12 * year + month - 1 = count * (k + 1) := by
    rw [hmove, hnow]
    ring
  have hday : (LocalTime.ofReading ((Tiling.months count h).start k)).date.day = 1 := by
    have hdate := Date.ofDayNumber_monthStart_add (show 1 ≤ (1 : ℤ) ∧
      1 ≤ monthLength (count * k / 12) (count * k % 12 + 1) by omega)
    rw [sub_self, add_zero] at hdate
    rw [Tiling.months, Tiling.start_days, LocalTime.ofReading_mul, hdate]
  have hnext := moveToDay_start_days hyear hzone
    (show (Tiling.days (fun k => monthStart (count * k)) _).Covers k reading from hk) rfl
  rw [cal.moveToMonth?_eq _ hindex, if_pos (isYearSized_start_months hyear hk), hday,
    min_eq_left (by omega), sub_self, add_zero]
  exact congrArg some hnext

theorem carry?_start_weekYear {h : ∀ k, cal.weeks.weekYearStart k < cal.weeks.weekYearStart (k + 1) ∧
      cal.weeks.weekYearStart (k + 1) ≤ cal.weeks.weekYearStart k + 372}
    (hk : (Tiling.days cal.weeks.weekYearStart h).Covers k reading) :
    cal.carry? .yearForWeekOfYear 1
        (offset.instantAt ((Tiling.days cal.weeks.weekYearStart h).start k)) =
      some (offset.instantAt ((Tiling.days cal.weeks.weekYearStart h).start (k + 1))) := by
  obtain ⟨hs, -⟩ := Tiling.isExact_start _ offset hk
    (reading_mem ⟨by omega, by omega⟩)
  have hsized : IsYearSized (k + 1) := by
    obtain ⟨weekYear, hmem, hnear, -⟩ :=
      cal.weeks.exists_weekYear (LocalTime.ofReading reading).dayNumber
    rw [cal.weeks.weekYear_unique hmem ((Tiling.covers_days h).mp hk)]
    change (LocalTime.ofReading reading).date.year - 1 ≤ weekYear ∧
      weekYear ≤ (LocalTime.ofReading reading).date.year + 1 at hnear
    unfold IsYearSized
    omega
  have hweek : (LocalTime.ofReading ((Tiling.days cal.weeks.weekYearStart h).start k)).weekOfYear
      cal.weeks = (1, k) := by
    obtain ⟨weekYear, hmem, -, heq⟩ := cal.weeks.exists_weekYear (cal.weeks.weekYearStart k)
    obtain rfl := cal.weeks.weekYear_unique hmem ⟨le_rfl, (h k).1⟩
    rw [Tiling.start_days, LocalTime.ofReading_mul]
    rw [sub_self] at heq
    exact heq
  have hplace : cal.weeks.placeOf
      (LocalTime.ofReading ((Tiling.days cal.weeks.weekYearStart h).start k)).weekday = 0 := by
    rw [Tiling.start_days, LocalTime.ofReading_mul, LocalTime.weekday, WeekNumbering.weekYearStart,
      WeekNumbering.weekdayOf_startOfWeek, WeekNumbering.placeOf, sub_self, Int.zero_emod]
  rw [← localTime_instantAt hzone hs] at hweek hplace
  rw [carry?_yearForWeekOfYear hweek, if_pos hsized, hplace, localTime_instantAt hzone hs,
    moveToDay_start_days hyear hzone hk (by ring)]

/-- **One unit more leads from the beginning of a tile to that of the next.** -/
theorem carry?_start (hT : unit.tiling? cal.weeks = some T) (hk : T.Covers k reading) :
    cal.carry? unit 1 (offset.instantAt (T.start k)) = some (offset.instantAt (T.start (k + 1))) := by
  obtain ⟨hs, he⟩ := T.isExact_start offset hk (reading_mem ⟨by omega, by omega⟩)
  have hl := localTime_instantAt hzone hs
  cases unit with
  | year =>
    obtain rfl := Option.some.inj hT
    simp only [carry?, hl]
    refine moveToMonth?_start_months hyear hzone hk ?_
    simp only [Tiling.months, Tiling.start_days, LocalTime.ofReading_mul, Date.monthIndex]
    ring
  | quarter =>
    obtain rfl := Option.some.inj hT
    simp only [carry?, hl]
    refine moveToMonth?_start_months hyear hzone hk ?_
    simp only [Tiling.months, Tiling.start_days, LocalTime.ofReading_mul, Date.monthIndex]
    ring
  | month =>
    obtain rfl := Option.some.inj hT
    simp only [carry?, hl]
    refine moveToMonth?_start_months hyear hzone hk ?_
    simp only [Tiling.months, Tiling.start_days, LocalTime.ofReading_mul, Date.monthIndex]
    ring
  | yearForWeekOfYear =>
    obtain rfl := Option.some.inj hT
    exact carry?_start_weekYear hyear hzone hk
  | weekOfMonth | weekOfYear =>
    obtain rfl := Option.some.inj hT
    simp only [carry?, hl]
    rw [moveToDay_start_days hyear hzone hk]
    simp only [Tiling.start_days, LocalTime.ofReading_mul, WeekNumbering.startOfWeek_eq]
    omega
  | day | weekday =>
    obtain rfl := Option.some.inj hT
    simp only [carry?, hl]
    rw [moveToDay_start_days hyear hzone hk]
    simp only [Tiling.start_days, LocalTime.ofReading_mul, id]
  | hour | minute | second =>
    obtain rfl := Option.some.inj hT
    simp only [carry?]
    rw [Tiling.start_every, add_mul] at he
    rw [Tiling.start_every, Tiling.start_every, add_mul]
    exact congrArg some (offset.instantAt_add hs (by decide) he)
  | era | weekdayOrdinal | nanosecond => cases hT

end Calendar

theorem TimeUnit.exists_tiling (weeks : WeekNumbering) {unit : TimeUnit}
    (h : unit ∈ [.year, .yearForWeekOfYear, .quarter, .month, .weekOfYear, .weekOfMonth, .day,
      .weekday, .hour, .minute, .second]) : ∃ T, unit.tiling? weeks = some T := by
  cases unit with
  | era | weekdayOrdinal | nanosecond => exact absurd h (by decide)
  | _ => exact ⟨_, rfl⟩

namespace Calendar

/-- **Units tile the time line of a fixed zone.** The start of a unit and the instant one unit later
enclose exactly the seconds that have this start, the later one starts the next unit, and starts
follow the order of the seconds. -/
theorem startOf?_tiles {cal : Calendar} {offset : FixedOffset} (hzone : cal.zone = .fixed offset)
    {unit : TimeUnit} (hunit : unit ∈ [.year, .yearForWeekOfYear, .quarter, .month, .weekOfYear,
      .weekOfMonth, .day, .weekday, .hour, .minute, .second]) {n : ℤ}
    (hyear : -largestYear + 1 < (cal.localTime (.ofSeconds n)).date.year ∧
      (cal.localTime (.ofSeconds n)).date.year < largestYear - 1) :
    ∃ s e : ℤ, cal.startOf? unit (.ofSeconds n) = some (.ofSeconds s) ∧
      cal.add? unit 1 (.ofSeconds s) false = some (.ofSeconds e) ∧ (s ≤ n ∧ n < e) ∧
      (∀ t, s ≤ t → t < e → cal.startOf? unit (.ofSeconds t) = some (.ofSeconds s)) ∧
      cal.startOf? unit (.ofSeconds e) = some (.ofSeconds e) ∧
      ∀ m, n ≤ m → -largestYear + 1 < (cal.localTime (.ofSeconds m)).date.year →
        (cal.localTime (.ofSeconds m)).date.year < largestYear - 1 →
        ∃ s', cal.startOf? unit (.ofSeconds m) = some (.ofSeconds s') ∧ s ≤ s' := by
  obtain ⟨T, hT⟩ := TimeUnit.exists_tiling cal.weeks hunit
  have hr := reading_fixed hzone (n := n) ⟨by omega, by omega⟩
  obtain ⟨k, hk⟩ := T.exists_covers (n + offset.seconds)
  obtain ⟨hs, he⟩ := T.isExact_start offset hk hr
  -- seconds in a tile have the beginning of that tile as their start
  have hstart : ∀ {t j}, T.Covers j (t + offset.seconds) →
      (t + offset.seconds).natAbs < 5000000000000000 → offset.IsExact (T.start j) →
      cal.startOf? unit (.ofSeconds t) = some (.ofSeconds (T.start j - offset.seconds)) := by
    intro t j hj ht hexact
    rw [offset.ofSeconds_eq_instantAt t]
    exact startOf?_of_covers hzone hT hj (offset.isExact_of_lt (by omega)) hexact
  have hl : cal.localTime (.ofSeconds n) = .ofReading (n + offset.seconds) := by
    rw [offset.ofSeconds_eq_instantAt n]
    exact localTime_instantAt hzone (offset.isExact_of_lt (by omega))
  rw [hl] at hyear
  have hlong := T.succ_le k
  unfold secondsPerDay at hlong
  have hmem := hk
  unfold Tiling.Covers at hmem
  refine ⟨T.start k - offset.seconds, T.start (k + 1) - offset.seconds, hstart hk (by omega) hs, ?_,
    by omega, ?_, ?_, ?_⟩
  · exact carry?_start hyear hzone hT hk
  · intro t h₁ h₂
    exact hstart ⟨by omega, by omega⟩ (by omega) hs
  · refine hstart ?_ (by omega) he
    rw [Int.sub_add_cancel]
    exact T.covers_start (k + 1)
  · intro m hle h₁ h₂
    have hm := reading_fixed hzone (n := m) ⟨by omega, by omega⟩
    obtain ⟨j, hj⟩ := T.exists_covers (m + offset.seconds)
    obtain ⟨hsj, -⟩ := T.isExact_start offset hj hm
    have hkj := T.strictMono.monotone (T.covers_mono hk hj (by omega))
    exact ⟨_, hstart hj (by omega) hsj, by omega⟩

/-- With ISO weeks, 2021-01-01 lies in the week year that begins on 2019-12-30, and so does every
second of the 53 weeks from there on. -/
theorem startOf?_tiles_longWeekYear :
    let cal : Calendar := ⟨⟨2, 4, by decide, by decide⟩, .utc⟩
    cal.add? .yearForWeekOfYear 1 (.ofSeconds 1577664000) false = some (.ofSeconds 1609718400) ∧
      ∀ t, 1577664000 ≤ t → t < 1609718400 →
        cal.startOf? .yearForWeekOfYear (.ofSeconds t) = some (.ofSeconds 1577664000) := by
  intro cal
  have hyear : (cal.localTime (.ofSeconds 1609466400)).date.year = 2021 := by decide +kernel
  obtain ⟨s, e, hs, he, -, htiles, -⟩ := startOf?_tiles (show cal.zone = .fixed _ from rfl)
    (by decide : TimeUnit.yearForWeekOfYear ∈ _) (n := 1609466400)
    ⟨by rw [hyear]; decide, by rw [hyear]; decide⟩
  have hs' : cal.startOf? .yearForWeekOfYear (.ofSeconds 1609466400) =
      some (.ofSeconds 1577664000) := by decide +kernel
  have he' : cal.add? .yearForWeekOfYear 1 (.ofSeconds 1577664000) false =
      some (.ofSeconds 1609718400) := by decide +kernel
  obtain rfl := Instant.ofSeconds_inj (by decide) (Option.some.inj (hs.symm.trans hs'))
  obtain rfl := Instant.ofSeconds_inj (by decide) (Option.some.inj (he.symm.trans he'))
  exact ⟨he, htiles⟩

end Calendar

end Almanac
