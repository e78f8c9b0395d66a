import Mathlib
import Almanac.Proofs.Calendar.Span
import Almanac.Calendar.Extent

/-!
# Ranges are exact

A range holds the values that a field or a position takes over an instance of the larger unit, and no
others. Most of them number blocks of one length from a day on, so they have as many values as there
are blocks in the days of the instance; months are numbered one by one.

* `ValueRange.values`: the values of a range; `Calendar.component?`: one field of an instant.
* `image_count` and `image_month`: numbers of blocks and of months over a run of days.
* **`Calendar.range?_exact`**: ranges are exact, but near the ends of the 64-bit seconds.
* `Calendar.range?_beyond_seconds`: where the seconds end, days are missing.
-/

namespace Almanac

/-- The values of a range. -/
def ValueRange.values (r : ValueRange) : Set ℤ := Set.Ico r.start r.stop

/-- A day is counted in blocks of `n` days from day `w` on. Over a run of days, their numbers are
those from the block of the first to that of the last. -/
theorem image_count {a b w n : ℤ} (hn : 0 < n) (hab : a < b) :
    (fun day => (day - w) / n + 1) '' Set.Ico a b =
      Set.Ico ((a - w) / n + 1) ((b - 1 - w) / n + 2) := by
  ext v
  simp only [Set.mem_image, Set.mem_Ico]
  constructor
  · rintro ⟨day, ⟨ha, hb⟩, rfl⟩
    have h₁ := Int.ediv_le_ediv hn (show a - w ≤ day - w by omega)
    have h₂ := Int.ediv_le_ediv hn (show day - w ≤ b - 1 - w by omega)
    omega
  · rintro ⟨h₁, h₂⟩
    -- the block begins inside the run, or holds its first day
    have hle : (v - 1) * n ≤ b - 1 - w := (Int.le_ediv_iff_mul_le hn).mp (by omega)
    have hlt : a - w < v * n := (Int.ediv_lt_iff_lt_mul hn).mp (by omega)
    rw [sub_mul, one_mul] at hle
    refine ⟨max a (w + (v * n - n)), by omega, ?_⟩
    have hblock : (max a (w + (v * n - n)) - w) / n = v - 1 := by
      rw [Int.ediv_eq_iff_of_pos hn, sub_mul, one_mul]
      omega
    omega

theorem image_month {first count : ℤ} (hcount : 0 ≤ count ∧ first % 12 + count ≤ 12) :
    (fun day => (Date.ofDayNumber day).month) ''
        Set.Ico (monthStart first) (monthStart (first + count)) =
      Set.Ico (first % 12 + 1) (first % 12 + 1 + count) := by
  ext v
  simp only [Set.mem_image, Set.mem_Ico]
  constructor
  · rintro ⟨day, hday, rfl⟩
    have hmem := index_mem (Date.mem_monthDays day) hday
    rw [Date.ofDayNumber_of_month (Date.mem_monthDays day)]
    dsimp only
    omega
  · rintro ⟨h₁, h₂⟩
    have hindex : first ≤ first + (v - first % 12 - 1) ∧
        first + (v - first % 12 - 1) < first + count := by omega
    refine ⟨monthStart (first + (v - first % 12 - 1)),
      ⟨monthStart_mono hindex.1, monthStart_strictMono hindex.2⟩, ?_⟩
    rw [Date.ofDayNumber_of_month ⟨le_rfl, monthStart_strictMono (lt_add_one _)⟩]
    dsimp only
    omega

namespace LocalTime

variable {l : LocalTime} (hdate : l.date = Date.ofDayNumber l.dayNumber) {index : ℤ}
  (hmonth : l.dayNumber ∈ monthDays index)
include hdate hmonth

theorem monthLength_of_month : l.monthLength = monthStart (index + 1) - monthStart index := by
  rw [monthLength, hdate, Date.ofDayNumber_of_month hmonth, monthStart_succ]
  ring

theorem weekOfMonth_of_month (weeks : WeekNumbering) : l.value weeks .weekOfMonth =
    (l.dayNumber - weeks.firstWeek (monthStart index)) / 7 + 1 := by
  rw [value, hdate, Date.ofDayNumber_of_month hmonth]
  exact weeks.weekAt_eq_firstWeek _ _

end LocalTime

namespace Calendar

variable (cal : Calendar)

/-- One field of an instant. -/
def component? (unit : TimeUnit) (t : Instant) : Option ℤ :=
  (cal.fieldsAt (.ofList [unit]) t).get unit

theorem component?_eq (unit : TimeUnit) (t : Instant) :
    cal.component? unit t = some ((cal.localTime t).value cal.weeks unit) := by
  rw [component?, get_fieldsAt, if_pos (by simp)]

variable {cal} {t t' : Instant} {k : ℤ}

/-! ## In a month -/

theorem date_of_month (h : t ∈ cal.onDays (monthDays k)) : (cal.localTime t).date =
    ⟨k / 12, k % 12 + 1, (cal.localTime t).dayNumber - monthStart k + 1⟩ :=
  Date.ofDayNumber_of_month h

theorem exists_month (cal : Calendar) (t : Instant) : ∃ k, t ∈ cal.onDays (monthDays k) :=
  ⟨_, Date.mem_monthDays _⟩

theorem monthLength_of_month (h : t ∈ cal.onDays (monthDays k)) :
    (cal.localTime t).monthLength = monthStart (k + 1) - monthStart k :=
  LocalTime.monthLength_of_month rfl h

theorem component?_day (h : t ∈ cal.onDays (monthDays k)) :
    cal.component? .day t = some ((cal.localTime t).dayNumber - monthStart k + 1) := by
  rw [component?_eq, LocalTime.value, date_of_month h]

theorem component?_weekdayOrdinal (h : t ∈ cal.onDays (monthDays k)) :
    cal.component? .weekdayOrdinal t =
      some (((cal.localTime t).dayNumber - monthStart k) / 7 + 1) := by
  rw [component?_eq, LocalTime.value, date_of_month h, add_sub_cancel_right]

theorem component?_weekOfMonth (h : t ∈ cal.onDays (monthDays k)) :
    cal.component? .weekOfMonth t =
      some (((cal.localTime t).dayNumber - cal.weeks.firstWeek (monthStart k)) / 7 + 1) := by
  rw [component?_eq, LocalTime.weekOfMonth_of_month rfl h]

theorem first_of_month (h : t ∈ cal.onDays (monthDays k)) :
    (cal.localTime t).dayNumber - (cal.localTime t).date.day + 1 = monthStart k := by
  rw [date_of_month h]
  ring

theorem range?_weekOfMonth (h : t ∈ cal.onDays (monthDays k)) :
    cal.range? .weekOfMonth .month t =
      some ⟨(monthStart k - cal.weeks.firstWeek (monthStart k)) / 7 + 1,
        (monthStart (k + 1) - 1 - cal.weeks.firstWeek (monthStart k)) / 7 + 2⟩ := by
  have hfirst := first_of_month h
  have hlast : (cal.localTime t).dayNumber - (cal.localTime t).date.day +
      (cal.localTime t).monthLength = monthStart (k + 1) - 1 := by
    have hl := monthLength_of_month h
    omega
  have hweek := cal.weeks.weekAt_eq_firstWeek (monthStart k) (monthStart k)
  have hweek' := cal.weeks.weekAt_eq_firstWeek (monthStart k) (monthStart (k + 1) - 1)
  rw [sub_self, zero_add] at hweek
  rw [sub_right_comm, Int.sub_add_cancel, ← monthLength_of_month h] at hweek'
  have hrange : cal.range? .weekOfMonth .month t = some
      ⟨cal.weeks.weekAt 1 1
          (weekdayOf ((cal.localTime t).dayNumber - (cal.localTime t).date.day + 1)),
        cal.weeks.weekAt (cal.localTime t).monthLength (cal.localTime t).monthLength
          (weekdayOf ((cal.localTime t).dayNumber - (cal.localTime t).date.day +
            (cal.localTime t).monthLength)) + 1⟩ := rfl
  rw [hrange, hfirst, hlast, hweek, hweek', add_assoc]
  rfl

/-! ## In a year and a quarter -/

theorem yearLength_of_year
    (h : t ∈ cal.onDays (Set.Ico (monthStart (12 * k)) (monthStart (12 * (k + 1))))) :
    yearLength (cal.localTime t).date.year = monthStart (12 * (k + 1)) - monthStart (12 * k) := by
  obtain ⟨index, hindex⟩ := cal.exists_month t
  have hmem := index_mem hindex h
  have hyear : index / 12 = k := by omega
  rw [date_of_month hindex, hyear,
    ← dayNumber_eq_first (by decide) (show 12 * (k + 1) + 1 - 1 = 12 * (k + 1) by ring),
    ← dayNumber_eq_first (by decide) (show 12 * k + 1 - 1 = 12 * k by ring), dayNumber_next_year]
  ring

theorem quarterLength_of_quarter
    (h : t ∈ cal.onDays (Set.Ico (monthStart (3 * k)) (monthStart (3 * (k + 1))))) :
    (cal.localTime t).quarterLength = monthStart (3 * (k + 1)) - monthStart (3 * k) := by
  obtain ⟨index, hindex⟩ := cal.exists_month t
  have hmem := index_mem hindex h
  have hquarter : 12 * (index / 12) + quarterStart (index % 12 + 1) - 1 = 3 * k ∧
      1 ≤ quarterStart (index % 12 + 1) ∧ quarterStart (index % 12 + 1) ≤ 12 := by
    unfold quarterStart
    omega
  have hfold := foldMonth_count (index / 12) (quarterStart (index % 12 + 1) + 3)
  have hfold_mem := foldMonth_snd_mem (index / 12) (quarterStart (index % 12 + 1) + 3)
  simp only [LocalTime.quarterLength, date_of_month hindex]
  rw [dayNumber_eq_first hquarter.2 hquarter.1,
    dayNumber_eq_first hfold_mem (show _ = 3 * (k + 1) by omega)]

/-! ## In a week year -/

theorem exists_weekYear (cal : Calendar) (t : Instant) : ∃ k, t ∈ cal.onDays
      (Set.Ico (cal.weeks.weekYearStart k) (cal.weeks.weekYearStart (k + 1))) ∧
    (cal.localTime t).date.year - 1 ≤ k ∧ k ≤ (cal.localTime t).date.year + 1 := by
  obtain ⟨weekYear, hmem, hnear, -⟩ := cal.weeks.exists_weekYear (cal.localTime t).dayNumber
  exact ⟨weekYear, hmem, hnear⟩

theorem weekOfYear_of_weekYear (h : t ∈ cal.onDays
      (Set.Ico (cal.weeks.weekYearStart k) (cal.weeks.weekYearStart (k + 1)))) :
    (cal.localTime t).weekOfYear cal.weeks =
      (((cal.localTime t).dayNumber - cal.weeks.weekYearStart k) / 7 + 1, k) := by
  obtain ⟨weekYear, hmem, -, heq⟩ := cal.weeks.exists_weekYear (cal.localTime t).dayNumber
  obtain rfl := cal.weeks.weekYear_unique hmem h
  exact heq

theorem weeksOfYear_of_weekYear (h : t ∈ cal.onDays
      (Set.Ico (cal.weeks.weekYearStart k) (cal.weeks.weekYearStart (k + 1)))) :
    (cal.localTime t).weeksOfYear cal.weeks =
      (cal.weeks.weekYearStart (k + 1) - 1 - cal.weeks.weekYearStart k) / 7 + 1 := by
  have hlength := cal.weeks.weekYearStart_succ k
  obtain ⟨weekYear, hmem, -, heq⟩ :=
    cal.weeks.exists_weekYear (cal.weeks.weekYearStart (k + 1) - 1)
  obtain rfl := cal.weeks.weekYear_unique hmem (show cal.weeks.weekYearStart k ≤ _ ∧
    _ < cal.weeks.weekYearStart (k + 1) by omega)
  simp only [LocalTime.weeksOfYear, weekOfYear_of_weekYear h]
  rw [WeekNumbering.dayAt_firstWeek, heq]

/-! ## Exact ranges -/

/-- A range is exact where blocks of days are counted and the ends of the range are the blocks of
the first and the last day. -/
theorem image_eq_values {first next w n : ℤ} {f : Instant → Option ℤ} {r : ValueRange}
    (hn : 0 < n) (hself : t ∈ cal.onDays (Set.Ico first next))
    (hdays : ∀ day ∈ Set.Ico first next, ∃ t', (cal.localTime t').dayNumber = day)
    (hf : ∀ t' ∈ cal.onDays (Set.Ico first next),
      f t' = some (((cal.localTime t').dayNumber - w) / n + 1))
    (hstart : r.start = (first - w) / n + 1) (hstop : r.stop = (next - 1 - w) / n + 2) :
    f '' cal.onDays (Set.Ico first next) = some '' r.values := by
  have hblocks := image_onDays (g := fun day => (day - w) / n + 1) hdays hf
  rw [hblocks, image_count hn (hself.1.trans_lt hself.2), ValueRange.values, hstart, hstop]

section Fixed

variable {offset : FixedOffset} (hzone : cal.zone = .fixed offset)
include hzone

theorem exists_span_month (t : Instant) : ∃ k, cal.span .month t = cal.onDays (monthDays k) := by
  obtain ⟨k, hspan⟩ := exists_span_eq_onDays hzone rfl
    (rfl : TimeUnit.month.tiling? cal.weeks = some (.days _ _)) t
  rw [one_mul, one_mul] at hspan
  exact ⟨k, hspan⟩

variable (ht : t.IsInner)
include ht

theorem exists_whole_month : ∃ k, cal.span .month t = cal.onDays (monthDays k) ∧
    ∀ day ∈ monthDays k, ∃ t', (cal.localTime t').dayNumber = day := by
  obtain ⟨k, hspan, hdays⟩ := exists_whole_span hzone ht rfl
    (rfl : TimeUnit.month.tiling? cal.weeks = some (.days _ _))
  rw [one_mul, one_mul] at hspan hdays
  exact ⟨k, hspan, hdays⟩

theorem range?_month {small : TimeUnit}
    (hsmall : small ∈ [.day, .weekdayOrdinal, .weekOfMonth]) :
    ∃ r, cal.range? small .month t = some r ∧
      cal.component? small '' cal.span .month t = some '' r.values := by
  obtain ⟨k, hspan, hdays⟩ := exists_whole_month hzone ht
  have h : t ∈ cal.onDays (monthDays k) := hspan ▸ cal.mem_span_self .month t
  have hl := monthLength_of_month h
  rw [hspan]
  fin_cases hsmall
  · refine ⟨_, rfl, image_eq_values (w := monthStart k) one_pos h hdays ?_ ?_ ?_⟩
    · intro t' ht'
      rw [component?_day ht', Int.ediv_one]
    · rw [sub_self]
      rfl
    · rw [hl, Int.ediv_one]
      dsimp only
      omega
  · refine ⟨_, rfl, image_eq_values (w := monthStart k) (n := 7) (by decide) h hdays ?_ ?_ ?_⟩
    · intro t' ht'
      rw [component?_weekdayOrdinal ht']
    · rw [sub_self]
      rfl
    · dsimp only
      rw [hl]
      omega
  · refine ⟨_, range?_weekOfMonth h, image_eq_values (w := cal.weeks.firstWeek (monthStart k))
      (n := 7) (by decide) h hdays ?_ rfl rfl⟩
    intro t' ht'
    rw [component?_weekOfMonth ht']

theorem range?_weekYear : ∃ r, cal.range? .weekOfYear .yearForWeekOfYear t = some r ∧
    cal.component? .weekOfYear '' cal.span .yearForWeekOfYear t = some '' r.values := by
  obtain ⟨k, hspan, hdays⟩ := exists_whole_span hzone ht rfl
    (rfl : TimeUnit.yearForWeekOfYear.tiling? cal.weeks = some (.days _ _))
  have h : t ∈ cal.onDays _ := hspan ▸ cal.mem_span_self .yearForWeekOfYear t
  rw [hspan]
  refine ⟨_, rfl, image_eq_values (w := cal.weeks.weekYearStart k) (n := 7) (by decide) h hdays
    ?_ ?_ ?_⟩
  · intro t' ht'
    rw [component?_eq, LocalTime.value, weekOfYear_of_weekYear ht']
  · rw [sub_self]
    rfl
  · dsimp only
    rw [weeksOfYear_of_weekYear h]
    ring

theorem range?_monthOfQuarter : ∃ r, cal.range? .month .quarter t = some r ∧
    cal.component? .month '' cal.span .quarter t = some '' r.values := by
  obtain ⟨k, hspan, hdays⟩ := exists_whole_span hzone ht rfl
    (rfl : TimeUnit.quarter.tiling? cal.weeks = some (.days _ _))
  have h : t ∈ cal.onDays _ := hspan ▸ cal.mem_span_self .quarter t
  obtain ⟨index, hindex⟩ := cal.exists_month t
  have hmem := index_mem hindex h
  have hmonths := image_onDays (f := cal.component? .month)
    (g := fun day => (Date.ofDayNumber day).month) hdays fun t' _ => cal.component?_eq _ t'
  have hnext : 3 * (k + 1) = 3 * k + 3 := by ring
  have hquarter : quarterStart (index % 12 + 1) = 3 * k % 12 + 1 := by
    unfold quarterStart
    omega
  rw [hspan, hmonths, hnext, image_month (by omega)]
  refine ⟨_, rfl, ?_⟩
  rw [date_of_month hindex, ValueRange.values]
  dsimp only
  rw [hquarter]

theorem range?_week {large : TimeUnit} (hlarge : large ∈ [.weekOfMonth, .weekOfYear]) :
    ∃ r, cal.range? .day large t = some r ∧
      cal.component? .day '' (cal.span large t ∩ cal.span .month t) = some '' r.values := by
  have hweek : ∃ j, cal.span large t = cal.onDays
        (Set.Ico (cal.weeks.startOfWeek (7 * j)) (cal.weeks.startOfWeek (7 * (j + 1)))) ∧
      ∀ day ∈ Set.Ico (cal.weeks.startOfWeek (7 * j)) (cal.weeks.startOfWeek (7 * (j + 1))),
        ∃ t', (cal.localTime t').dayNumber = day := by
    fin_cases hlarge <;> exact exists_whole_span hzone ht rfl rfl
  have hrange : cal.range? .day large t = some
      ⟨max ((cal.localTime t).date.day - cal.weeks.placeOf (cal.localTime t).weekday) 1,
        min ((cal.localTime t).date.day - cal.weeks.placeOf (cal.localTime t).weekday + 7)
          ((cal.localTime t).monthLength + 1)⟩ := by
    fin_cases hlarge <;> rfl
  obtain ⟨j, hj, hwhole⟩ := hweek
  obtain ⟨k, hk⟩ := exists_span_month hzone t
  have hself : t ∈ cal.span large t ∩ cal.span .month t := ⟨rfl, rfl⟩
  have h : t ∈ cal.onDays (monthDays k) := hk ▸ cal.mem_span_self .month t
  have hspan : cal.span large t ∩ cal.span .month t = cal.onDays (Set.Ico
      (max (cal.weeks.startOfWeek (7 * j)) (monthStart k))
      (min (cal.weeks.startOfWeek (7 * (j + 1))) (monthStart (k + 1)))) := by
    rw [hj, hk, onDays_inter, monthDays, Set.Ico_inter_Ico]
  have hdays : ∀ day ∈ Set.Ico (max (cal.weeks.startOfWeek (7 * j)) (monthStart k))
      (min (cal.weeks.startOfWeek (7 * (j + 1))) (monthStart (k + 1))),
      ∃ t', (cal.localTime t').dayNumber = day := by
    rw [← Set.Ico_inter_Ico]
    intro day hday
    exact hwhole day hday.1
  have hfirst := first_of_month h
  have hl := monthLength_of_month h
  have hplace : (cal.localTime t).dayNumber - cal.weeks.placeOf (cal.localTime t).weekday =
      cal.weeks.startOfWeek (7 * j) := by
    obtain ⟨h₁, h₂⟩ : t ∈ cal.onDays _ := hj ▸ cal.mem_span_self large t
    change cal.weeks.startOfWeek (cal.localTime t).dayNumber = _
    simp only [WeekNumbering.startOfWeek_eq] at h₁ h₂ ⊢
    omega
  have hnext : cal.weeks.startOfWeek (7 * (j + 1)) = cal.weeks.startOfWeek (7 * j) + 7 := by
    simp only [WeekNumbering.startOfWeek_eq]
    omega
  rw [hspan] at hself ⊢
  refine ⟨_, hrange, image_eq_values (w := monthStart k) one_pos hself hdays ?_ ?_ ?_⟩
  · intro t' ht'
    rw [← Set.Ico_inter_Ico, ← onDays_inter] at ht'
    rw [component?_day ht'.2, Int.ediv_one]
  · rw [Int.ediv_one]
    dsimp only
    omega
  · rw [Int.ediv_one]
    dsimp only
    omega

omit ht in
theorem ordinality?_day {large : TimeUnit} {first : ℤ → ℤ}
    {h : ∀ k, first k < first (k + 1) ∧ first (k + 1) ≤ first k + 372}
    (hcontains : large.contains .day = true)
    (hT : large.tiling? cal.weeks = some (.days first h))
    (ht : t ∈ cal.onDays (Set.Ico (first k) (first (k + 1)))) :
    cal.ordinality? .day large t = some ((cal.localTime t).dayNumber - first k + 1) := by
  have hclock := large.not_clock_of_contains_day hcontains
  have hcovers : (Tiling.days first h).Covers k (t.secondsAndNanos.1 + offset.seconds) := by
    rw [Tiling.covers_days, ← dayNumber_fixed hzone]
    exact ht
  obtain ⟨day, hday, hstart⟩ := LocalTime.firstDay?_of_covers hclock hT hcovers
  have hfirst : first k = day := by
    rw [Tiling.start_days] at hstart
    unfold secondsPerDay at hstart
    omega
  rw [ordinality?_fixed hzone rfl hcontains, dayNumber_fixed hzone, hfirst]
  change LocalTime.dayWithin? _ cal.weeks large = _
  rw [LocalTime.dayWithin?_eq_firstDay? hclock, hday]
  rfl

theorem range?_day {large : TimeUnit} {first : ℤ → ℤ}
    {h : ∀ k, first k < first (k + 1) ∧ first (k + 1) ≤ first k + 372}
    (hcontains : large.contains .day = true)
    (hT : large.tiling? cal.weeks = some (.days first h))
    (hrange : ∀ k, t ∈ cal.onDays (Set.Ico (first k) (first (k + 1))) →
      cal.range? .day large t = some ⟨1, first (k + 1) - first k + 1⟩) :
    ∃ r, cal.range? .day large t = some r ∧
      cal.ordinality? .day large '' cal.span large t = some '' r.values := by
  obtain ⟨k, hspan, hdays⟩ :=
    exists_whole_span hzone ht (large.not_clock_of_contains_day hcontains) hT
  have hself : t ∈ cal.onDays _ := hspan ▸ cal.mem_span_self large t
  rw [hspan]
  refine ⟨_, hrange k hself, image_eq_values (w := first k) one_pos hself hdays ?_ ?_ ?_⟩
  · intro t' ht'
    rw [ordinality?_day hzone hcontains hT ht', Int.ediv_one]
  · rw [sub_self]
    rfl
  · rw [Int.ediv_one]
    dsimp only
    omega

end Fixed

/-- **Ranges are exact.** Over the instance of the larger unit that holds an instant, a field or a
position takes all the values of its range, and no others. The instant is not near the ends of the
64-bit seconds, which would cut off the instance. -/
theorem range?_exact {offset : FixedOffset} (hzone : cal.zone = .fixed offset) (ht : t.IsInner) :
    (∀ small large : TimeUnit, (small, large) ∈ [(.month, .quarter), (.day, .month),
        (.weekdayOrdinal, .month), (.weekOfMonth, .month), (.weekOfYear, .yearForWeekOfYear)] →
      ∃ r, cal.range? small large t = some r ∧
        cal.component? small '' cal.span large t = some '' r.values) ∧
    (∀ large ∈ [TimeUnit.weekOfMonth, .weekOfYear], ∃ r, cal.range? .day large t = some r ∧
      cal.component? .day '' (cal.span large t ∩ cal.span .month t) = some '' r.values) ∧
    ∀ large ∈ [TimeUnit.year, .quarter], ∃ r, cal.range? .day large t = some r ∧
      cal.ordinality? .day large '' cal.span large t = some '' r.values := by
  refine ⟨?_, ?_, ?_⟩
  · intro small large h
    fin_cases h
    · exact range?_monthOfQuarter hzone ht
    · exact range?_month hzone ht (by decide)
    · exact range?_month hzone ht (by decide)
    · exact range?_month hzone ht (by decide)
    · exact range?_weekYear hzone ht
  · intro large hlarge
    exact range?_week hzone ht hlarge
  · intro large hlarge
    fin_cases hlarge
    · apply range?_day hzone ht (by decide) rfl
      intro k hk
      rw [← yearLength_of_year hk]
      rfl
    · apply range?_day hzone ht (by decide) rfl
      intro k hk
      rw [← quarterLength_of_quarter hk]
      rfl

/-- With ISO weeks, the week year of 2021-01-01 has 53 weeks, and its month begins in week `0`. -/
theorem range?_exact_longWeekYear :
    let cal : Calendar := ⟨⟨2, 4, by decide, by decide⟩, .utc⟩
    let t := Instant.ofSeconds 1609466400
    cal.component? .weekOfYear '' cal.span .yearForWeekOfYear t = some '' Set.Ico 1 54 ∧
      cal.component? .weekOfMonth '' cal.span .month t = some '' Set.Ico 0 5 := by
  intro cal t
  have ht : t.IsInner := by decide +kernel
  obtain ⟨hexact, -⟩ := range?_exact (show cal.zone = .fixed _ from rfl) ht
  have hweeks : cal.range? .weekOfYear .yearForWeekOfYear t = some ⟨1, 54⟩ := by decide +kernel
  have hmonth : cal.range? .weekOfMonth .month t = some ⟨0, 5⟩ := by decide +kernel
  obtain ⟨r, hr, hvalues⟩ := hexact .weekOfYear .yearForWeekOfYear (by decide)
  obtain ⟨r', hr', hvalues'⟩ := hexact .weekOfMonth .month (by decide)
  obtain rfl := Option.some.inj (hr.symm.trans hweeks)
  obtain rfl := Option.some.inj (hr'.symm.trans hmonth)
  exact ⟨hvalues, hvalues'⟩

/-- The signed 64-bit seconds end on the fourth of a month. Its range has 31 days, but no instant
is on the fifth. -/
theorem range?_beyond_seconds :
    standard.range? .day .month (.ofSeconds 9223372036854774784) = some ⟨1, 32⟩ ∧
      ∀ t ∈ standard.span .month (.ofSeconds 9223372036854774784),
        standard.component? .day t ≠ some 5 := by
  refine ⟨by decide +kernel, ?_⟩
  intro t ht hday
  have hzone : standard.zone = .fixed _ := rfl
  obtain ⟨k, hspan⟩ := exists_span_month hzone (.ofSeconds 9223372036854774784)
  have hend := standard.mem_span_self .month (.ofSeconds 9223372036854774784)
  rw [hspan] at ht hend
  have hfourth : standard.component? .day (.ofSeconds 9223372036854774784) = some 4 := by
    decide +kernel
  have hlast : (standard.localTime (.ofSeconds 9223372036854774784)).dayNumber =
      106751991167300 := by decide +kernel
  rw [component?_day ht, Option.some_inj, dayNumber_fixed hzone] at hday
  rw [component?_day hend, Option.some_inj, hlast] at hfourth
  change (t.secondsAndNanos.1 + 0) / secondsPerDay - monthStart k + 1 = 5 at hday
  have hseconds := t.seconds_mem
  unfold Binary64.int64Max secondsPerDay at *
  omega

end Calendar

end Almanac
