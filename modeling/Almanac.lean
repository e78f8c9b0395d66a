import Almanac.Binary64.Bits
import Almanac.Calendar.Add
import Almanac.Calendar.Extent
import Almanac.Calendar.Fields
import Almanac.Calendar.Position
import Almanac.Calendar.Start
import Almanac.Zone.Text
import Almanac.DateFields.Json
import Almanac.Settings.Document
import Almanac.WallClock.Json
import Almanac.Cache.Supplier
import Almanac.Main
import Almanac.Instant.Exact
import Almanac.Proofs.Date.DayNumber
import Almanac.Proofs.Week.Formula
import Almanac.Proofs.Week.Year
import Almanac.Proofs.WallClock.Resolve
import Almanac.Proofs.Zone.Change
import Almanac.Proofs.Zone.NextChange
import Almanac.Proofs.Instant.Large
import Almanac.Proofs.Instant.Rounding
import Almanac.Proofs.Calendar.Fields
import Almanac.Proofs.Calendar.RoundTrip
import Almanac.Proofs.Calendar.Fixed
import Almanac.Proofs.Calendar.Tiling
import Almanac.Proofs.Calendar.Position
import Almanac.Proofs.Calendar.FirstPosition
import Almanac.Proofs.Calendar.Span
import Almanac.Proofs.Calendar.Extent
import Almanac.Proofs.Calendar.Cycle
import Almanac.Proofs.Calendar.DaySteps
import Almanac.Proofs.Calendar.Dependence
import Almanac.Proofs.Calendar.Amounts
import Almanac.Proofs.Date.Count
import Almanac.Proofs.Cache.Journal
import Almanac.Proofs.Cache.Sound
import Almanac.Proofs.Cache.Epochs
import Almanac.Proofs.Cache.Current
import Almanac.Proofs.Calendar.StartOfDay
import Almanac.Proofs.Calendar.CycleWeek
import Almanac.Proofs.Instant.Within
import Almanac.Proofs.Calendar.YearLimit
import Almanac.Proofs.Json.Text
import Almanac.Proofs.Json.RoundTrip
import Almanac.Proofs.Calendar.TimeOfDay
import Almanac.Proofs.Calendar.WholeTurn
import Almanac.Proofs.Calendar.CycleMonthWeek
import Almanac.Proofs.Calendar.MonthSteps
import Almanac.Proofs.Calendar.WeekYearSteps
import Almanac.Proofs.Calendar.WeeksOfYear
import Almanac.Proofs.Week.Counted
import Almanac.Proofs.Calendar.WidestRange
import Almanac.Proofs.Calendar.Carries
import Almanac.Proofs.Checked.Basic
import Almanac.Proofs.Checked.Date
import Almanac.Proofs.Checked.WallClock
import Almanac.Proofs.Checked.Fields
import Almanac.Proofs.Calendar.NoDate
import Almanac.Proofs.Calendar.Nesting
import Almanac.Proofs.Zone.OffsetText
import Almanac.Proofs.Checked.LocalTime
import Almanac.Proofs.Checked.Position
import Almanac.Proofs.Calendar.NoPosition
import Almanac.Proofs.Checked.Moves
import Almanac.Proofs.Calendar.NoMove
import Almanac.Proofs.Instant.Fraction
import Almanac.Proofs.Calendar.StartOrder
