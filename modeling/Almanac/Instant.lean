import Almanac.Binary64.Text

/-!
# Instants

* `Instant`: a point of time, in seconds from 1970-01-01 00:00 UTC as a binary64 number.
* `Instant.ofSeconds`: the instant of a whole second.
* `Instant.secondsAndNanos`: whole seconds, rounded down, and nanoseconds.
* `Instant.toUtc?` and `Instant.ofUtc`: the same for the years that timestamps cover, and back.
-/

namespace Almanac

/-- A point of time. -/
structure Instant where
  seconds : Binary64
deriving DecidableEq, Inhabited

/-- The nanoseconds of a second. -/
def nanosPerSecond : Int := 1000000000

namespace Instant

/-- The instant of a whole second. -/
def ofSeconds (n : Int) : Instant := ⟨.ofInt n⟩

/-- The instant moved by `x` seconds. -/
def add (t : Instant) (x : Binary64) : Instant := ⟨t.seconds + x⟩

/-- The instant moved back by `x` seconds. -/
def sub (t : Instant) (x : Binary64) : Instant := ⟨t.seconds - x⟩

/-- The seconds from `s` to `t`. -/
def since (t s : Instant) : Binary64 := t.seconds - s.seconds

instance : HAdd Instant Binary64 Instant := ⟨add⟩
instance : HSub Instant Binary64 Instant := ⟨sub⟩
instance : HSub Instant Instant Binary64 := ⟨since⟩

/-- Instants are ordered totally, `-0` before `0` and NaN at the ends. -/
instance : Ord Instant := ⟨fun s t => s.seconds.totalCompare t.seconds⟩

/-- The plain decimal text of the seconds. -/
def text (t : Instant) : String := t.seconds.positional

/-- The whole second at or before the instant. -/
def wholeSeconds (t : Instant) : Int := t.seconds.floor.toInt64

/-- The whole second at or before the instant and the nanoseconds after it. A fraction that
rounds up to a full second is carried. -/
def secondsAndNanos (t : Instant) : Int × Int :=
  let whole := t.seconds.floor
  let nanos := ((t.seconds - whole) * .ofInt nanosPerSecond).round.toInt64
  if nanosPerSecond ≤ nanos then (whole.toInt64 + 1, nanos - nanosPerSecond)
  else (whole.toInt64, nanos)

/-! ## Timestamps -/

/-- The first second of a timestamp. -/
def firstTimestamp : Int := -8334601228800

/-- The last second of a timestamp. -/
def lastTimestamp : Int := 8210266876799

/-- Seconds and nanoseconds as a timestamp, if the second is in the range of timestamps. -/
def toUtc? (t : Instant) : Option (Int × Int) :=
  let (seconds, nanos) := t.secondsAndNanos
  if firstTimestamp ≤ seconds ∧ seconds ≤ lastTimestamp then some (seconds, nanos) else none

/-- The instant of seconds and nanoseconds. -/
def ofUtc (seconds nanos : Int) : Instant :=
  ofSeconds seconds + (Binary64.ofInt nanos / .ofInt nanosPerSecond)

end Instant

end Almanac
