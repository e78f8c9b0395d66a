import Almanac.Calendar.Basic

/-!
# A cache of calendars

Calendars are handed out as shared instances. Whoever holds one keeps it; the cache forgets its
own after an invalidation, which moves a generation number, and after a requested reset.

* `Instance`: a calendar with an identity.
* `Cache`: what the cache remembers; `Cache.refresh` forgets it when it is stale.
* `Session`: a cache together with the generation number and the supply of identities.
* `Session.fixed`, `Session.size`, `Session.reset`, `Session.invalidate`: the operations.
-/

namespace Almanac

/-- A calendar that is shared. Two instances are the same object only if their identities agree. -/
structure Instance where
  id : Nat
  calendar : Calendar
deriving DecidableEq

/-- What a cache remembers: the generation it was filled in, whether a reset is due, the current
calendar, and the calendars asked for by their settings. -/
structure Cache where
  generation : Option Nat := none
  resetRequested : Bool := false
  current : Option Instance := none
  fixed : List Instance := []
deriving Inhabited

namespace Cache

/-- Everything remembered is dropped if the generation has moved or a reset is due. -/
def refresh (cache : Cache) (generation : Nat) : Cache :=
  if cache.generation = some generation ∧ cache.resetRequested = false then cache
  else { generation := some generation }

@[simp]
theorem refresh_refresh (cache : Cache) (generation : Nat) :
    (cache.refresh generation).refresh generation = cache.refresh generation := by
  unfold refresh
  split <;> simp_all

/-- The remembered instance of a calendar. -/
def find? (cache : Cache) (calendar : Calendar) : Option Instance :=
  cache.fixed.find? fun known => known.calendar = calendar

/-- The cache on one line, as it was last filled. -/
def describe (cache : Cache) : String :=
  "CalendarCache \x7b generation: " ++
    DateFields.describeOption (fun n => .ofList (Nat.toDigits 10 n)) cache.generation ++
    ", cached: " ++ .ofList (Nat.toDigits 10 cache.fixed.length) ++ " \x7d"

end Cache

/-- A cache in use: the generation number that invalidations move, the identity of the next
instance, and how often the current calendar has been asked for outside. -/
structure Session where
  cache : Cache := {}
  generation : Nat := 0
  nextId : Nat := 0
  requests : Nat := 0
deriving Inhabited

namespace Session

/-- The session with its cache brought up to date. -/
def refresh (s : Session) : Session := { s with cache := s.cache.refresh s.generation }

/-- A new instance of a calendar. -/
def build (s : Session) (calendar : Calendar) : Instance × Session :=
  (⟨s.nextId, calendar⟩, { s with nextId := s.nextId + 1 })

/-- The instance of a calendar, built on first use. -/
def fixed (s : Session) (calendar : Calendar) : Instance × Session :=
  let s := s.refresh
  match s.cache.find? calendar with
  | some known => (known, s)
  | none =>
    let (built, s) := s.build calendar
    (built, { s with cache := { s.cache with fixed := s.cache.fixed ++ [built] } })

/-- How many calendars are remembered by their settings. -/
def size (s : Session) : Nat × Session :=
  let s := s.refresh
  (s.cache.fixed.length, s)

/-- Everything is to be dropped at the next access. -/
def reset (s : Session) : Session := { s with cache := { s.cache with resetRequested := true } }

/-- The generation number moves. -/
def invalidate (s : Session) : Session := { s with generation := s.generation + 1 }

/-- The remembered current instance, or the given one if there is none. -/
def keepCurrent (s : Session) (built : Instance) : Instance × Session :=
  match s.cache.current with
  | some known => (known, s)
  | none => (built, { s with cache := { s.cache with current := some built } })

end Session

end Almanac
