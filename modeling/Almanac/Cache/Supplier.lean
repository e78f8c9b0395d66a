import Almanac.Cache.State

/-!
# The current calendar

The calendar that is current is asked for outside the cache, and whoever answers may use the cache
meanwhile.

* `Supplier`: an answer, possibly after uses of the cache.
* `Session.obtain`: the current instance; a supplier is asked when none is remembered, and an
  instance that was filled in during the answer wins.
* `Supplier.answer`: runs a supplier.
* `Session.current`: the current instance under a supplier.
* `Session.latest`: what a handle to the current calendar shows.
-/

namespace Almanac

/-- What happens while the current calendar is asked for. -/
inductive Supplier where
  /-- The answer. -/
  | give (calendar : Calendar)
  /-- Reads the size of the cache and goes on with it. -/
  | size (next : Nat → Supplier)
  /-- Asks the cache for a calendar and goes on with its instance. -/
  | fixed (calendar : Calendar) (next : Instance → Supplier)
  /-- Invalidates the cache and goes on. -/
  | invalidate (next : Supplier)
  /-- Requests a reset and goes on. -/
  | reset (next : Supplier)
  /-- Asks the cache for the current calendar, which `inner` gives if need be, and goes on with its
  instance. -/
  | current (inner : Supplier) (next : Instance → Supplier)

/-- The current instance. If none is remembered, `ask` is counted and run, and its calendar is
remembered unless the cache has been filled meanwhile. -/
def Session.obtain (ask : Session → Calendar × Session) (s : Session) : Instance × Session :=
  let s := s.refresh
  match s.cache.current with
  | some known => (known, s)
  | none =>
    let (calendar, s) := ask { s with requests := s.requests + 1 }
    let (built, s) := s.build calendar
    s.refresh.keepCurrent built

/-- The calendar that a supplier gives, and what it has done to the session. -/
def Supplier.answer : Supplier → Session → Calendar × Session
  | give calendar, s => (calendar, s)
  | size next, s =>
    let (n, s) := s.size
    (next n).answer s
  | fixed calendar next, s =>
    let (found, s) := s.fixed calendar
    (next found).answer s
  | invalidate next, s => next.answer s.invalidate
  | reset next, s => next.answer s.reset
  | current inner next, s =>
    let (found, s) := s.obtain inner.answer
    (next found).answer s

/-- The current instance under a supplier. -/
def Session.current (s : Session) (supplier : Supplier) : Instance × Session :=
  s.obtain supplier.answer

/-- The instance that a handle to the current calendar shows. The handle keeps none of its own: it
asks at every access, so it follows invalidations and resets. -/
def Session.latest (s : Session) (supplier : Supplier) : Instance × Session :=
  s.current supplier

end Almanac
