import Almanac.Calendar.Cycle

/-!
# Adding amounts

* `Calendar.add?`: an amount of one unit, carrying or cycling.
* `Calendar.addFields?`: the amounts of several units, one after the other.
-/

namespace Almanac

namespace Calendar

variable (cal : Calendar)

/-- The instant moved by `amount` of a unit, if the amount and the result are within the limits.
With `wrap` the unit's field cycles inside its container. -/
def add? (unit : TimeUnit) (amount : Int) (t : Instant) (wrap : Bool) : Option Instant :=
  if amount = 0 then some t
  else if IsFieldSized amount then
    if wrap then cal.cycle? unit amount t else cal.carry? unit amount t
  else none

/-- The instant moved by every present field, the coarsest first. -/
def addFields? (c : DateFields) (t : Instant) (wrap : Bool) : Option Instant :=
  c.amounts.foldlM (fun t (unit, amount) => cal.add? unit amount t wrap) t

end Calendar

end Almanac
