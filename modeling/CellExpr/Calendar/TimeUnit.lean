import CellExpr.Calendar.Instant

/-!
# Units of time

The units in which instants are shifted and compared, the names they have, and the parts of an instant that have names.
-/

namespace CellExpr.Calendar

/-- A unit of time. -/
inductive TimeUnit where
  | years
  | months
  | weeks
  | days
  | hours
  | minutes
  | seconds
  | milliseconds
  deriving DecidableEq, Repr

namespace TimeUnit

/-- The unit with a name, in the plural or the singular. -/
def ofName? (name : String) : Option TimeUnit :=
  if name = "years" ∨ name = "year" then some .years
  else if name = "months" ∨ name = "month" then some .months
  else if name = "weeks" ∨ name = "week" then some .weeks
  else if name = "days" ∨ name = "day" then some .days
  else if name = "hours" ∨ name = "hour" then some .hours
  else if name = "minutes" ∨ name = "minute" then some .minutes
  else if name = "seconds" ∨ name = "second" then some .seconds
  else if name = "milliseconds" ∨ name = "ms" then some .milliseconds
  else none

/-- How long a unit is: so many months, or so many nanoseconds. -/
def length : TimeUnit → Int ⊕ Int
  | years => .inl 12
  | months => .inl 1
  | weeks => .inr (7 * daySeconds * secondNanos)
  | days => .inr (daySeconds * secondNanos)
  | hours => .inr (3600 * secondNanos)
  | minutes => .inr (60 * secondNanos)
  | seconds => .inr secondNanos
  | milliseconds => .inr 1000000

end TimeUnit

namespace Instant

/-- The instant so many units later. -/
def shift? (d : Instant) (amount : Int) (unit : TimeUnit) : Option Instant :=
  match unit.length with
  | .inl months => d.addMonths? (amount * months)
  | .inr nanos => d.addNanos? (amount * nanos)

/-- The whole units from one instant to another, the part of a unit left out. -/
def unitsSince (stop start : Instant) (unit : TimeUnit) : Int :=
  match unit.length with
  | .inl months => (stop.monthsSince start).tdiv months
  | .inr nanos => (stop.since start).tdiv nanos

end Instant

/-- What a part of an instant is: a number or a name. -/
inductive PartValue where
  | number (n : Int)
  | name (s : String)

/-- The part of an instant that has a name. -/
def Instant.part? (d : Instant) (name : String) : Option PartValue :=
  let c := d.civil
  if name = "years" ∨ name = "year" then some (.number c.year)
  else if name = "months" ∨ name = "month" then some (.number c.month)
  else if name = "weeks" ∨ name = "week" then some (.number c.weekNumber)
  else if name = "days" ∨ name = "day" then some (.number c.day)
  else if name = "weekday" then some (.name (weekdayNames.getD (weekdayOf d.days) ""))
  else if name = "hours" ∨ name = "hour" then some (.number d.hour)
  else if name = "minutes" ∨ name = "minute" then some (.number d.minute)
  else if name = "seconds" ∨ name = "second" then some (.number d.second)
  else if name = "milliseconds" ∨ name = "ms" ∨ name = "S" then some (.number d.millisOfSecond)
  else if name = "time" then some (.number d.millis)
  else none

end CellExpr.Calendar
