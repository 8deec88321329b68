import CellExpr.Calendar.Civil

/-!
# Instants

A point in time as seconds from 1970-01-01 and nanoseconds after them. The second before a full minute may be a leap
second: then its nanoseconds run up to two thousand million. Years run from -262143 to 262142.
-/

namespace CellExpr.Calendar

/-- The first year that has instants. -/
def minYear : Int := -262143

/-- The last year that has instants. -/
def maxYear : Int := 262142

/-- The length of a day in seconds. -/
def daySeconds : Int := 86400

/-- The nanoseconds of a second. -/
def secondNanos : Int := 1000000000

/-- The first second of the first year. -/
def minSeconds : Int := (daysBeforeYear minYear - epochDays) * daySeconds

/-- The last second of the last year. -/
def maxSeconds : Int := (daysBeforeYear (maxYear + 1) - epochDays) * daySeconds - 1

/-- The numbers that make up an instant. -/
def ValidParts (seconds : Int) (nanos : Nat) : Prop :=
  minSeconds ≤ seconds ∧ seconds ≤ maxSeconds ∧ (nanos < 1000000000 ∨ nanos < 2000000000 ∧ seconds % 60 = 59)

instance (seconds : Int) (nanos : Nat) : Decidable (ValidParts seconds nanos) :=
  inferInstanceAs (Decidable (_ ∧ _ ∧ (_ ∨ _ ∧ _)))

/-- A point in time. -/
structure Instant where
  seconds : Int
  nanos : Nat
  valid : ValidParts seconds nanos
  deriving DecidableEq

namespace Instant

/-- The instant made of two numbers, if there is one. -/
def of? (seconds : Int) (nanos : Nat) : Option Instant :=
  if h : ValidParts seconds nanos then some ⟨seconds, nanos, h⟩ else none

/-- The order in time. -/
def cmp (a b : Instant) : Ordering := (compare a.seconds b.seconds).then (compare a.nanos b.nanos)

/-- The number of the day. -/
def days (d : Instant) : Int := d.seconds / daySeconds

/-- The seconds of the day. -/
def secondOfDay (d : Instant) : Nat := (d.seconds % daySeconds).toNat

/-- The day. -/
def civil (d : Instant) : Civil := Civil.ofDays d.days

/-- The hour of the day. -/
def hour (d : Instant) : Nat := d.secondOfDay / 3600

/-- The minute of the hour. -/
def minute (d : Instant) : Nat := d.secondOfDay / 60 % 60

/-- The second of the minute, without the leap second. -/
def second (d : Instant) : Nat := d.secondOfDay % 60

/-- The milliseconds after the second, a thousand and more in a leap second. -/
def millisOfSecond (d : Instant) : Nat := d.nanos / 1000000

/-- The milliseconds from 1970-01-01. -/
def millis (d : Instant) : Int := d.seconds * 1000 + d.millisOfSecond

/-- Whether the instant lies in a leap second. -/
def inLeapSecond (d : Instant) : Bool := 1000000000 ≤ d.nanos

/-- The instant with a day of its own and the time of day of another. -/
def onDay? (d : Instant) (c : Civil) : Option Instant := of? (c.toDays * daySeconds + d.secondOfDay) d.nanos

/-- The nanoseconds from one instant to another. A leap second counts where the time of day passes it. -/
def since (a b : Instant) : Int :=
  let passed : Int :=
    if b.secondOfDay < a.secondOfDay ∧ b.inLeapSecond then 1
    else if a.secondOfDay < b.secondOfDay ∧ a.inLeapSecond then -1
    else 0
  (a.seconds - b.seconds + passed) * secondNanos + ((a.nanos : Int) - b.nanos)

/-- The instant a number of nanoseconds later. Within a leap second the seconds stand still; a shift that leaves it
forward counts it as the second before, one that leaves it backward as the second after. -/
def addNanos? (d : Instant) (delta : Int) : Option Instant :=
  let wholeSeconds := delta.tdiv secondNanos
  let fraction := delta.tmod secondNanos
  let normalized := fun (seconds nanos : Int) =>
    let total := seconds * secondNanos + nanos + delta
    of? (total / secondNanos) (total % secondNanos).toNat
  if !d.inLeapSecond then normalized d.seconds d.nanos
  else if 0 < wholeSeconds ∨ (0 < fraction ∧ 2 * secondNanos - fraction ≤ d.nanos) then
    normalized d.seconds (d.nanos - secondNanos)
  else if wholeSeconds < 0 then normalized (d.seconds + 1) (d.nanos - secondNanos)
  else of? d.seconds (d.nanos + fraction).toNat

/-- The instant a number of months later, at the same time of day. A day that the month lacks becomes its last. -/
def addMonths? (d : Instant) (months : Int) : Option Instant :=
  let c := d.civil
  let total := c.year * 12 + (c.month - 1 : Int) + months
  let year := total / 12
  let month := (total % 12).toNat + 1
  if minYear ≤ year ∧ year ≤ maxYear then d.onDay? ⟨year, month, min c.day (monthLength year month)⟩ else none

/-- Whether an instant lies earlier in its month than another one in its own. -/
def isEarlierInMonth (d other : Instant) : Bool :=
  (compare d.civil.day other.civil.day).then
    ((compare d.secondOfDay other.secondOfDay).then (compare d.nanos other.nanos)) == .lt

/-- What goes off a number of months toward zero because the last of them is not whole. -/
def monthCarry (stop start : Instant) (months : Int) : Int :=
  if 0 < months && stop.isEarlierInMonth start then -1
  else if months < 0 && start.isEarlierInMonth stop then 1
  else 0

/-- The whole months from one instant to another, the part of a month left out. -/
def monthsSince (stop start : Instant) : Int :=
  let months := (stop.civil.year - start.civil.year) * 12 + stop.civil.month - start.civil.month
  months + stop.monthCarry start months

end Instant

end CellExpr.Calendar
