/-!
# Civil dates

Years, months and days of the Gregorian calendar, extended to all years, and the number of a day counted from
1970-01-01. Division of whole numbers rounds to the floor, so that years before 0 need no case of their own.
-/

namespace CellExpr.Calendar

/-- A year of 366 days. -/
def isLeap (year : Int) : Bool := year % 4 == 0 && (year % 100 != 0 || year % 400 == 0)

/-- The lengths of the months. -/
def monthLengths (year : Int) : List Nat :=
  [31, if isLeap year then 29 else 28, 31, 30, 31, 30, 31, 31, 30, 31, 30, 31]

/-- The length of a month, counted from 1. -/
def monthLength (year : Int) (month : Nat) : Nat := (monthLengths year).getD (month - 1) 0

/-- The length of a year. -/
def yearLength (year : Int) : Nat := if isLeap year then 366 else 365

/-- A day of the calendar. -/
structure Civil where
  year : Int
  month : Nat
  day : Nat
  deriving DecidableEq, Repr

/-- A month and a day that the year has. -/
def Civil.Valid (c : Civil) : Prop := 1 ≤ c.month ∧ c.month ≤ 12 ∧ 1 ≤ c.day ∧ c.day ≤ monthLength c.year c.month

instance (c : Civil) : Decidable c.Valid := inferInstanceAs (Decidable (_ ∧ _ ∧ _ ∧ _))

/-- The days before the first day of a year, counted from the first day of year 1. -/
def daysBeforeYear (year : Int) : Int := 365 * (year - 1) + (year - 1) / 4 - (year - 1) / 100 + (year - 1) / 400

/-- The days from the first day of year 1 to 1970-01-01. -/
def epochDays : Int := 719162

/-- The days of a year before a month. -/
def daysBeforeMonth (year : Int) (month : Nat) : Nat := ((monthLengths year).take (month - 1)).foldl (· + ·) 0

/-- The day of the year, counted from 1. -/
def Civil.ordinal (c : Civil) : Nat := daysBeforeMonth c.year c.month + c.day

/-- The number of a day, 1970-01-01 being 0. -/
def Civil.toDays (c : Civil) : Int := daysBeforeYear c.year - epochDays + (c.ordinal - 1 : Int)

/-- The year and the days before it that a number of days from year 1 leads to: the day is in cycles of 400, 100, 4 and
1 years, of which the last in its cycle may be a day longer. -/
def yearOfDays (n : Int) : Int × Nat :=
  let cycle := n / 146097
  let inCycle := (n % 146097).toNat
  let century := min (inCycle / 36524) 3
  let inCentury := inCycle - century * 36524
  let four := inCentury / 1461
  let inFour := inCentury % 1461
  let one := min (inFour / 365) 3
  (400 * cycle + (100 * century + 4 * four + one + 1 : Nat), inFour - one * 365)

/-- The month and the day in it, from the days before it in the months given, the first of them having a number. -/
def monthOfDays : (first : Nat) → (lengths : List Nat) → Nat → Nat × Nat
  | first, [], n => (first, n + 1)
  | first, [_], n => (first, n + 1)
  | first, length :: rest, n => if n < length then (first, n + 1) else monthOfDays (first + 1) rest (n - length)

/-- The day of a year, counted from 1, as a civil date. -/
def Civil.ofOrdinal (year : Int) (ordinal : Nat) : Civil :=
  let (month, day) := monthOfDays 1 (monthLengths year) (ordinal - 1)
  ⟨year, month, day⟩

/-- The day with a number. -/
def Civil.ofDays (days : Int) : Civil :=
  let (year, before) := yearOfDays (days + epochDays)
  Civil.ofOrdinal year (before + 1)

/-- The day of the week, Monday being 0. -/
def weekdayOf (days : Int) : Nat := ((days + 3) % 7).toNat

/-- The weeks of a year in the calendar of weeks, each counted to the year of its Thursday. -/
def weeksInYear (year : Int) : Nat :=
  let firstDay := weekdayOf (Civil.mk year 1 1).toDays
  if firstDay = 3 ∨ (firstDay = 2 ∧ isLeap year) then 53 else 52

/-- The number of the week in the calendar of weeks, counted from 1. -/
def Civil.weekNumber (c : Civil) : Nat :=
  let n : Int := ((c.ordinal : Int) + 9 - weekdayOf c.toDays) / 7
  if n < 1 then weeksInYear (c.year - 1)
  else if weeksInYear c.year < n then 1
  else n.toNat

/-- The names of the days of the week. -/
def weekdayNames : List String := ["Monday", "Tuesday", "Wednesday", "Thursday", "Friday", "Saturday", "Sunday"]

/-- The names of the months. -/
def monthNames : List String :=
  ["January", "February", "March", "April", "May", "June", "July", "August", "September", "October", "November",
    "December"]

end CellExpr.Calendar
