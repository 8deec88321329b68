import CellExpr.Calendar.Layout

/-!
# Writing instants

The text of an instant in a layout, and the text that it has without one: date, time in full seconds and a `Z`.
-/

namespace CellExpr.Calendar

/-- A number filled with zeros to a width. -/
def filledNumber (width n : Nat) : List Char :=
  let digits := Nat.toDigits 10 n
  List.replicate (width - digits.length) '0' ++ digits

/-- Four digits of a year. Outside the years 0 to 9999 there is a sign before them. -/
def yearText (year : Int) : List Char :=
  if 0 ≤ year ∧ year ≤ 9999 then filledNumber 4 year.toNat
  else (if year < 0 then '-' else '+') :: filledNumber 4 year.natAbs

/-- Two digits, the first of them left out if it is zero and the number is not to be filled. -/
def twoDigits (filled : Bool) (n : Nat) : List Char := filledNumber (if filled then 2 else 1) n

/-- The first three characters of a name. -/
def shortName (name : String) : List Char := name.toList.take 3

namespace Instant

/-- The second as it is shown: 60 in a leap second. -/
def shownSecond (d : Instant) : Nat := d.second + d.nanos / 1000000000

/-- The name of the month. -/
def monthName (d : Instant) : String := monthNames.getD (d.civil.month - 1) ""

/-- The name of the day of the week. -/
def weekdayName (d : Instant) : String := weekdayNames.getD (weekdayOf d.days) ""

/-- The text of a field. Offsets are zero. -/
def fieldText (d : Instant) : Field → List Char
  | .year => yearText d.civil.year
  | .yearOfCentury => twoDigits true (d.civil.year % 100).toNat
  | .month filled => twoDigits filled d.civil.month
  | .monthShort => shortName d.monthName
  | .monthName => d.monthName.toList
  | .day filled => twoDigits filled d.civil.day
  | .dayOfYear => filledNumber 3 d.civil.ordinal
  | .hour filled => twoDigits filled d.hour
  | .halfDayHour filled => twoDigits filled ((d.hour + 11) % 12 + 1)
  | .minute filled => twoDigits filled d.minute
  | .second filled => twoDigits filled d.shownSecond
  | .milliseconds => filledNumber 3 (d.nanos % 1000000000 / 1000000)
  | .fraction => []
  | .halfDay => if d.hour < 12 then ['A', 'M'] else ['P', 'M']
  | .weekdayShort => shortName d.weekdayName
  | .weekdayName => d.weekdayName.toList
  | .offset => ['+', '0', '0', '0', '0']
  | .offsetColon => ['+', '0', '0', ':', '0', '0']

/-- The text of a piece. -/
def pieceText (d : Instant) : Piece → List Char
  | .field f => d.fieldText f
  | .literal c => [c]

/-- The text in a layout. -/
def format (d : Instant) (layout : Layout) : List Char := layout.flatMap d.pieceText

/-- The layout of the text that needs none: `2024-03-05T15:30:00Z`. -/
def plainLayout : Layout := [
  .field .year, .literal '-', .field (.month true), .literal '-', .field (.day true), .literal 'T',
  .field (.hour true), .literal ':', .field (.minute true), .literal ':', .field (.second true), .literal 'Z']

/-- The text of an instant. -/
def text (d : Instant) : String := String.ofList (d.format plainLayout)

end Instant

end CellExpr.Calendar
