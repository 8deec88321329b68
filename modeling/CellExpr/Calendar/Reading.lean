import CellExpr.Calendar.Layout
import CellExpr.Number.Reading
import CellExpr.Text.Blank

/-!
# Reading instants

A text is read by a layout into the fields that it gives, and these are put together into an instant: with an offset, as
a date and a time in the zone of reference, or as a date alone. Without a layout of one's own there are the internet
format and six common layouts.
-/

namespace CellExpr.Calendar

open CellExpr.Text CellExpr.Number

/-- The fields that a text gives. Hours are given as a half of the day and the hour in it. -/
structure Parts where
  year : Option Int := none
  yearOfCentury : Option Nat := none
  month : Option Nat := none
  day : Option Nat := none
  dayOfYear : Option Nat := none
  weekday : Option Nat := none
  afternoon : Option Bool := none
  hour : Option Nat := none
  minute : Option Nat := none
  second : Option Nat := none
  nanos : Option Nat := none
  offset : Option Int := none
  deriving DecidableEq, Repr

/-- A field that is given once more has to agree. -/
def agreed? {α : Type} [DecidableEq α] (known : Option α) (value : α) : Option (Option α) :=
  match known with
  | none => some (some value)
  | some other => if other = value then some (some value) else none

/-- A number between two bounds. -/
def within? (low high n : Nat) : Option Nat := if low ≤ n ∧ n ≤ high then some n else none

/-- A number of at least `least` and at most `most` digits, and the rest. -/
def readNumber? (least most : Nat) (s : List Char) : Option (Nat × List Char) :=
  let digits := (s.take most).takeWhile isDigit
  if digits.length < least then none else some (digitsValue digits, s.drop digits.length)

/-- A number of at most `most` digits after blank characters. -/
def readField? (most : Nat) (s : List Char) : Option (Nat × List Char) := readNumber? 1 most (trimStart s)

/-- A year after blank characters: with a sign any number of digits, without one at most four. -/
def readYear? (s : List Char) : Option (Int × List Char) :=
  match trimStart s with
  | '-' :: rest => (readNumber? 1 rest.length rest).map fun (n, rest) => (-(n : Int), rest)
  | '+' :: rest => (readNumber? 1 rest.length rest).map fun (n, rest) => ((n : Int), rest)
  | rest => (readNumber? 1 4 rest).map fun (n, rest) => ((n : Int), rest)

/-- A letter of ASCII in lower case. -/
def asciiLower (c : Char) : Char := if 'A' ≤ c ∧ c ≤ 'Z' then Char.ofNat (c.toNat + 32) else c

/-- What follows a word, the case of letters left aside. -/
def dropWord? (word s : List Char) : Option (List Char) :=
  let start := s.take word.length
  if start.map asciiLower = word.map asciiLower then some (s.drop word.length) else none

/-- The place of the name whose first three letters come next, and what follows them, or the whole name if `full`. -/
def readName? (names : List String) (full : Bool) (s : List Char) : Option (Nat × List Char) :=
  (names.zipIdx).findSome? fun (name, i) =>
    (dropWord? (name.toList.take 3) s).map fun rest =>
      (i, if full then (dropWord? (name.toList.drop 3) rest).getD rest else rest)

/-- The first nine digits of a fraction of a second, as nanoseconds; there may be more. -/
def readFraction? (s : List Char) : Option (Nat × List Char) :=
  let digits := s.takeWhile isDigit
  if digits.isEmpty then none
  else
    let kept := digits.take 9
    some (digitsValue kept * Nat.pow 10 (9 - kept.length), s.drop digits.length)

/-- An offset in seconds: a sign, two digits of hours, a separator, two digits of minutes. -/
def readOffset? (separator : List Char → Option (List Char)) (s : List Char) : Option (Int × List Char) := do
  let (negative, rest) ← match s with
    | '+' :: rest => some (false, rest)
    | '-' :: rest => some (true, rest)
    | '−' :: rest => some (true, rest)
    | _ => none
  let (hours, rest) ← readNumber? 2 2 rest
  let rest ← separator rest
  let (minutes, rest) ← readNumber? 2 2 rest
  let _ ← within? 0 59 minutes
  let seconds : Int := hours * 3600 + minutes * 60
  some (if negative then -seconds else seconds, rest)

namespace Parts

/-- The parts with a full hour. -/
def setHour? (p : Parts) (hour : Nat) : Option Parts := do
  let hour ← within? 0 23 hour
  some { p with afternoon := ← agreed? p.afternoon (12 ≤ hour), hour := ← agreed? p.hour (hour % 12) }

/-- The parts with a month. -/
def setMonth? (p : Parts) (month : Nat) : Option Parts := do
  some { p with month := ← agreed? p.month (← within? 1 12 month) }

/-- Reads a field from the text. -/
def readField? (p : Parts) (s : List Char) : Field → Option (Parts × List Char)
  | .year => do
    let (n, rest) ← readYear? s
    some ({ p with year := ← agreed? p.year n }, rest)
  | .yearOfCentury => do
    let (n, rest) ← Calendar.readField? 2 s
    some ({ p with yearOfCentury := ← agreed? p.yearOfCentury n }, rest)
  | .month _ => do
    let (n, rest) ← Calendar.readField? 2 s
    some (← p.setMonth? n, rest)
  | .monthShort => do
    let (i, rest) ← readName? monthNames false s
    some (← p.setMonth? (i + 1), rest)
  | .monthName => do
    let (i, rest) ← readName? monthNames true s
    some (← p.setMonth? (i + 1), rest)
  | .day _ => do
    let (n, rest) ← Calendar.readField? 2 s
    some ({ p with day := ← agreed? p.day (← within? 1 31 n) }, rest)
  | .dayOfYear => do
    let (n, rest) ← Calendar.readField? 3 s
    some ({ p with dayOfYear := ← agreed? p.dayOfYear (← within? 1 366 n) }, rest)
  | .hour _ => do
    let (n, rest) ← Calendar.readField? 2 s
    some (← p.setHour? n, rest)
  | .halfDayHour _ => do
    let (n, rest) ← Calendar.readField? 2 s
    some ({ p with hour := ← agreed? p.hour ((← within? 1 12 n) % 12) }, rest)
  | .minute _ => do
    let (n, rest) ← Calendar.readField? 2 s
    some ({ p with minute := ← agreed? p.minute (← within? 0 59 n) }, rest)
  | .second _ => do
    let (n, rest) ← Calendar.readField? 2 s
    some ({ p with second := ← agreed? p.second (← within? 0 60 n) }, rest)
  | .milliseconds => do
    let (n, rest) ← readNumber? 3 3 s
    some ({ p with nanos := ← agreed? p.nanos (n * 1000000) }, rest)
  | .fraction => match s with
    | '.' :: rest => do
      let (n, rest) ← readFraction? rest
      some ({ p with nanos := ← agreed? p.nanos n }, rest)
    | _ => some (p, s)
  | .halfDay => do
    let (afternoon, rest) ← match dropWord? ['a', 'm'] s with
      | some rest => some (false, rest)
      | none => (dropWord? ['p', 'm'] s).map (true, ·)
    some ({ p with afternoon := ← agreed? p.afternoon afternoon }, rest)
  | .weekdayShort => do
    let (i, rest) ← readName? weekdayNames false s
    some ({ p with weekday := ← agreed? p.weekday i }, rest)
  | .weekdayName => do
    let (i, rest) ← readName? weekdayNames true s
    some ({ p with weekday := ← agreed? p.weekday i }, rest)
  | .offset | .offsetColon => do
    let (n, rest) ← readOffset? (fun s => some (s.dropWhile fun c => c == ':' || isBlank c)) (trimStart s)
    some ({ p with offset := ← agreed? p.offset n }, rest)

/-- Reads a whole text by a layout. A blank character of the layout stands for any blank characters, also for none. -/
def read? (p : Parts) : Layout → List Char → Option Parts
  | [], s => if s.isEmpty then some p else none
  | .field f :: rest, s => match p.readField? s f with
    | some (p, s) => p.read? rest s
    | none => none
  | .literal c :: rest, s =>
    if isBlank c then p.read? rest (trimStart s)
    else match s with
      | d :: s => if d = c then p.read? rest s else none
      | [] => none

/-- The year. Two digits alone stand for the years 1970 to 2069. -/
def fullYear? (p : Parts) : Option Int :=
  match p.year, p.yearOfCentury with
  | some year, none => some year
  | some year, some short => if 0 ≤ year ∧ year % 100 = short then some year else none
  | none, some short => some (short + if short < 70 then 2000 else 1900)
  | none, none => none

/-- The date. All that is known of it has to agree. -/
def date? (p : Parts) : Option Civil := do
  let year ← p.fullYear?
  let date ← match p.month, p.day, p.dayOfYear with
    | some month, some day, _ => some ⟨year, month, day⟩
    | _, _, some ordinal => if ordinal ≤ yearLength year then some (Civil.ofOrdinal year ordinal) else none
    | _, _, none => none
  let agrees := p.month.getD date.month = date.month ∧ p.day.getD date.day = date.day ∧
    p.dayOfYear.getD date.ordinal = date.ordinal ∧ p.weekday.getD (weekdayOf date.toDays) = weekdayOf date.toDays
  if date.Valid ∧ agrees ∧ minYear ≤ year ∧ year ≤ maxYear then some date else none

/-- The second of the day and the nanoseconds. Seconds may be missing, but not before a fraction. -/
def time? (p : Parts) : Option (Nat × Nat) := do
  let afternoon ← p.afternoon
  let hour ← p.hour
  let minute ← p.minute
  if p.second.isNone ∧ p.nanos.isSome then none
  else
    let second := p.second.getD 0
    let leap := if second = 60 then 1000000000 else 0
    some (((if afternoon then 12 else 0) + hour) * 3600 + minute * 60 + min second 59, leap + p.nanos.getD 0)

/-- The instant of a date and a time at an offset. -/
def at? (p : Parts) (offset : Int) : Option Instant := do
  let date ← p.date?
  let (second, nanos) ← p.time?
  Instant.of? (date.toDays * daySeconds + second - offset) nanos

/-- The instant: at the offset that is given, else at none, else the beginning of the day. -/
def instant? (p : Parts) : Option Instant :=
  let withOffset := do
    let offset ← p.offset
    if offset.natAbs < 86400 then p.at? offset else none
  withOffset.or ((p.at? 0).or do
    let date ← p.date?
    Instant.of? (date.toDays * daySeconds) 0)

end Parts

/-- Reads an instant by a layout. -/
def Layout.read? (layout : Layout) (s : List Char) : Option Instant := do
  let parts ← Parts.read? {} layout s
  parts.instant?

/-- What follows a character. -/
def dropChar? (c : Char) : List Char → Option (List Char)
  | d :: rest => if d = c then some rest else none
  | [] => none

/-- Reads the internet format: all fields with all their digits, a fraction of the second if one likes, an offset. -/
def readInternet? (s : List Char) : Option Instant := do
  let (year, s) ← readNumber? 4 4 s
  let (month, s) ← readNumber? 2 2 (← dropChar? '-' s)
  let (day, s) ← readNumber? 2 2 (← dropChar? '-' s)
  let s ← match s with
    | c :: rest => if c = 'T' ∨ c = 't' ∨ c = ' ' then some rest else none
    | [] => none
  let (hour, s) ← readNumber? 2 2 s
  let (minute, s) ← readNumber? 2 2 (← dropChar? ':' s)
  let (second, s) ← readNumber? 2 2 (← dropChar? ':' s)
  let (nanos, s) ← match s with
    | '.' :: rest => readFraction? rest
    | _ => some (0, s)
  let (offset, s) ← match s with
    | 'Z' :: rest => some (0, rest)
    | 'z' :: rest => some (0, rest)
    | _ => readOffset? (dropChar? ':') s
  if s.isEmpty ∧ offset.natAbs ≤ 86340 then
    let parts : Parts := { year := some (year : Int), month := ← within? 1 12 month, day := ← within? 1 31 day }
    let parts ← parts.setHour? hour
    let parts : Parts :=
      { parts with minute := ← within? 0 59 minute, second := ← within? 0 60 second, nanos := some nanos }
    parts.at? offset
  else none

/-- The layouts that are tried in the end. -/
def commonLayouts : List Layout :=
  let date := fun (separator : Char) =>
    [Piece.field .year, .literal separator, .field (.month true), .literal separator, .field (.day true)]
  let minutes := [Piece.field (.hour true), .literal ':', .field (.minute true)]
  let seconds := minutes ++ [Piece.literal ':', .field (.second true), .field .fraction]
  [date '-' ++ .literal 'T' :: seconds,
    date '-' ++ .literal ' ' :: seconds,
    date '-' ++ .literal ' ' :: minutes,
    date '-',
    date '/',
    [.field (.month true), .literal '/', .field (.day true), .literal '/', .field .year]]

/-- Reads an instant: in the internet format, by the layouts given in turn, or by a common layout. -/
def Instant.read? (s : List Char) (layouts : List Layout) : Option Instant :=
  let s := trim s
  (readInternet? s).or ((layouts ++ commonLayouts).findSome? fun layout => layout.read? s)

end CellExpr.Calendar
