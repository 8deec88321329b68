import CellExpr.Calendar.Instant

/-!
# Date layouts

How an instant is laid out as text: fields and literal characters. A layout is described by letters (`yyyy-MM-dd`); runs
of a letter choose the form of a field, quotes enclose literal text, and each field has a short code of its own.
-/

namespace CellExpr.Calendar

/-- A field of a layout. The flag of a number says whether it is filled with zeros. -/
inductive Field where
  | year
  | yearOfCentury
  | month (filled : Bool)
  | monthShort
  | monthName
  | day (filled : Bool)
  | dayOfYear
  | hour (filled : Bool)
  | halfDayHour (filled : Bool)
  | minute (filled : Bool)
  | second (filled : Bool)
  | milliseconds
  /-- A point and digits, both of which may be missing. -/
  | fraction
  | halfDay
  | weekdayShort
  | weekdayName
  | offset
  | offsetColon
  deriving DecidableEq, Repr

/-- A piece of a layout. -/
inductive Piece where
  | field (f : Field)
  | literal (c : Char)
  deriving DecidableEq, Repr

/-- A layout. -/
abbrev Layout := List Piece

/-- The code of a numeric field. -/
def numberCode (filled : Bool) (letter : String) : String := (if filled then "%" else "%-") ++ letter

/-- The code of a field. -/
def Field.code : Field → String
  | year => "%Y"
  | yearOfCentury => "%y"
  | month filled => numberCode filled "m"
  | monthShort => "%b"
  | monthName => "%B"
  | day filled => numberCode filled "d"
  | dayOfYear => "%j"
  | hour filled => numberCode filled "H"
  | halfDayHour filled => numberCode filled "I"
  | minute filled => numberCode filled "M"
  | second filled => numberCode filled "S"
  | milliseconds => "%3f"
  | fraction => "%.f"
  | halfDay => "%p"
  | weekdayShort => "%a"
  | weekdayName => "%A"
  | offset => "%z"
  | offsetColon => "%:z"

/-- The code of a piece. A percent sign that stands for itself is doubled. -/
def Piece.code : Piece → String
  | field f => f.code
  | literal c => if c = '%' then "%%" else c.toString

/-- The codes of all pieces. -/
def Layout.code (layout : Layout) : String := String.join (layout.map Piece.code)

/-- The field that a run of a letter stands for. -/
def Field.ofRun? (letter : Char) (count : Nat) : Option Field :=
  if letter = 'y' then some (if count = 2 then yearOfCentury else year)
  else if letter = 'M' then some (if count ≤ 2 then month (count = 2) else if count = 3 then monthShort else monthName)
  else if letter = 'd' then some (day (1 < count))
  else if letter = 'D' then some dayOfYear
  else if letter = 'H' then some (hour (1 < count))
  else if letter = 'h' then some (halfDayHour (1 < count))
  else if letter = 'm' then some (minute (1 < count))
  else if letter = 's' then some (second (1 < count))
  else if letter = 'S' then some milliseconds
  else if letter = 'a' then some halfDay
  else if letter = 'E' then some (if count ≤ 3 then weekdayShort else weekdayName)
  else if letter = 'Z' then some offset
  else if letter = 'X' then some offsetColon
  else none

/-- The pieces that a run of one character stands for. -/
def runPieces (c : Char) (count : Nat) : Layout :=
  match Field.ofRun? c count with
  | some f => [.field f]
  | none => List.replicate count (.literal c)

/-- Where the reader of a letter pattern stands. -/
inductive PatternState where
  /-- Between two runs. -/
  | outside
  /-- After `count` characters of a run. -/
  | inRun (c : Char) (count : Nat)
  /-- After a quote that opens a quoted text or is the first of a doubled one. -/
  | opened
  /-- Inside a quoted text. -/
  | quoted
  deriving DecidableEq, Repr

/-- The pieces that end with the state. -/
def PatternState.pending : PatternState → Layout
  | inRun c count => runPieces c count
  | _ => []

/-- The layout that letters describe, read on from a state. A doubled quote outside quoted text is a quote; a quoted text
that is not closed reaches to the end. -/
def Layout.ofLettersFrom : PatternState → List Char → Layout
  | state, [] => state.pending
  | .outside, c :: rest => if c = '\x27' then ofLettersFrom .opened rest else ofLettersFrom (.inRun c 1) rest
  | .inRun d count, c :: rest =>
    if c = d then ofLettersFrom (.inRun d (count + 1)) rest
    else runPieces d count ++ if c = '\x27' then ofLettersFrom .opened rest else ofLettersFrom (.inRun c 1) rest
  | .opened, c :: rest =>
    if c = '\x27' then .literal c :: ofLettersFrom .outside rest else .literal c :: ofLettersFrom .quoted rest
  | .quoted, c :: rest => if c = '\x27' then ofLettersFrom .outside rest else .literal c :: ofLettersFrom .quoted rest

/-- The layout that letters describe. -/
def Layout.ofLetters (letters : List Char) : Layout := ofLettersFrom .outside letters

end CellExpr.Calendar
