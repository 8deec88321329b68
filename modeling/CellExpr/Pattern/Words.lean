import CellExpr.Pattern.CharClass
import CellExpr.Text.Blank
import CellExpr.Text.Category
import CellExpr.Text.Property

/-!
# Classes with names of one letter

Digits, blank characters and word characters, in all of Unicode or in ASCII alone.
-/

namespace CellExpr.Pattern

open CellExpr.Text

/-- The class of a general category. -/
def ofCategory (name : String) : CharClass := .ofIntervals ((NamedTable.find? categoryTables name).getD [])

/-- The decimal digits of all scripts. -/
def digitClass : CharClass := ofCategory "nd"

/-- Blank characters. -/
def blankClass : CharClass := ⟨blankTable⟩

/-- The two characters that join or part letters without being seen. -/
def joinerTable : Intervals := [(0x200C, 0x200D)]

/-- Letters, marks, decimal digits, characters like the underscore, and joiners. -/
def wordClass : CharClass :=
  .ofIntervals ((NamedTable.find? propertyTables "alphabetic").getD [] ++ joinerTable ++
    (["mc", "me", "mn", "nd", "pc"].flatMap fun name => (ofCategory name).intervals))

/-- The digits of ASCII. -/
def asciiDigitClass : CharClass := ⟨[(48, 57)]⟩

/-- The blank characters of ASCII. -/
def asciiBlankClass : CharClass := ⟨[(9, 13), (32, 32)]⟩

/-- The word characters of ASCII. -/
def asciiWordClass : CharClass := ⟨[(48, 57), (65, 90), (95, 95), (97, 122)]⟩

/-- A word character. -/
def isWordChar (c : Char) : Bool := wordClass.has c

/-- A word character of ASCII. -/
def isAsciiWord (c : Char) : Bool := asciiWordClass.has c

/-- The classes that have names between `[:` and `:]`. -/
def asciiClass? (name : String) : Option CharClass :=
  match name with
  | "alnum" => some ⟨[(48, 57), (65, 90), (97, 122)]⟩
  | "alpha" => some ⟨[(65, 90), (97, 122)]⟩
  | "ascii" => some ⟨[(0, 127)]⟩
  | "blank" => some ⟨[(9, 9), (32, 32)]⟩
  | "cntrl" => some ⟨[(0, 31), (127, 127)]⟩
  | "digit" => some asciiDigitClass
  | "graph" => some ⟨[(33, 126)]⟩
  | "lower" => some ⟨[(97, 122)]⟩
  | "print" => some ⟨[(32, 126)]⟩
  | "punct" => some ⟨[(33, 47), (58, 64), (91, 96), (123, 126)]⟩
  | "space" => some asciiBlankClass
  | "upper" => some ⟨[(65, 90)]⟩
  | "word" => some asciiWordClass
  | "xdigit" => some ⟨[(48, 57), (65, 70), (97, 102)]⟩
  | _ => none

end CellExpr.Pattern
