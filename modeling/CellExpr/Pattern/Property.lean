import CellExpr.Pattern.CharClass
import CellExpr.Text.Age
import CellExpr.Text.Blank
import CellExpr.Text.Category
import CellExpr.Text.GraphemeBreak
import CellExpr.Text.Property
import CellExpr.Text.Script
import CellExpr.Text.SentenceBreak
import CellExpr.Text.WordBreak

/-!
# Classes by property

The class that a name in `\p` stands for: a binary property, a general category or a script, or one value of a property that
has several. Case, blanks, hyphens and underscores in names are left aside, and so is a leading `is`.
-/

namespace CellExpr.Pattern

open CellExpr.Text

/-- A letter of ASCII in lower case. -/
def asciiLowered (c : Char) : Char := if 'A' ≤ c ∧ c ≤ 'Z' then Char.ofNat (c.toNat + 32) else c

/-- A name without what is left aside. The name `isc` keeps its beginning. -/
def plainName (name : List Char) : String :=
  let lowered := name.map asciiLowered
  let hasIs := lowered.take 2 == ['i', 's']
  let kept := (if hasIs then lowered.drop 2 else lowered).filter fun c =>
    c.toNat < 128 && c != ' ' && c != '_' && c != '-'
  String.ofList (if hasIs && kept == ['c'] then ['i', 's', 'c'] else kept)

/-- The class with a name, among the tables of a property. -/
def tableClass? (tables : List NamedTable) (name : String) : Option CharClass :=
  (NamedTable.find? tables name).map .ofIntervals

/-- The class of a general category or of a group of them. -/
def categoryClass? (name : String) : Option CharClass :=
  if name = "any" then some .all
  else if name = "ascii" then some ⟨[(0, 127)]⟩
  else if name = "assigned" then (tableClass? categoryTables "cn").map (·.complement)
  else match categoryGroups.find? (·.1.contains name) with
    | some (_, members) => some (.ofIntervals (members.flatMap fun m => (NamedTable.find? categoryTables m).getD []))
    | none => tableClass? categoryTables name

/-- The class of a script. -/
def scriptClass? (name : String) : Option CharClass := tableClass? scriptTables name

/-- The class of the characters that are used in a script. -/
def scriptUseClass? (name : String) : Option CharClass := do
  let entry ← scriptTables.find? (·.names.contains name)
  let code := entry.names.headD ""
  let table := fun tables => (tableClass? tables code).getD .empty
  some (((CharClass.ofIntervals (.ofLines entry.lines)).diff (table scriptRemovals)).union (table scriptAdditions))

/-- The class of the characters that a version of Unicode has: those it added and those of all versions before it. -/
def ageClass? (name : String) : Option CharClass :=
  (ageTables.findIdx? (·.names.contains name)).map fun i =>
    .ofIntervals ((ageTables.take (i + 1)).flatMap fun t => Intervals.ofLines t.lines)

/-- The syllables of the Korean script. -/
def hangulSyllables : CharClass := ⟨[(0xAC00, 0xD7A3)]⟩

/-- The class of a part in grapheme clusters. A Korean syllable that is not made of two letters is made of three. -/
def graphemeBreakClass? (name : String) : Option CharClass :=
  if name = "lvt" then (tableClass? graphemeBreakTables "lv").map hangulSyllables.diff
  else tableClass? graphemeBreakTables name

/-- The class of a binary property. -/
def binaryClass? (name : String) : Option CharClass :=
  if name = "wspace" ∨ name = "whitespace" ∨ name = "space" then some ⟨blankTable⟩ else tableClass? propertyTables name

/-- The class that a single name stands for. -/
def namedClass? (name : List Char) : Option CharClass :=
  let name := plainName name
  (binaryClass? name).or ((categoryClass? name).or (scriptClass? name))

/-- The class of the characters whose property has a value. -/
def valueClass? (property value : List Char) : Option CharClass :=
  let value := plainName value
  match plainName property with
  | "gc" | "generalcategory" => categoryClass? value
  | "sc" | "script" => scriptClass? value
  | "scx" | "scriptextensions" => scriptUseClass? value
  | "age" => ageClass? value
  | "gcb" | "graphemeclusterbreak" => graphemeBreakClass? value
  | "wb" | "wordbreak" => tableClass? wordBreakTables value
  | "sb" | "sentencebreak" => tableClass? sentenceBreakTables value
  | _ => none

end CellExpr.Pattern
