import CellExpr.Json.Reader
import CellExpr.Value.Documents

/-!
# Tables of rows

A file of rows has a JSON object on each line. All rows have the same columns: those of all lines, in the order in which they
first occur. A cell that a line lacks is null.
-/

namespace CellExpr.CommandLine

/-- The fields of the object that a text is. -/
def readObject? (text : String) : Option (List (String × Json)) :=
  match Json.parse? text with
  | some (.object fields) => some fields
  | _ => none

/-- The names of the fields of an object. -/
def fieldNames (fields : List (String × Json)) : List String := fields.map (·.1)

/-- The lines of a text, without their ends. A carriage return belongs to the end of its line. -/
def lines (s : List Char) : List (List Char) :=
  let pieces := Text.piecesBetween (· == '\n') s
  let last := (pieces.getLast?).getD []
  (pieces.dropLast.map fun line => if line.getLast? = some '\r' then line.dropLast else line) ++
    if last.isEmpty then [] else [last]

/-- Names with those of another line after them. Each name stands where it first occurs. -/
def addNames (columns names : List String) : List String :=
  names.foldl (fun columns name => if columns.contains name then columns else columns ++ [name]) columns

/-- The objects on lines, the first of which has a number. Blank lines are left out. Of lines that are no objects the first
one's number is given. -/
def readObjects : (number : Nat) → List (List Char) → Except Nat (List (List (String × Json)))
  | _, [] => .ok []
  | number, line :: rest =>
    if (Text.trim line).isEmpty then readObjects (number + 1) rest
    else
      match readObject? (String.ofList line) with
      | none => .error number
      | some fields => (readObjects (number + 1) rest).map (fields :: ·)

/-- The rows of objects. They are numbered from 0. -/
def rowsOf (objects : List (List (String × Json))) : List (Row Value) :=
  let columns := objects.foldl (fun columns fields => addNames columns (fieldNames fields)) []
  objects.zipIdx.map fun (fields, i) => Row.ofFields i columns fields

/-- The rows of a file, or the number of the first line that is no object, counted from 1. -/
def readRows (text : String) : Except Nat (List (Row Value)) := (readObjects 1 (lines text.toList)).map rowsOf

end CellExpr.CommandLine
