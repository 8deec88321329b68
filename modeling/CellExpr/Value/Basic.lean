import CellExpr.Calendar.Instant
import CellExpr.Json.Document
import CellExpr.Number.Reading
import CellExpr.Pattern.Regex
import CellExpr.Value.Error

/-!
# Values

What expressions evaluate to. Structures of the host (the current cell, the cells of a row, the row, a JSON object) are
objects: they have a type of their own and fields.
-/

namespace CellExpr

open CellExpr.Calendar

/-- One row of a table: its number, two marks, and a cell for each column in order. A column name may occur twice. -/
structure Row (α : Type) where
  index : Nat
  starred : Bool := false
  flagged : Bool := false
  cells : List (String × α)

/-- A structure of the host. -/
inductive HostObject (α : Type) where
  /-- The cell with a value. -/
  | cell (value : α)
  /-- The cells of a row by the names of their columns. -/
  | cells (row : Row α)
  | row (row : Row α)
  /-- A JSON object. -/
  | record (fields : List (String × Json))

/-- A value. -/
inductive Value where
  | string (s : String)
  | number (x : Float)
  | boolean (b : Bool)
  | date (d : Instant)
  | array (items : List Value)
  | regex (r : Regex)
  | error (e : EvalError)
  | null
  | object (o : HostObject Value)

instance : Inhabited Value := ⟨.null⟩

instance : Coe EvalError Value := ⟨.error⟩

/-- The kind of a value. -/
inductive Kind where
  | string
  | number
  | boolean
  | date
  | array
  | regex
  | error
  | null
  | object
  deriving DecidableEq, Repr

/-- The name of a kind. -/
def Kind.name : Kind → String
  | string => "string"
  | number => "number"
  | boolean => "boolean"
  | date => "date"
  | array => "array"
  | regex => "regex"
  | error => "error"
  | null => "null"
  | object => "object"

/-- The name of the type of an object. -/
def HostObject.typeName {α : Type} : HostObject α → String
  | cell _ => "cell"
  | cells _ => "cells"
  | row _ => "row"
  | record _ => "object"

namespace Value

/-- The kind of a value. -/
def kind : Value → Kind
  | string _ => .string
  | number _ => .number
  | boolean _ => .boolean
  | date _ => .date
  | array _ => .array
  | regex _ => .regex
  | error _ => .error
  | null => .null
  | object _ => .object

/-- The name of the type of a value. -/
def typeName : Value → String
  | object o => o.typeName
  | v => v.kind.name

/-- The value of a text. -/
def ofChars (s : List Char) : Value := .string (String.ofList s)

/-- The array of some texts. -/
def ofTexts (texts : List (List Char)) : Value := .array (texts.map ofChars)

/-- The value of a count. -/
def ofNat (n : Nat) : Value := .number (Number.ofNat n)

/-- Whether the value is an error. -/
def isError : Value → Bool
  | error _ => true
  | _ => false

/-- Whether the value is null. -/
def isNull : Value → Bool
  | null => true
  | _ => false

/-- Whether the value is null or the empty text. -/
def isBlank : Value → Bool
  | null => true
  | string s => s.isEmpty
  | _ => false

/-- The number that a value stands for: itself, or a text that is a number in full. -/
def asNumber? : Value → Option Float
  | number x => some x
  | string s => Number.parse? s
  | _ => none

/-- The value, or its error. -/
def toExcept : Value → Except EvalError Value
  | error e => .error e
  | v => .ok v

/-- A value or an error, as a value. -/
def ofExcept : Except EvalError Value → Value
  | .error e => .error e
  | .ok v => v

end Value

namespace Row

variable {α : Type}

/-- The row with named columns and some cells: missing ones are filled, and those without a column are left out. -/
def ofCells (index : Nat) (columns : List String) (cells : List α) (missing : α) : Row α :=
  { index, cells := columns.zipIdx.map fun (column, i) => (column, cells.getD i missing) }

/-- The names of the columns. -/
def columns (r : Row α) : List String := r.cells.map (·.1)

/-- The cell of the first column with a name. -/
def cell? (r : Row α) (column : String) : Option α := r.cells.lookup column

end Row

end CellExpr
