import CellExpr.Value.Documents

/-!
# Scopes

Variables and their values in frames, the innermost first. A name stands for its value in the innermost frame that has it;
leaving a frame forgets what was set in it alone.
-/

namespace CellExpr

/-- The variables of one frame. Each name occurs once. -/
abbrev Frame := List (String × Value)

namespace Frame

/-- The frame with a variable set. -/
def set (name : String) (value : Value) : Frame → Frame
  | [] => [(name, value)]
  | (n, v) :: rest => if n = name then (name, value) :: rest else (n, v) :: Frame.set name value rest

/-- The frame in which variables are set one after the other. -/
def ofPairs (pairs : List (String × Value)) : Frame := pairs.foldl (fun f (name, value) => f.set name value) []

/-- The frame of parameters and their values. What has no counterpart is left out. -/
def ofParams (params : List String) (values : List Value) : Frame := ofPairs (params.zip values)

/-- The names of the variables. -/
def names (f : Frame) : List String := f.map (·.1)

end Frame

/-- Frames, the innermost first. -/
abbrev Scope := List Frame

namespace Scope

/-- The value of a variable. -/
def get? (s : Scope) (name : String) : Option Value := s.findSome? fun f => f.lookup name

/-- The scope with a frame inside it. -/
def enter (s : Scope) (f : Frame) : Scope := f :: s

/-- The scope with a variable set in its innermost frame. -/
def set (name : String) (value : Value) : Scope → Scope
  | [] => [[(name, value)]]
  | f :: rest => f.set name value :: rest

/-- The scope in which a row is looked at from one of its columns. -/
def ofCell (r : Row Value) (column : String) : Scope :=
  let value := (r.cell? column).getD .null
  [Frame.ofPairs [
    ("value", value),
    ("cell", .object (.cell value)),
    ("cells", .object (.cells r)),
    ("row", .object (.row r)),
    ("rowIndex", .ofNat r.index),
    ("columnName", .string column)]]

end Scope

end CellExpr
