import CellExpr.Evaluation.Checked
import CellExpr.Function.Descriptor

/-!
# Arguments

How bodies take their arguments. A body asks only for places that its declaration promises; an argument of a wrong kind
is a fault.
-/

namespace CellExpr.Args

/-- The argument at a place that has one. -/
def nth (args : List Value) (position : Nat) : Outcome Value := .elementAt args position

/-- The arguments after those that a body has places for. -/
def after (args : List Value) (count : Nat) : Outcome (List Value) := .partFrom args count

/-- The text that an argument is. -/
def text : Value → Outcome String
  | .string s => .ok s
  | _ => .fault (.expected "string")

/-- The number that an argument is. -/
def number : Value → Outcome Float
  | .number x => .ok x
  | _ => .fault (.expected "number")

/-- The truth value that an argument is. -/
def boolean : Value → Outcome Bool
  | .boolean b => .ok b
  | _ => .fault (.expected "boolean")

/-- The array that an argument is. -/
def array : Value → Outcome (List Value)
  | .array items => .ok items
  | _ => .fault (.expected "array")

/-- The date that an argument is. -/
def date : Value → Outcome Calendar.Instant
  | .date d => .ok d
  | _ => .fault (.expected "date")

/-- The text at a place. -/
def textAt (args : List Value) (position : Nat) : Outcome String := do text (← nth args position)

/-- The number at a place. -/
def numberAt (args : List Value) (position : Nat) : Outcome Float := do number (← nth args position)

/-- The array at a place. -/
def arrayAt (args : List Value) (position : Nat) : Outcome (List Value) := do array (← nth args position)

/-- The number at a place that may be left empty. -/
def numberAt? (args : List Value) (position : Nat) : Outcome (Option Float) :=
  match args[position]? with
  | none => .ok none
  | some v => some <$> number v

/-- The truth value at a place that may be left empty. -/
def flagAt (args : List Value) (position : Nat) (default : Bool) : Outcome Bool :=
  match args[position]? with
  | none => .ok default
  | some v => boolean v

/-- A body that looks at its arguments alone. -/
def body (f : List Value → Outcome Value) : Body := fun args _ => f args

end CellExpr.Args
