import CellExpr.Evaluation.Traced
import CellExpr.Number.Rounding
import CellExpr.Syntax.Expr
import CellExpr.Value.Equality

/-!
# Operators

What operators do with values that are there. Texts that are numbers count as numbers in arithmetic and in comparisons
with numbers; plus joins texts.
-/

namespace CellExpr

open CellExpr.Value

/-- A value or an error. -/
abbrev Result (α : Type) := Except EvalError α

/-- A result that is an error. -/
def Result.fault {α : Type} (f : Fault) : Result α := .error f.toError

namespace UnaryOp

/-- The operator applied. -/
def apply : UnaryOp → Value → Result Value
  | _, .error e => .error e
  | minus, .number x => .ok (.number (-x))
  | minus, _ => .fault (.expected "number")
  | not, .boolean b => .ok (.boolean !b)
  | not, _ => .fault (.expected "boolean")

end UnaryOp

namespace Value

/-- Arithmetic on two values that stand for numbers. -/
def arithmetic (f : Float → Float → Result Float) (a b : Value) : Result Value :=
  match a.asNumber?, b.asNumber? with
  | some x, some y => (f x y).map .number
  | _, _ => .fault (.expected "number")

/-- Arithmetic that divides. -/
def dividing (f : Float → Float → Float) (x y : Float) : Result Float :=
  if y == 0 then .fault .divisionByZero else .ok (f x y)

/-- Whether the value is a text. -/
def isText : Value → Bool
  | string _ => true
  | _ => false

/-- Whether a value can be joined to a text. -/
def isScalar : Value → Bool
  | string _ | number _ | boolean _ | date _ | null => true
  | _ => false

/-- Two texts are joined, and so are a text and another value unless both stand for numbers; then they are added. -/
def plus (a b : Value) : Result Value :=
  let joins := a.isText && b.isText || (a.isText || b.isText) && (a.asNumber?.isNone || b.asNumber?.isNone)
  if joins then
    if a.isScalar && b.isScalar then .ok (.string (a.text ++ b.text)) else .fault (.cannotAdd a.typeName b.typeName)
  else arithmetic (fun x y => .ok (x + y)) a b

/-- Equality as an operator: null equals itself alone, a number and a text are compared as numbers, and values of two other
kinds differ. -/
def equals (a b : Value) : Result Bool :=
  match a, b with
  | null, null => .ok true
  | null, _ | _, null => .ok false
  | number x, string s =>
    match Number.parse? s with
    | some y => .ok (x == y)
    | none => .fault (.expected "number")
  | string s, number y =>
    match Number.parse? s with
    | some x => .ok (x == y)
    | none => .fault (.expected "number")
  | a, b => .ok (same a b)

/-- The order of two doubles, if both are numbers. -/
def compareNumbers? (x y : Float) : Option Ordering :=
  if x < y then some .lt else if y < x then some .gt else if x == y then some .eq else none

/-- The order of two texts by their characters. -/
def compareTexts (a b : String) : Ordering := compareOfLessAndEq a b

/-- The order of two values. Texts are compared as texts unless both are numbers. -/
def compare (a b : Value) : Result Ordering :=
  match a, b with
  | date x, date y => .ok (x.cmp y)
  | _, _ =>
    match a, b, a.asNumber?, b.asNumber? with
    | _, _, some x, some y =>
      match compareNumbers? x y with
      | some o => .ok o
      | none => .fault .cannotCompareNaN
    | string s, string t, _, _ => .ok (compareTexts s t)
    | _, _, none, none => .fault (.cannotCompare a.typeName b.typeName)
    | _, _, _, _ => .fault (.expected "number")

/-- Both operands of a logical operator at hand. -/
def logical (op : BinaryOp) : Value → Value → Result Value
  | boolean x, boolean y => .ok (.boolean (if op = .and then x && y else x || y))
  | _, _ => .fault (.expected "boolean")

end Value

/-- An operator applied to two values. The first error among them is the result. -/
def BinaryOp.apply (op : BinaryOp) : Value → Value → Result Value
  | .error e, _ => .error e
  | _, .error e => .error e
  | a, b =>
    match op with
    | add => plus a b
    | sub => arithmetic (fun x y => .ok (x - y)) a b
    | mul => arithmetic (fun x y => .ok (x * y)) a b
    | div => arithmetic (dividing (· / ·)) a b
    | mod => arithmetic (dividing Number.remainder) a b
    | eq => (equals a b).map .boolean
    | ne => (equals a b).map fun e => .boolean !e
    | gt => (Value.compare a b).map fun o => .boolean (o == .gt)
    | lt => (Value.compare a b).map fun o => .boolean (o == .lt)
    | ge => (Value.compare a b).map fun o => .boolean (o != .lt)
    | le => (Value.compare a b).map fun o => .boolean (o != .gt)
    | and | or => logical op a b

end CellExpr
