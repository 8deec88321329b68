import CellExpr.Function.Arguments
import CellExpr.Number.Rounding

/-!
# Functions on numbers
-/

namespace CellExpr.MathFunctions

open CellExpr.Args CellExpr.Number

/-- A function of one number. -/
def unary (f : Float → Outcome Float) (args : List Value) : Outcome Value := do
  return .number (← f (← numberAt args 0))

/-- A function of two numbers. -/
def binary (f : Float → Float → Outcome Float) (args : List Value) : Outcome Value := do
  let x ← numberAt args 0
  let y ← numberAt args 1
  return .number (← f x y)

/-- A function of positive numbers. -/
def ofPositive (name : String) (f : Float → Float) (x : Float) : Outcome Float :=
  if x ≤ 0 then .fault (.notPositive name) else .ok (f x)

/-- The square root. -/
def root (x : Float) : Outcome Float := if x < 0 then .fault .negativeRoot else .ok x.sqrt

/-- The remainder of two numbers without their fractions, with the sign of the first one. -/
def wholeRemainder (x y : Float) : Outcome Float :=
  let b := truncateToWord y
  if b = 0 then .fault .divisionByZero else Number.ofInt <$> .remainder (truncateToWord x) b

/-- The best of all arguments, found two by two. -/
def fold (better : Float → Float → Float) (args : List Value) : Outcome Value := do
  let first ← numberAt args 0
  let best ← (← after args 1).foldlM (fun best v => return better best (← number v)) first
  return .number best

/-- The sum of the numbers of an array. -/
def sum (args : List Value) : Outcome Value := do
  let items ← arrayAt args 0
  let total ← items.foldlM (fun total v => return total + (← number v)) (0 : Float)
  return .number total

/-- The functions that take one number. -/
def unaries : List (String × (Float → Outcome Float)) := [
  ("abs", fun x => .ok x.abs),
  ("ceil", fun x => .ok (ceil x)),
  ("floor", fun x => .ok (floor x)),
  ("round", fun x => .ok (roundHalfUp x)),
  ("exp", fun x => .ok x.exp),
  ("ln", ofPositive "ln" Float.log),
  ("log", ofPositive "log" Float.log10),
  ("even", fun x => .ok (awayFromZero false x)),
  ("odd", fun x => .ok (awayFromZero true x)),
  ("sqrt", root)]

/-- The functions that take two numbers. -/
def binaries : List (String × (Float → Float → Outcome Float)) := [
  ("mod", wholeRemainder),
  ("pow", fun x y => .ok (x.pow y))]

/-- The functions that take one number or more. -/
def folds : List (String × (Float → Float → Float)) := [("min", least), ("max", greatest)]

/-- All bodies by their names. -/
def bodies : List (String × (List Value → Outcome Value)) :=
  unaries.map (fun (name, f) => (name, unary f)) ++ binaries.map (fun (name, f) => (name, binary f)) ++
    folds.map (fun (name, f) => (name, fold f)) ++ [("sum", sum)]

/-- A body by its name, with no look at its declaration. -/
def apply (name : String) (args : List Value) : Outcome Value :=
  match bodies.lookup name with
  | some f => f args
  | none => .fault (.unknownMath name)

/-- The functions on numbers. -/
def all : List Function :=
  unaries.map (fun (name, f) => (Function.new name (body (unary f))).taking [.number]) ++
    binaries.map (fun (name, f) => (Function.new name (body (binary f))).taking [.number, .number]) ++
    folds.map (fun (name, f) => ((Function.new name (body (fold f))).withArity 1 none).variadic .number) ++
    [(Function.new "sum" (body sum)).taking [.array] |>.describedAs "sum(array) adds the numbers of an array"]

end CellExpr.MathFunctions
