import CellExpr.Function.Arguments

/-!
# Functions on truth values, and functions that look into values

The latter see errors as they are; an error holds no data, so it counts as blank.
-/

namespace CellExpr.LogicFunctions

open CellExpr.Args

/-- Truth values joined two by two. -/
def joined (join : Bool → Bool → Bool) (start : Bool) (args : List Value) : Outcome Value := do
  let _ ← nth args 0
  let result ← args.foldlM (fun result v => return join result (← boolean v)) start
  return .boolean result

/-- The opposite. -/
def opposite (args : List Value) : Outcome Value := do
  return .boolean !(← boolean (← nth args 0))

/-- What is asked of one value. -/
def test (p : Value → Bool) (args : List Value) : Outcome Value := do
  return .boolean (p (← nth args 0))

/-- Whether a value is a number or a text that is one. -/
def isNumeric : Value → Bool
  | .number x => !x.isNaN
  | .string s => (Number.parse? s).isSome
  | _ => false

/-- Whether a value is the empty text. -/
def isEmptyText : Value → Bool
  | .string s => s.isEmpty
  | _ => false

/-- The message of an error, without its causes. -/
def errorMessage (args : List Value) : Outcome Value := do
  match ← nth args 0 with
  | .error e => return .string e.message
  | _ => return .null

/-- The name of the type of a value. -/
def typeOf (args : List Value) : Outcome Value := do
  return .string (← nth args 0).typeName

/-- The first argument that is neither null nor an error. -/
def coalesce (args : List Value) : Outcome Value := do
  let _ ← nth args 0
  return (args.find? fun v => !v.isNull && !v.isError).getD .null

/-- Functions that join truth values. -/
def joins : List (String × (List Value → Outcome Value)) := [
  ("and", joined (· && ·) true),
  ("or", joined (· || ·) false),
  ("xor", joined (· != ·) false)]

/-- Functions that look into one value. -/
def tests : List (String × (List Value → Outcome Value)) := [
  ("isNull", test Value.isNull),
  ("isNotNull", test fun v => !v.isNull && !v.isError),
  ("isBlank", test fun v => v.isBlank || v.isError),
  ("isNonBlank", test fun v => !v.isBlank && !v.isError),
  ("isError", test Value.isError),
  ("isNumeric", test isNumeric),
  ("isEmptyString", test isEmptyText),
  ("errorMessage", errorMessage),
  ("type", typeOf)]

/-- All bodies by their names. -/
def bodies : List (String × (List Value → Outcome Value)) :=
  joins ++ [("not", opposite)] ++ tests ++ [("coalesce", coalesce)]

/-- A body by its name, with no look at its declaration. -/
def apply (name : String) (args : List Value) : Outcome Value :=
  match bodies.lookup name with
  | some f => f args
  | none => .fault (.unknownLogic name)

/-- The functions on truth values, and those that look into values. -/
def all : List Function :=
  joins.map (fun (name, f) => ((Function.new name (body f)).withArity 1 none).variadic .boolean) ++
    [(Function.new "not" (body opposite)).taking [.boolean]] ++
    tests.map (fun (name, f) => ((Function.new name (body f)).taking [.any]).acceptingErrors) ++
    [((((Function.new "coalesce" (body coalesce)).withArity 1 none).variadic .any).acceptingErrors).describedAs
      "coalesce(a, b, ...) returns the first argument that is neither null nor an error"]

end CellExpr.LogicFunctions
