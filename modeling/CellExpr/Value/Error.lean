/-!
# Errors as values

An error has a kind and a message, and may have been caused by another one, and so on. The errors that the language itself
brings about are faults; each has its kind and its wording in one place.
-/

namespace CellExpr

/-- The kind of an error. -/
inductive ErrorKind where
  | type
  | arity
  | unknownFunction
  | unknownVariable
  | index
  | field
  | semantic
  deriving DecidableEq, Repr

/-- A kind and a message. -/
structure Problem where
  kind : ErrorKind
  message : String
  deriving DecidableEq, Repr

/-- An error: a problem, and the problems that caused it, the nearest first. -/
structure EvalError extends Problem where
  causes : List Problem := []
  deriving DecidableEq, Repr

namespace EvalError

/-- Whether the error comes from the kinds or the number of operands. -/
def isTypeError (e : EvalError) : Bool := e.kind = .type || e.kind = .arity

/-- The text of a problem and its causes. -/
def chainText (message : String) : List Problem → String
  | [] => message
  | cause :: rest => message ++ " (caused by: " ++ chainText cause.message rest ++ ")"

/-- The text of an error. -/
def text (e : EvalError) : String := chainText e.message e.causes

/-- The error with another one as its cause. -/
def causedBy (e cause : EvalError) : EvalError := { e with causes := cause.toProblem :: cause.causes }

end EvalError

/-- What goes wrong in an evaluation. -/
inductive Fault where
  | unknownVariable (name : String)
  | unknownFunction (name : String)
  /-- An object of the named type has no such field. -/
  | noField (type name : String)
  /-- A value of the named type has no fields. -/
  | notAnObject (type name : String)
  /-- An object of the named type has nothing under the key. -/
  | noEntry (type key : String)
  | notIndexable (type : String)
  | outOfRange (position : String) (length : Nat)
  | outsideSequence (position : String)
  | expected (what : String)
  | wrongCount (name wanted : String) (count : Nat)
  | wrongKind (name wanted : String) (position : Nat) (type : String)
  | cannotAdd (left right : String)
  | cannotCompare (left right : String)
  | cannotCompareNaN
  | divisionByZero
  | conditionOfIf
  | conditionOfFilter
  | notAnArray (form type : String)
  | boundsOfRange
  | zeroStep
  /-- A step does not move a loop on from where it is. -/
  | tooSmallStep (step place : String)
  | noBody (form : String)
  | notACount (text : String)
  | negativeRoot
  | notPositive (name : String)
  | unknownMath (name : String)
  | unknownLogic (name : String)
  | cannotSort (type : String)
  | mixedSort
  | invalidPattern
  | invalidJson
  | formatOfOther (type : String)
  | notANumber (text : String)
  | notConvertible (type : String)
  | notADate (text : String)
  | unknownPart (name : String)
  | unknownUnit (name : String)
  | dateOutOfRange
  | unitOfTexts
  | incomparableKinds
  /-- Something that has to be there is not. -/
  | missing
  deriving DecidableEq, Repr

namespace Fault

/-- The kind of a fault. -/
def kind : Fault → ErrorKind
  | unknownVariable _ => .unknownVariable
  | unknownFunction _ => .unknownFunction
  | noField .. | notAnObject .. | noEntry .. => .field
  | notIndexable _ | outOfRange .. | outsideSequence _ => .index
  | wrongCount .. => .arity
  | expected _ | wrongKind .. | cannotAdd .. | cannotCompare .. | conditionOfIf | conditionOfFilter | notAnArray ..
  | boundsOfRange | cannotSort _ | mixedSort | formatOfOther _ | notConvertible _ | unitOfTexts
  | incomparableKinds => .type
  | _ => .semantic

/-- The wording of a fault, without what goes before every type error. -/
def wording : Fault → String
  | unknownVariable name => s!"unknown variable '{name}'"
  | unknownFunction name => s!"unknown function '{name}'"
  | noField type name => s!"{type} has no field '{name}'"
  | notAnObject type name => s!"cannot access field '{name}' of {type}"
  | noEntry type key => s!"{type} has no entry {key}"
  | notIndexable type => s!"cannot index into {type}"
  | outOfRange position length => s!"index {position} out of range for length {length}"
  | outsideSequence position => s!"index {position} out of range"
  | expected what => s!"expected {what}"
  | wrongCount name wanted count => s!"{name} expects {wanted} arguments, got {count}"
  | wrongKind name wanted position type => s!"{name} expects {wanted} as argument {position}, got {type}"
  | cannotAdd left right => s!"cannot add {left} and {right}"
  | cannotCompare left right => s!"cannot compare {left} and {right}"
  | cannotCompareNaN => "cannot compare NaN"
  | divisionByZero => "division by zero"
  | conditionOfIf => "if condition must be boolean"
  | conditionOfFilter => "filter condition must be boolean"
  | notAnArray form type => s!"{form} expects an array, got {type}"
  | boundsOfRange => "forRange expects numeric bounds"
  | zeroStep => "forRange step must not be zero"
  | tooSmallStep step place => s!"forRange step {step} is too small to advance past {place}"
  | noBody form => s!"{form} is missing its body"
  | notACount text => s!"expected a non-negative integer, got {text}"
  | negativeRoot => "sqrt of a negative number"
  | notPositive name => s!"{name} expects a positive number"
  | unknownMath name => s!"unknown math function {name}"
  | unknownLogic name => s!"unknown logical function {name}"
  | cannotSort type => s!"cannot sort {type} values"
  | mixedSort => "cannot sort an array of mixed types"
  | invalidPattern => "invalid regular expression"
  | invalidJson => "cannot parse JSON"
  | formatOfOther type => s!"toString format applies to dates, got {type}"
  | notANumber text => s!"cannot parse '{text}' as a number"
  | notConvertible type => s!"cannot convert {type} to number"
  | notADate text => s!"cannot parse '{text}' as a date"
  | unknownPart name => s!"unknown date part '{name}'"
  | unknownUnit name => s!"unknown time unit '{name}'"
  | dateOutOfRange => "date out of range"
  | unitOfTexts => "diff of strings takes no unit"
  | incomparableKinds => "diff expects two dates or two strings"
  | missing => "missing argument"

/-- The message of a fault. -/
def message (f : Fault) : String :=
  if f.kind = .type ∨ f.kind = .arity then "type error: " ++ f.wording else f.wording

/-- The error that a fault brings about. -/
def toError (f : Fault) : EvalError := { kind := f.kind, message := f.message }

instance : Coe Fault EvalError := ⟨toError⟩

end Fault

end CellExpr
