import CellExpr.Evaluation.Scope
import CellExpr.Evaluation.Traced

/-!
# Functions

A function has a name, a body, and a declaration of what it takes: how many arguments and of which kinds. A body runs only
on arguments that fit. An error among the arguments is the result, unless the function looks into errors.
-/

namespace CellExpr

/-- The kinds that a place of arguments takes. -/
inductive Param where
  | any
  | kinds (kinds : List Kind)
  deriving DecidableEq, Repr

namespace Param

/-- One kind alone. -/
def only (k : Kind) : Param := .kinds [k]

/-- A text. -/
def string : Param := only .string

/-- A number. -/
def number : Param := only .number

/-- A truth value. -/
def boolean : Param := only .boolean

/-- An array. -/
def array : Param := only .array

/-- A date. -/
def date : Param := only .date

/-- A text or a regular expression. -/
def pattern : Param := .kinds [.string, .regex]

/-- What has a text of its own. -/
def textLike : Param := .kinds [.string, .number, .boolean, .date]

/-- A text or an array. -/
def sequence : Param := .kinds [.string, .array]

/-- Whether a value is taken. -/
def accepts (p : Param) (v : Value) : Bool :=
  match p with
  | any => true
  | kinds ks => ks.contains v.kind

/-- The kinds in words. -/
def describe : Param → String
  | any => "any value"
  | kinds ks => " or ".intercalate (ks.map Kind.name)

end Param

/-- What a function does with arguments that fit. -/
abbrev Body := List Value → Scope → Outcome Value

/-- A function. -/
structure Function where
  name : String
  minArgs : Nat := 0
  /-- The greatest number of arguments, if there is one. -/
  maxArgs : Option Nat := some 0
  /-- What the first places take. -/
  params : List Param := []
  /-- What all places after them take. -/
  rest : Param := .any
  /-- Whether errors are passed to the body. -/
  acceptsErrors : Bool := false
  description : Option String := none
  body : Body

namespace Function

/-! ## Declarations -/

/-- A function that takes no arguments. -/
def new (name : String) (body : Body) : Function := { name, body }

/-- The function with other bounds on the number of arguments. -/
def withArity (f : Function) (least : Nat) (most : Option Nat) : Function := { f with minArgs := least, maxArgs := most }

/-- The function that takes exactly one argument for each place. -/
def taking (f : Function) (params : List Param) : Function :=
  { f with params, minArgs := params.length, maxArgs := some params.length }

/-- The function with places that may be left empty after those it has. -/
def optionally (f : Function) (params : List Param) : Function :=
  { f with params := f.params ++ params, maxArgs := some (f.params.length + params.length) }

/-- The function with any number of further arguments. -/
def variadic (f : Function) (rest : Param) : Function := { f with maxArgs := none, rest }

/-- The function that looks into errors. -/
def acceptingErrors (f : Function) : Function := { f with acceptsErrors := true }

/-- The function with a description. -/
def describedAs (f : Function) (text : String) : Function := { f with description := some text }

/-! ## Calls -/

/-- What a place takes, counted from 0. -/
def paramAt (f : Function) (position : Nat) : Param := f.params.getD position f.rest

/-- Whether a number of arguments is taken. -/
def acceptsCount (f : Function) (count : Nat) : Bool :=
  decide (f.minArgs ≤ count) && f.maxArgs.all fun most => decide (count ≤ most)

/-- The numbers of arguments in words. -/
def countText (f : Function) : String :=
  match f.maxArgs with
  | some most => if most = f.minArgs then toString most else s!"between {f.minArgs} and {most}"
  | none => s!"at least {f.minArgs}"

/-- The first argument that does not fit its place, from a place on. -/
def misfitFrom? (f : Function) : (position : Nat) → List Value → Option Fault
  | _, [] => none
  | position, v :: rest =>
    let p := f.paramAt position
    if p.accepts v then f.misfitFrom? (position + 1) rest
    else some (.wrongKind f.name p.describe (position + 1) v.typeName)

/-- What is wrong with the arguments: their number, or else the first one of a wrong kind. -/
def misfit? (f : Function) (args : List Value) : Option Fault :=
  if f.acceptsCount args.length then f.misfitFrom? 0 args
  else some (.wrongCount f.name f.countText args.length)

/-- Calls the function. The trace has a run of the body if there was one. -/
def invoke (f : Function) (args : List Value) (s : Scope) : Traced Value :=
  match if f.acceptsErrors then none else args.find? Value.isError with
  | some e => .just e
  | none =>
    match f.misfit? args with
    | some fault => .just (.error fault.toError)
    | none =>
      let result := Outcome.toTraced (f.body args s)
      { result with runs := [⟨f.name, args⟩] }

end Function

end CellExpr
