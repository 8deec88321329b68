import CellExpr.Value.Basic

/-!
# Traced results

What an evaluation leaves behind besides its value: which function bodies ran, in order, and whether it came to something
that cannot happen to an expression that was read from a text.
-/

namespace CellExpr

/-- A run of the body of a function. -/
structure BodyRun where
  name : String
  args : List Value

/-- A result and its trace. -/
structure Traced (α : Type) where
  value : α
  /-- The function bodies that ran, the first one first. -/
  runs : List BodyRun := []
  /-- Whether something was missing that has to be there: an argument, an element, a body, room for a number. -/
  stuck : Bool := false

namespace Traced

variable {α β : Type}

/-- A result without a trace. -/
def just (a : α) : Traced α := { value := a }

/-- The result of a function on a result. The trace stays. -/
def map (f : α → β) (t : Traced α) : Traced β := ⟨f t.value, t.runs, t.stuck⟩

/-- Goes on from a result. The traces follow one another. -/
def bind (t : Traced α) (f : α → Traced β) : Traced β :=
  let u := f t.value
  ⟨u.value, t.runs ++ u.runs, t.stuck || u.stuck⟩

instance : Monad Traced where
  pure := just
  map := map
  bind := bind

/-- Goes on from a value, unless it is an error. -/
def unlessError (t : Traced Value) (f : Value → Traced Value) : Traced Value :=
  t.bind fun
    | .error e => just (.error e)
    | v => f v

/-- A result that shows something missing. -/
def stuckAt (f : Fault) : Traced Value := { value := .error f.toError, stuck := true }

end Traced

/-- Why a body gives no value: it reports an error, or something is missing that has to be there. -/
inductive Failure where
  | error (e : EvalError)
  | stuck
  deriving DecidableEq, Repr

instance : Coe EvalError Failure := ⟨.error⟩

instance : Coe Fault Failure := ⟨fun f => .error f.toError⟩

/-- What a body gives. -/
abbrev Outcome (α : Type) := Except Failure α

namespace Outcome

variable {α : Type}

/-- An outcome that reports a fault. -/
def fault (f : Fault) : Outcome α := .error (.error f.toError)

/-- What is there, or an outcome that shows it missing. -/
def require : Option α → Outcome α
  | some a => .ok a
  | none => .error .stuck

/-- The outcome of reading or computing something that reports a fault if it fails. -/
def orFault (f : Fault) : Option α → Outcome α
  | some a => .ok a
  | none => fault f

/-- The value that stands for an outcome, and whether something was missing. -/
def toTraced : Outcome Value → Traced Value
  | .ok v => .just v
  | .error (.error e) => .just (.error e)
  | .error .stuck => .stuckAt .missing

end Outcome

end CellExpr
