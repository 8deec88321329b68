import CellExpr.Evaluation.Operators
import CellExpr.Evaluation.Position
import CellExpr.Evaluation.Range
import CellExpr.Evaluation.Scope
import CellExpr.Function.Registry

/-!
# Evaluation

The value of an expression in a scope, with its trace. Errors are values: most forms hand on the first error they meet, and
nothing after it is looked at. All arguments of a call are evaluated, even after an error.
-/

namespace CellExpr

/-- The value of a literal. -/
def Literal.value : Literal → Value
  | number x => .number x
  | string s => .string s
  | boolean b => .boolean b
  | null => .null
  | regex r => .regex r

namespace Value

/-- The field of a value. -/
def field (base : Value) (name : String) : Value :=
  match base with
  | error e => .error e
  | object o => (o.field? name).getD (.error (Fault.noField o.typeName name).toError)
  | v => .error (Fault.notAnObject v.typeName name).toError

/-- The place in a sequence that a value stands for. -/
def placeIn (position : Value) (length : Nat) : Outcome Nat := do
  let x ← .orFault (.expected "number as index") position.asNumber?
  .orFault (.outOfRange position.text length) (← .placeOf length x)

/-- What a value has at a position, or under a key. -/
def atPosition (base position : Value) : Outcome Value :=
  match position with
  | error e => .error (.error e)
  | position =>
    match base with
    | array items => do .elementAt items (← position.placeIn items.length)
    | string s => do
      let c ← .elementAt s.toList (← position.placeIn s.toList.length)
      return .string c.toString
    | object o => .orFault (.noEntry o.typeName position.text) (o.entry? position)
    | v => .fault (.notIndexable v.typeName)

/-- The elements of an array, or the fault of a form that needs one. -/
def elements (form : ControlForm) : Value → Result (List Value)
  | array items => .ok items
  | v => .fault (.notAnArray form.name v.typeName)

end Value

/-! ## Loops -/

/-- The values of a body for each item, up to the first error. -/
def collect (body : Value → Traced Value) : List Value → Traced (Result (List Value))
  | [] => .just (.ok [])
  | item :: rest =>
    (body item).bind fun
      | .error e => .just (.error e)
      | v => (collect body rest).map fun r => r.map (v :: ·)

/-- The values of a body for each item and its place, up to the first error. -/
def collectPlaces (body : Value → Value → Traced Value) : (place : Nat) → List Value → Traced (Result (List Value))
  | _, [] => .just (.ok [])
  | place, item :: rest =>
    (body (.ofNat place) item).bind fun
      | .error e => .just (.error e)
      | v => (collectPlaces body (place + 1) rest).map fun r => r.map (v :: ·)

/-- The items for which a condition is true, up to the first condition that is no truth value. -/
def select (condition : Value → Traced Value) : List Value → Traced (Result (List Value))
  | [] => .just (.ok [])
  | item :: rest =>
    (condition item).bind fun
      | .boolean true => (select condition rest).map fun r => r.map (item :: ·)
      | .boolean false => select condition rest
      | .error e => .just (.error e)
      | _ => .just (.fault .conditionOfFilter)

/-- The array of collected items, or the error. -/
def Traced.toArray (t : Traced (Result (List Value))) : Traced Value :=
  t.map fun r => Value.ofExcept (r.map .array)

/-- A loop over the elements of an array. -/
def overElements (form : ControlForm) (source : Traced Value) (loop : List Value → Traced (Result (List Value))) :
    Traced Value :=
  source.unlessError fun v =>
    match v.elements form with
    | .ok items => (loop items).toArray
    | .error e => .just (.error e)

/-- Goes on with a number, which a bound of a range has to be. -/
def withBound (bound : Traced Value) (f : Float → Traced Value) : Traced Value :=
  bound.unlessError fun
    | .number x => f x
    | _ => .just (.error Fault.boundsOfRange.toError)

/-! ## Conditions -/

/-- Goes on according to a truth value; another value is a fault. -/
def choose (condition : Traced Value) (fault : Fault) (yes no : Unit → Traced Value) : Traced Value :=
  condition.unlessError fun
    | .boolean true => yes ()
    | .boolean false => no ()
    | _ => .just (.error fault.toError)

/-- The right operand of a logical operator whose left operand does not decide. -/
def decided (op : BinaryOp) (left : Bool) (right : Traced Value) : Traced Value :=
  right.unlessError fun v => .just (.ofExcept (Value.logical op (.boolean left) v))

/-- A logical operator: the right operand is looked at only if the left one does not decide. -/
def shortCircuit (op : BinaryOp) (left : Traced Value) (right : Unit → Traced Value) : Traced Value :=
  left.unlessError fun
    | .boolean a => if a == decide (op = .or) then .just (.boolean a) else decided op a (right ())
    | _ => .just (.error (Fault.expected "boolean").toError)

/-- An operator that needs both operands. -/
def both (op : BinaryOp) (left : Traced Value) (right : Unit → Traced Value) : Traced Value :=
  left.unlessError fun a => (right ()).map fun b => .ofExcept (op.apply a b)

/-- Whether an operator may leave its right operand aside. -/
def BinaryOp.isLogical (op : BinaryOp) : Bool := op = .and || op = .or

/-- The call of a function by its name. -/
def Registry.call (r : Registry) (name : String) (args : List Value) (s : Scope) : Traced Value :=
  match r.lookup? name with
  | some f => f.invoke args s
  | none => .just (.error (Fault.unknownFunction name).toError)

namespace Expr

mutual

/-- The value of an expression. -/
def eval (r : Registry) : Expr → Scope → Traced Value
  | literal l, _ => .just l.value
  | var name, s => .just ((s.get? name).getD (.error (Fault.unknownVariable name).toError))
  | field base name, s => (base.eval r s).map fun v => v.field name
  | index base position, s => (base.eval r s).unlessError fun b => (position.eval r s).bind fun p => (b.atPosition p).toTraced
  | array items, s => (evalItems r items s).toArray
  | call name args, s => (evalArgs r args s).bind fun vs => r.call name vs s
  | control .if (condition :: yes :: no :: _) _, s =>
    choose (condition.eval r s) .conditionOfIf (fun _ => yes.eval r s) (fun _ => no.eval r s)
  | control .with (value :: _) (some ⟨params, body⟩), s =>
    (value.eval r s).unlessError fun v => body.eval r (s.enter (.ofParams params [v]))
  | control .forEach (source :: _) (some ⟨params, body⟩), s =>
    overElements .forEach (source.eval r s) (collect fun v => body.eval r (s.enter (.ofParams params [v])))
  | control .forEachIndex (source :: _) (some ⟨params, body⟩), s =>
    overElements .forEachIndex (source.eval r s)
      (collectPlaces (fun i v => body.eval r (s.enter (.ofParams params [i, v]))) 0)
  | control .filter (source :: _) (some ⟨params, body⟩), s =>
    overElements .filter (source.eval r s) (select fun v => body.eval r (s.enter (.ofParams params [v])))
  | control .forRange (first :: last :: step :: _) (some ⟨params, body⟩), s =>
    withBound (first.eval r s) fun a => withBound (last.eval r s) fun b => withBound (step.eval r s) fun c =>
      overRange a b c fun x => body.eval r (s.enter (.ofParams params [.number x]))
  | control .forNonBlank (value :: fallback :: _) (some ⟨params, body⟩), s =>
    (value.eval r s).bind fun v =>
      if v.isBlank || v.isError then fallback.eval r s else body.eval r (s.enter (.ofParams params [v]))
  | control .if _ _, _ => .stuckAt .missing
  | control form _ none, _ => .stuckAt (.noBody form.name)
  | control _ _ (some _), _ => .stuckAt .missing
  | unary op operand, s => (operand.eval r s).map fun v => .ofExcept (op.apply v)
  | binary op left right, s =>
    if op.isLogical then shortCircuit op (left.eval r s) fun _ => right.eval r s
    else both op (left.eval r s) fun _ => right.eval r s
  | conditional condition yes no, s =>
    choose (condition.eval r s) (.expected "boolean") (fun _ => yes.eval r s) (fun _ => no.eval r s)

/-- The values of items, up to the first error. -/
def evalItems (r : Registry) : List Expr → Scope → Traced (Result (List Value))
  | [], _ => .just (.ok [])
  | item :: rest, s =>
    (item.eval r s).bind fun
      | .error e => .just (.error e)
      | v => (evalItems r rest s).map fun vs => vs.map (v :: ·)

/-- The values of all arguments. -/
def evalArgs (r : Registry) : List Expr → Scope → Traced (List Value)
  | [], _ => .just []
  | arg :: rest, s => (arg.eval r s).bind fun v => (evalArgs r rest s).map fun vs => v :: vs

end

section

-- The equations are made here once; what rewrites with them need not make them again.
attribute [local simp] eval evalItems evalArgs

end

end Expr

end CellExpr
