import CellExpr.Evaluation.Eval
import CellExpr.Function.Standard
import Mathlib.Logic.Relation

/-!
# Strict positions

Where an expression needs the value of one of its parts, an error of that part is its own value: nothing wraps, replaces or
passes over the error. Strict parts may stand within strict parts to any depth (`eval_eq_error_of_strictIn`). Parts that are
not strict are the branches of conditions, the bodies of control forms, the value that `forNonBlank` looks at, and the
arguments of functions that look into errors.
-/

namespace CellExpr

variable {r : Registry} {s : Scope} {err : EvalError}

namespace Traced

variable {t : Traced Value} {f : Value → Traced Value}

theorem value_unlessError_of_error (h : t.value = .error err) : (t.unlessError f).value = .error err := by
  simp only [unlessError, Traced.bind, h, just]

/-- What goes on unless there is an error goes on from any other value. -/
theorem unlessError_of_not_error (h : t.value.isError = false) : t.unlessError f = t.bind f := by
  obtain ⟨v, runs, stuck⟩ := t
  cases v with
  | error e => cases h
  | _ => rfl

end Traced

/-- `StrictPart r s part e`: evaluating `e` in the scope comes to the part, which is in the same scope, and needs its
value. The parts before it are no errors, and a left operand does not decide. -/
inductive StrictPart (r : Registry) (s : Scope) : Expr → Expr → Prop where
  | operand (op : UnaryOp) (operand : Expr) : StrictPart r s operand (.unary op operand)
  | left (op : BinaryOp) (left right : Expr) : StrictPart r s left (.binary op left right)
  | right {op : BinaryOp} {left : Expr} (right : Expr) (hop : op.isLogical = false)
      (hleft : (left.eval r s).value.isError = false) : StrictPart r s right (.binary op left right)
  | logicalRight {op : BinaryOp} {left : Expr} (right : Expr) (hop : op.isLogical = true) {b : Bool}
      (hleft : (left.eval r s).value = .boolean b) (hopen : b ≠ decide (op = .or)) :
      StrictPart r s right (.binary op left right)
  | fieldBase (base : Expr) (name : String) : StrictPart r s base (.field base name)
  | indexBase (base position : Expr) : StrictPart r s base (.index base position)
  | indexPosition {base : Expr} (position : Expr) (hbase : (base.eval r s).value.isError = false) :
      StrictPart r s position (.index base position)
  | condition (condition yes no : Expr) : StrictPart r s condition (.conditional condition yes no)
  | conditionOfIf (condition yes no : Expr) (rest : List Expr) (body : Option (Lambda Expr)) :
      StrictPart r s condition (.control .if (condition :: yes :: no :: rest) body)
  | item {before : List Expr} (item : Expr) (after : List Expr)
      (hbefore : ∀ e ∈ before, (e.eval r s).value.isError = false) : StrictPart r s item (.array (before ++ item :: after))
  | source {form : ControlForm} (hform : form ∈ [.with, .forEach, .forEachIndex, .filter]) (source : Expr)
      (rest : List Expr) (body : Lambda Expr) : StrictPart r s source (.control form (source :: rest) (some body))
  | firstBound (first last step : Expr) (rest : List Expr) (body : Lambda Expr) :
      StrictPart r s first (.control .forRange (first :: last :: step :: rest) (some body))
  | lastBound {first : Expr} {a : Float} (hfirst : (first.eval r s).value = .number a) (last step : Expr)
      (rest : List Expr) (body : Lambda Expr) :
      StrictPart r s last (.control .forRange (first :: last :: step :: rest) (some body))
  | step {first last : Expr} {a b : Float} (hfirst : (first.eval r s).value = .number a)
      (hlast : (last.eval r s).value = .number b) (step : Expr) (rest : List Expr) (body : Lambda Expr) :
      StrictPart r s step (.control .forRange (first :: last :: step :: rest) (some body))
  | argument {name : String} {f : Function} (hfound : r.lookup? name = some f) (hstrict : f.acceptsErrors = false)
      {before : List Expr} (arg : Expr) (after : List Expr)
      (hbefore : ∀ e ∈ before, (e.eval r s).value.isError = false) :
      StrictPart r s arg (.call name (before ++ arg :: after))

/-- A part at a strict position of an expression: the expression itself, a strict part of it, a strict part of that, and
so on. -/
def StrictIn (r : Registry) (s : Scope) : Expr → Expr → Prop := Relation.ReflTransGen (StrictPart r s)

/-! ## Lists of parts -/

namespace Expr

theorem value_evalItems_of_error {before : List Expr} {item : Expr} (after : List Expr)
    (hbefore : ∀ e ∈ before, (e.eval r s).value.isError = false) (hitem : (item.eval r s).value = .error err) :
    (evalItems r (before ++ item :: after) s).value = .error err := by
  induction before with
  | nil => simp only [List.nil_append, evalItems, Traced.bind, hitem, Traced.just]
  | cons e before ih =>
    have he := hbefore e List.mem_cons_self
    have hrest := ih fun e he => hbefore e (List.mem_cons_of_mem _ he)
    rw [List.cons_append, evalItems]
    simp only [Traced.bind]
    split
    · rename_i h
      rw [h] at he
      cases he
    · simp only [Traced.map, hrest]
      rfl

/-- The values of arguments are those of the arguments one by one. -/
theorem value_evalArgs (args : List Expr) : (evalArgs r args s).value = args.map fun e => (e.eval r s).value := by
  induction args with
  | nil => rfl
  | cons arg rest ih => rw [evalArgs, List.map_cons, ← ih]; rfl

end Expr

/-- A bound that is a number is handed on. -/
theorem value_withBound_of_eq {bound : Traced Value} {x : Float} (h : bound.value = .number x) (f : Float → Traced Value) :
    (withBound bound f).value = (f x).value := by
  simp only [withBound, Traced.unlessError, Traced.bind, h]

/-- The first error among the arguments of a function that does not look into errors is what the call comes to. -/
theorem Function.value_invoke_of_error {f : Function} (hf : f.acceptsErrors = false) {before : List Value}
    (hbefore : ∀ v ∈ before, v.isError = false) (after : List Value) :
    (f.invoke (before ++ .error err :: after) s).value = .error err := by
  have hfirst : (before ++ .error err :: after).find? Value.isError = some (.error err) := by
    rw [List.find?_append, List.find?_eq_none.2 fun v hv => by rw [hbefore v hv]; decide]
    rfl
  simp only [invoke, hf, hfirst]
  rfl

/-! ## One step and all steps -/

theorem BinaryOp.apply_error (op : BinaryOp) {v : Value} (hv : v.isError = false) : op.apply v (.error err) = .error err := by
  cases v with
  | error e => cases hv
  | _ => rfl

/-- An error of a strict part is the value of the expression. -/
theorem StrictPart.value_eval {part e : Expr} (h : StrictPart r s part e) (hpart : (part.eval r s).value = .error err) :
    (e.eval r s).value = .error err := by
  cases h with
  | operand op operand =>
    rw [Expr.eval, Traced.map, hpart]
    rfl
  | left op left right =>
    rw [Expr.eval]
    split
    · exact Traced.value_unlessError_of_error hpart
    · exact Traced.value_unlessError_of_error hpart
  | @right op left right hop hleft =>
    rw [Expr.eval, if_neg (by rw [hop]; decide), both, Traced.unlessError_of_not_error hleft]
    simp only [Traced.bind, Traced.map, hpart, op.apply_error hleft, Value.ofExcept]
  | @logicalRight op left right hop b hleft hopen =>
    have hbool : (left.eval r s).value.isError = false := by rw [hleft]; rfl
    rw [Expr.eval, if_pos hop, shortCircuit, Traced.unlessError_of_not_error hbool]
    simp only [Traced.bind, hleft, beq_eq_false_iff_ne.2 hopen, Bool.false_eq_true, if_false]
    exact Traced.value_unlessError_of_error hpart
  | fieldBase base name =>
    rw [Expr.eval, Traced.map, hpart]
    rfl
  | indexBase base position =>
    rw [Expr.eval]
    exact Traced.value_unlessError_of_error hpart
  | @indexPosition base position hbase =>
    rw [Expr.eval, Traced.unlessError_of_not_error hbase]
    simp only [Traced.bind, hpart, Value.atPosition, Outcome.toTraced, Traced.just]
  | condition condition yes no =>
    rw [Expr.eval]
    exact Traced.value_unlessError_of_error hpart
  | conditionOfIf condition yes no rest body =>
    rw [Expr.eval]
    exact Traced.value_unlessError_of_error hpart
  | item item after hbefore =>
    rw [Expr.eval, Traced.toArray, Traced.map, Expr.value_evalItems_of_error after hbefore hpart]
    rfl
  | source hform source rest body =>
    obtain ⟨params, body⟩ := body
    simp only [List.mem_cons, List.not_mem_nil, or_false] at hform
    rcases hform with rfl | rfl | rfl | rfl <;> rw [Expr.eval] <;> exact Traced.value_unlessError_of_error hpart
  | firstBound first last step rest body =>
    rw [Expr.eval]
    exact Traced.value_unlessError_of_error hpart
  | lastBound hfirst last step rest body =>
    rw [Expr.eval, value_withBound_of_eq hfirst]
    exact Traced.value_unlessError_of_error hpart
  | step hfirst hlast step rest body =>
    rw [Expr.eval, value_withBound_of_eq hfirst, value_withBound_of_eq hlast]
    exact Traced.value_unlessError_of_error hpart
  | @argument name f hfound hstrict before arg after hbefore =>
    have hvalues : ∀ v ∈ before.map fun e => (e.eval r s).value, v.isError = false := by
      intro v hv
      obtain ⟨e, he, rfl⟩ := List.mem_map.1 hv
      exact hbefore e he
    rw [Expr.eval, Traced.bind, Expr.value_evalArgs, List.map_append, List.map_cons, hpart, Registry.call, hfound]
    exact Function.value_invoke_of_error hstrict hvalues _

/-- An error at a strict position is the value of the whole expression: the same kind, the same message, the same causes. -/
theorem eval_eq_error_of_strictIn {part e : Expr} (h : StrictIn r s part e)
    (hpart : (part.eval r s).value = .error err) : (e.eval r s).value = .error err := by
  induction h with
  | refl => exact hpart
  | tail _ hstep ih => exact hstep.value_eval ih

/-- `length([null, -nope == null], true)` -/
def sampleCall : Expr :=
  .call "length" [.array [.literal .null, .binary .eq (.unary .minus (.var "nope")) (.literal .null)],
    .literal (.boolean true)]

/-- Without variables the name in the array is unknown, and that is what the call comes to, although it also has an argument
too many. -/
theorem eval_eq_error_of_strictIn_argument :
    StrictIn (.standard ⟨0, 0, by decide⟩) [] (.var "nope") sampleCall ∧
      (sampleCall.eval (.standard ⟨0, 0, by decide⟩) []).value = .error (Fault.unknownVariable "nope").toError := by
  have hstrict : StrictIn (.standard ⟨0, 0, by decide⟩) [] (.var "nope") sampleCall := by
    refine .trans (.single (.operand .minus _)) (.trans (.single (.left .eq _ (.literal .null))) ?_)
    refine .trans (.single (@StrictPart.item _ _ [.literal .null] _ [] ?_)) (.single ?_)
    · intro e he
      obtain rfl := List.mem_singleton.1 he
      rfl
    · exact @StrictPart.argument _ _ _ _ rfl rfl [] _ _ nofun
  exact ⟨hstrict, eval_eq_error_of_strictIn hstrict rfl⟩

end CellExpr
