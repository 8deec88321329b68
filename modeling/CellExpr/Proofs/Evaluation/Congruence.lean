import CellExpr.Proofs.Evaluation.Controls
import CellExpr.Proofs.Syntax.Parts

/-!
# Two evaluations side by side

An expression is evaluated alike in two registries and two scopes if its parts are: those outside a body in the two scopes as
they are, a body with the same values for the parameters in a frame inside both (`eval_congr_parts`). The parts may also be others
in the second evaluation, and so may the parameters (`eval_mapParts`). What two evaluations have in common beyond that is a matter
of names alone, those of variables and of functions.
-/

namespace CellExpr.Expr

variable {r r' : Registry} {s s' : Scope} {f : Expr → Expr}

/-- The parts of an expression that are evaluated in its own scope: all but the body of a control form. -/
def outerParts : Expr → List Expr
  | control _ args _ => args
  | e => e.parts

theorem mem_parts_of_mem_outerParts {part e : Expr} (h : part ∈ e.outerParts) : part ∈ e.parts := by
  cases e with
  | control form args body =>
    rcases body with _ | ⟨params, body⟩
    · exact h
    · exact List.mem_append_left _ h
  | _ => exact h

/-- The expression with other parts: each one outside a body is changed by one function, and a body with its parameters by
another. -/
def mapParts (f : Expr → Expr) (g : ControlForm → Lambda Expr → Lambda Expr) : Expr → Expr
  | literal l => literal l
  | var name => var name
  | field base name => field (f base) name
  | index base position => index (f base) (f position)
  | array items => array (items.map f)
  | call name args => call name (args.map f)
  | control form args body => control form (args.map f) (body.map (g form))
  | unary op operand => unary op (f operand)
  | binary op left right => binary op (f left) (f right)
  | conditional condition yes no => conditional (f condition) (f yes) (f no)

theorem mapParts_id (e : Expr) : e.mapParts id (fun _ => id) = e := by
  cases e <;> simp [mapParts]

theorem evalItems_map {items : List Expr} (h : ∀ e ∈ items, (f e).eval r' s' = e.eval r s) :
    evalItems r' (items.map f) s' = evalItems r items s := by
  induction items with
  | nil => rfl
  | cons item rest ih =>
    rw [List.map_cons, evalItems, evalItems, h item List.mem_cons_self, ih fun e he => h e (List.mem_cons_of_mem item he)]

theorem evalArgs_map {args : List Expr} (h : ∀ e ∈ args, (f e).eval r' s' = e.eval r s) :
    evalArgs r' (args.map f) s' = evalArgs r args s := by
  induction args with
  | nil => rfl
  | cons arg rest ih =>
    rw [List.map_cons, evalArgs, evalArgs, h arg List.mem_cons_self, ih fun e he => h e (List.mem_cons_of_mem arg he)]

/-- A body is evaluated for as many values as the form has parameters. -/
theorem eval_control_map {form : ControlForm} {args : List Expr} {body : Option (Lambda Expr)} {g : Lambda Expr → Lambda Expr}
    (hargs : ∀ arg ∈ args, (f arg).eval r' s' = arg.eval r s)
    (hbody : ∀ l, body = some l → ∀ values : List Value, values.length = form.parameters →
      (g l).body.eval r' (s'.enter (.ofParams (g l).params values)) = l.body.eval r (s.enter (.ofParams l.params values))) :
    (control form (args.map f) (body.map g)).eval r' s' = (control form args body).eval r s := by
  induction form, args, body using controlCases with
  | few form args body hfew =>
    rw [eval_control_few hfew, eval_control_few (by rwa [List.length_map]), Option.isSome_map]
  | bare form args hform => rw [Option.map_none, eval_control_bare hform, eval_control_bare hform]
  | choice condition yes no rest body =>
    rw [List.map_cons, List.map_cons, List.map_cons, eval, eval, hargs condition (by simp), hargs yes (by simp),
      hargs no (by simp)]
  | binding value rest params body | forEach value rest params body | filter value rest params body =>
    have hturn (v : Value) := hbody ⟨params, body⟩ rfl [v] rfl
    rw [List.map_cons, Option.map_some, eval, eval, hargs value List.mem_cons_self]
    simp only [hturn]
  | forEachIndex source rest params body =>
    have hturn (i v : Value) := hbody ⟨params, body⟩ rfl [i, v] rfl
    rw [List.map_cons, Option.map_some, eval, eval, hargs source List.mem_cons_self]
    simp only [hturn]
  | forRange first last step rest params body =>
    have hturn (x : Float) := hbody ⟨params, body⟩ rfl [.number x] rfl
    rw [List.map_cons, List.map_cons, List.map_cons, Option.map_some, eval, eval, hargs first (by simp), hargs last (by simp),
      hargs step (by simp)]
    simp only [hturn]
  | forNonBlank value fallback rest params body =>
    have hturn (v : Value) := hbody ⟨params, body⟩ rfl [v] rfl
    rw [List.map_cons, List.map_cons, Option.map_some, eval, eval, hargs value (by simp), hargs fallback (by simp)]
    simp only [hturn]

/-- An expression with other parts that are evaluated alike is evaluated alike, if it is no variable or call, or its name stands
for the same. -/
theorem eval_mapParts {g : ControlForm → Lambda Expr → Lambda Expr} {e : Expr}
    (houter : ∀ part ∈ e.outerParts, (f part).eval r' s' = part.eval r s)
    (hbody : ∀ form args l, e = control form args (some l) → ∀ values : List Value, values.length = form.parameters →
      (g form l).body.eval r' (s'.enter (.ofParams (g form l).params values)) =
        l.body.eval r (s.enter (.ofParams l.params values)))
    (hvar : ∀ name, e = var name → s'.get? name = s.get? name)
    (hcall : ∀ name args, e = call name args → ∀ values, r'.call name values s' = r.call name values s) :
    (e.mapParts f g).eval r' s' = e.eval r s := by
  cases e with
  | literal l => rfl
  | var name => rw [mapParts, eval, eval, hvar name rfl]
  | field base name => rw [mapParts, eval, eval, houter base (by simp [outerParts, parts])]
  | index base position =>
    rw [mapParts, eval, eval, houter base (by simp [outerParts, parts]), houter position (by simp [outerParts, parts])]
  | array items =>
    have hitems : ∀ item ∈ items, (f item).eval r' s' = item.eval r s := houter
    rw [mapParts, eval, eval, evalItems_map hitems]
  | call name args =>
    have hargs : ∀ arg ∈ args, (f arg).eval r' s' = arg.eval r s := houter
    rw [mapParts, eval, eval, evalArgs_map hargs]
    simp only [hcall name args rfl]
  | control form args body =>
    refine eval_control_map houter fun l hl values hvalues => ?_
    exact hbody form args l (by rw [hl]) values hvalues
  | unary op operand => rw [mapParts, eval, eval, houter operand (by simp [outerParts, parts])]
  | binary op left right =>
    rw [mapParts, eval, eval, houter left (by simp [outerParts, parts]), houter right (by simp [outerParts, parts])]
  | conditional condition yes no =>
    rw [mapParts, eval, eval, houter condition (by simp [outerParts, parts]), houter yes (by simp [outerParts, parts]),
      houter no (by simp [outerParts, parts])]

/-- An expression whose parts are evaluated alike is evaluated alike, if it is no variable or call, or its name stands for the
same. -/
theorem eval_congr_parts {e : Expr} (houter : ∀ part ∈ e.outerParts, part.eval r' s' = part.eval r s)
    (hbody : ∀ form args params b, e = control form args (some ⟨params, b⟩) → ∀ values : List Value,
      values.length = form.parameters →
      b.eval r' (s'.enter (.ofParams params values)) = b.eval r (s.enter (.ofParams params values)))
    (hvar : ∀ name, e = var name → s'.get? name = s.get? name)
    (hcall : ∀ name args, e = call name args → ∀ values, r'.call name values s' = r.call name values s) :
    e.eval r' s' = e.eval r s := by
  have heval := eval_mapParts (f := id) (g := fun _ => id) houter (fun form args l => hbody form args l.params l.body) hvar hcall
  rwa [mapParts_id] at heval

end CellExpr.Expr
