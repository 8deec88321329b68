import CellExpr.Proofs.Evaluation.Controls
import CellExpr.Proofs.Evaluation.Exposure
import CellExpr.Proofs.Syntax.Parts

/-!
# No error is hidden in an array

An array that an evaluation comes to has no errors among its elements, at any depth, as long as no variable brings one in
(`open_eval_standard`): array literals and loops stop at the first error, and the standard functions make their arrays of texts,
numbers, nulls and elements of the arrays that they are given.
-/

namespace CellExpr

open CellExpr.Value

/-! ## Scopes -/

namespace Frame

theorem forall_mem_set {P : Value → Prop} {f : Frame} {name : String} {value : Value} (hf : ∀ p ∈ f, P p.2)
    (hvalue : P value) : ∀ p ∈ f.set name value, P p.2 := by
  induction f with
  | nil =>
    intro p hp
    obtain rfl := List.mem_singleton.1 hp
    exact hvalue
  | cons q rest ih =>
    obtain ⟨hq, hrest⟩ := List.forall_mem_cons.1 hf
    rw [set]
    split
    · exact List.forall_mem_cons.2 ⟨hvalue, hrest⟩
    · exact List.forall_mem_cons.2 ⟨hq, ih hrest⟩

theorem forall_mem_ofPairs {P : Value → Prop} {pairs : List (String × Value)} (h : ∀ p ∈ pairs, P p.2) :
    ∀ p ∈ ofPairs pairs, P p.2 := by
  suffices ∀ f : Frame, (∀ p ∈ f, P p.2) → ∀ p ∈ pairs.foldl (fun f q => f.set q.1 q.2) f, P p.2 from
    this [] nofun
  induction pairs with
  | nil => exact fun f hf => hf
  | cons q rest ih =>
    obtain ⟨hq, hrest⟩ := List.forall_mem_cons.1 h
    exact fun f hf => ih hrest _ (forall_mem_set hf hq)

theorem forall_mem_ofParams {P : Value → Prop} (params : List String) {values : List Value} (h : ∀ v ∈ values, P v) :
    ∀ p ∈ ofParams params values, P p.2 :=
  forall_mem_ofPairs fun _ hp => h _ (List.of_mem_zip hp).2

theorem of_lookup {P : Value → Prop} {f : Frame} {name : String} {v : Value} (hf : ∀ p ∈ f, P p.2)
    (h : f.lookup name = some v) : P v := by
  obtain ⟨before, after, hframe, _⟩ := List.lookup_eq_some_iff.1 h
  exact hf (name, v) (by rw [hframe]; exact List.mem_append_right before List.mem_cons_self)

end Frame

namespace Scope

/-- All variables have open values. -/
def Open (s : Scope) : Prop := ∀ name v, s.get? name = some v → v.Open

theorem Open.enter {s : Scope} (hs : s.Open) (params : List String) {values : List Value} (h : ∀ v ∈ values, v.Open) :
    (s.enter (.ofParams params values)).Open := by
  intro name v hv
  rw [Scope.enter, get?, List.findSome?_cons] at hv
  split at hv
  · rename_i w hw
    cases hv
    exact Frame.of_lookup (Frame.forall_mem_ofParams params h) hw
  · exact hs name v hv

/-- The scope of a row is open if its cells are. -/
theorem open_ofCell {r : Row Value} (hr : ∀ cell ∈ r.cells, cell.2.Open) (column : String) : (ofCell r column).Open := by
  intro name v hv
  rw [ofCell, get?, List.findSome?_singleton] at hv
  refine Frame.of_lookup (Frame.forall_mem_ofPairs ?_) hv
  have hvalue : ((r.cell? column).getD .null).Open := by
    cases hcell : r.cell? column with
    | none => exact open_null
    | some w => exact hr _ (Row.mem_cells_of_cell? hcell)
  simp only [List.forall_mem_cons]
  exact ⟨hvalue, open_cell_iff.2 hvalue, open_cells_iff.2 hr, open_row_iff.2 hr, open_number _, open_string _, nofun⟩

end Scope

/-! ## Traces -/

namespace Traced

/-- A list of values that was collected has no errors in it and hides none. -/
def OpenItems (t : Traced (Result (List Value))) : Prop := ∀ items, t.value = .ok items → OpenElements items

variable {t : Traced Value} {f : Value → Traced Value}

theorem open_unlessError (ht : t.value.Open) (hf : ∀ v, v.isError = false → v.Open → (f v).value.Open) :
    (t.unlessError f).value.Open := by
  obtain ⟨v, runs, stuck⟩ := t
  cases v with
  | error e => exact open_error e
  | _ => exact hf _ rfl ht

theorem openItems_nil : OpenItems (just (.ok [])) := by
  intro items h
  cases h
  exact nofun

theorem openItems_error (e : EvalError) : OpenItems (just (.error e)) := nofun

/-- One more item that is no error. -/
theorem OpenItems.cons {u : Traced (Result (List Value))} {v : Value} (hu : u.OpenItems) (hv : v.isError = false)
    (hopen : v.Open) : (u.map fun r => r.map (v :: ·)).OpenItems := by
  intro items h
  cases hvalue : u.value with
  | error e =>
    rw [map, hvalue] at h
    cases h
  | ok rest =>
    rw [map, hvalue] at h
    cases h
    exact List.forall_mem_cons.2 ⟨⟨hv, hopen⟩, hu rest hvalue⟩

/-- What is done with each item in turn: an error ends it, another value is put before those that follow. -/
theorem OpenItems.bind {u : Traced (Result (List Value))} (ht : t.value.Open) (hu : u.OpenItems) :
    (t.bind fun
      | .error e => .just (.error e)
      | v => u.map fun r => r.map (v :: ·)).OpenItems := by
  obtain ⟨v, runs, stuck⟩ := t
  cases v with
  | error e => exact openItems_error e
  | _ => exact hu.cons rfl ht

theorem open_toArray {u : Traced (Result (List Value))} (hu : u.OpenItems) : u.toArray.value.Open :=
  open_ofExcept_map_array hu

end Traced

open CellExpr.Traced

/-! ## Loops -/

theorem openItems_collect {body : Value → Traced Value} (hbody : ∀ v, v.Open → (body v).value.Open) {items : List Value}
    (hitems : OpenElements items) : (collect body items).OpenItems := by
  induction items with
  | nil => exact openItems_nil
  | cons item rest ih =>
    obtain ⟨hitem, hrest⟩ := List.forall_mem_cons.1 hitems
    exact (ih hrest).bind (hbody item hitem.2)

theorem openItems_collectPlaces {body : Value → Value → Traced Value} (hbody : ∀ i v, i.Open → v.Open → (body i v).value.Open)
    (place : Nat) {items : List Value} (hitems : OpenElements items) : (collectPlaces body place items).OpenItems := by
  induction items generalizing place with
  | nil => exact openItems_nil
  | cons item rest ih =>
    obtain ⟨hitem, hrest⟩ := List.forall_mem_cons.1 hitems
    exact (ih (place + 1) hrest).bind (hbody _ item (open_number _) hitem.2)

theorem openItems_select (condition : Value → Traced Value) {items : List Value} (hitems : OpenElements items) :
    (select condition items).OpenItems := by
  induction items with
  | nil => exact openItems_nil
  | cons item rest ih =>
    obtain ⟨hitem, hrest⟩ := List.forall_mem_cons.1 hitems
    rw [select]
    generalize condition item = t
    obtain ⟨v, runs, stuck⟩ := t
    match v with
    | .boolean true => exact (ih hrest).cons hitem.1 hitem.2
    | .boolean false => exact ih hrest
    | .error e => exact openItems_error e
    | .string _ | .number _ | .date _ | .array _ | .regex _ | .null | .object _ => exact openItems_error _

theorem openItems_rangeFrom {body : Float → Traced Value} (hbody : ∀ x, (body x).value.Open) (bound step i : Float) :
    (rangeFrom bound step body i).OpenItems := by
  induction i using rangeFrom.induct bound step with
  | case1 i hbefore next hnearer ih =>
    rw [rangeFrom, if_pos hbefore, if_pos hnearer]
    exact ih.bind (hbody i)
  | case2 i hbefore next hfar =>
    rw [rangeFrom, if_pos hbefore, if_neg hfar]
    exact openItems_error _
  | case3 i hafter =>
    rw [rangeFrom, if_neg hafter]
    exact openItems_nil

theorem open_overRange {body : Float → Traced Value} (hbody : ∀ x, (body x).value.Open) (first bound step : Float) :
    (overRange first bound step body).value.Open := by
  unfold overRange
  split
  · exact open_error _
  · have hitems := openItems_rangeFrom hbody bound step first
    cases hvalue : (rangeFrom bound step body first).value with
    | error e =>
      rw [Traced.map, hvalue]
      exact open_error e
    | ok items =>
      rw [Traced.map, hvalue]
      exact open_array_iff.2 (hitems items hvalue)

theorem open_overElements (form : ControlForm) {source : Traced Value} {loop : List Value → Traced (Result (List Value))}
    (hsource : source.value.Open) (hloop : ∀ items, OpenElements items → (loop items).OpenItems) :
    (overElements form source loop).value.Open := by
  refine open_unlessError hsource fun v _ hv => ?_
  cases v with
  | array items => exact open_toArray (hloop items (open_array_iff.1 hv))
  | _ => exact open_error _

theorem open_withBound {bound : Traced Value} {f : Float → Traced Value} (hbound : bound.value.Open)
    (hf : ∀ x, (f x).value.Open) : (withBound bound f).value.Open := by
  refine open_unlessError hbound fun v _ _ => ?_
  cases v with
  | number x => exact hf x
  | _ => exact open_error _

/-! ## Conditions and operators -/

theorem open_choose {condition : Traced Value} {yes no : Unit → Traced Value} (hcondition : condition.value.Open)
    (hyes : (yes ()).value.Open) (hno : (no ()).value.Open) (fault : Fault) :
    (choose condition fault yes no).value.Open := by
  refine open_unlessError hcondition fun v _ _ => ?_
  match v with
  | .boolean true => exact hyes
  | .boolean false => exact hno
  | .string _ | .number _ | .date _ | .array _ | .regex _ | .null | .object _ | .error _ => exact open_error _

theorem Value.open_ofExcept_map {α : Type} {f : α → Value} (hf : ∀ a, (f a).Open) (r : Result α) :
    (ofExcept (r.map f)).Open := by
  cases r with
  | error e => exact open_error e
  | ok a => exact hf a

theorem UnaryOp.open_apply (op : UnaryOp) (v : Value) : (ofExcept (op.apply v)).Open := by
  unfold apply
  split
  · exact open_error _
  · exact open_number _
  · exact open_error _
  · exact open_boolean _
  · exact open_error _

theorem Value.open_logical (op : BinaryOp) (a b : Value) : (ofExcept (logical op a b)).Open := by
  unfold logical
  split
  · exact open_boolean _
  · exact open_error _

theorem Value.open_arithmetic (f : Float → Float → Result Float) (a b : Value) : (ofExcept (arithmetic f a b)).Open := by
  unfold arithmetic
  split
  · exact open_ofExcept_map open_number _
  · exact open_error _

theorem Value.open_plus (a b : Value) : (ofExcept (plus a b)).Open := by
  simp only [plus]
  split
  · split
    · exact open_string _
    · exact open_error _
  · exact open_arithmetic _ a b

/-- Operators make texts, numbers and truth values. -/
theorem BinaryOp.open_apply (op : BinaryOp) (a b : Value) : (ofExcept (op.apply a b)).Open := by
  unfold apply
  split
  · exact open_error _
  · exact open_error _
  · cases op with
    | add => exact open_plus _ _
    | sub | mul | div | mod => exact open_arithmetic _ _ _
    | eq | ne | gt | lt | ge | le => exact open_ofExcept_map (fun _ => open_boolean _) _
    | and | or => exact open_logical _ _ _

theorem open_shortCircuit (op : BinaryOp) {left : Traced Value} {right : Unit → Traced Value} (hleft : left.value.Open)
    (hright : (right ()).value.Open) : (shortCircuit op left right).value.Open := by
  refine open_unlessError hleft fun v _ _ => ?_
  cases v with
  | boolean b =>
    simp only
    split
    · exact open_boolean b
    · exact open_unlessError hright fun w _ _ => open_logical op _ w
  | _ => exact open_error _

theorem open_both (op : BinaryOp) {left : Traced Value} (hleft : left.value.Open) (right : Unit → Traced Value) :
    (both op left right).value.Open :=
  open_unlessError hleft fun _ _ _ => op.open_apply _ _

/-! ## Calls and elements -/

theorem Outcome.open_toTraced {o : Outcome Value} (h : o.Yields Value.Open) : o.toTraced.value.Open := by
  match o with
  | .ok v => exact h v rfl
  | .error (.error e) => exact open_error e
  | .error .stuck => exact open_error _

theorem Function.open_invoke {f : Function} (hf : f.body.Exposes) {args : List Value} (hargs : ∀ v ∈ args, v.Open)
    (s : Scope) : (f.invoke args s).value.Open := by
  unfold invoke
  split
  · rename_i v hv
    split at hv
    · cases hv
    · exact hargs v (List.mem_of_find?_eq_some hv)
  · split
    · exact open_error _
    · exact Outcome.open_toTraced (hf args s hargs)

/-- All functions give open values for open arguments. -/
def Registry.Exposes (r : Registry) : Prop := ∀ f ∈ r.functions, f.body.Exposes

theorem Registry.open_call {r : Registry} (hr : r.Exposes) (name : String) {args : List Value} (hargs : ∀ v ∈ args, v.Open)
    (s : Scope) : (r.call name args s).value.Open := by
  unfold call
  split
  · rename_i f hfound
    exact Function.open_invoke (hr f (List.mem_of_find?_eq_some hfound)) hargs s
  · exact open_error _

theorem Value.open_literal (l : Literal) : l.value.Open := by
  cases l with
  | number x => exact open_number x
  | string s => exact open_string s
  | boolean b => exact open_boolean b
  | null => exact open_null
  | regex r => exact open_regex r

theorem Value.open_field {v : Value} (hv : v.Open) (name : String) : (v.field name).Open := by
  cases v with
  | object o =>
    cases hfound : o.field? name with
    | none =>
      rw [field, hfound]
      exact open_error _
    | some w =>
      rw [field, hfound]
      exact HostObject.open_field? hv hfound
  | _ => exact open_error _

theorem Value.atPosition_yields {base : Value} (hbase : base.Open) (position : Value) :
    (base.atPosition position).Yields Value.Open := by
  unfold atPosition
  split
  · exact Outcome.yields_error _
  · split
    · refine Outcome.yields_bind fun place _ v hv => ?_
      exact (open_array_iff.1 hbase v (Outcome.yields_elementAt _ place v hv)).2
    · refine Outcome.yields_bind fun place _ => ?_
      exact Outcome.yields_bind fun c _ => Outcome.yields_pure (open_string _)
    · exact Outcome.yields_orFault fun v hv => HostObject.open_entry? hbase hv
    · exact Outcome.yields_fault _

/-! ## Expressions -/

namespace Expr

variable {r : Registry} {s : Scope}

theorem openItems_evalItems {items : List Expr} (h : ∀ e ∈ items, (e.eval r s).value.Open) : (evalItems r items s).OpenItems := by
  induction items with
  | nil => exact openItems_nil
  | cons item rest ih =>
    obtain ⟨hitem, hrest⟩ := List.forall_mem_cons.1 h
    exact (ih hrest).bind hitem

theorem open_evalArgs {args : List Expr} (h : ∀ e ∈ args, (e.eval r s).value.Open) :
    ∀ v ∈ (evalArgs r args s).value, v.Open := by
  induction args with
  | nil => exact nofun
  | cons arg rest ih =>
    obtain ⟨harg, hrest⟩ := List.forall_mem_cons.1 h
    exact List.forall_mem_cons.2 ⟨harg, ih hrest⟩

/-- What a control form comes to is open if that is so of its arguments in its own scope and of its body in all scopes. -/
theorem open_control {form : ControlForm} {args : List Expr} {body : Option (Lambda Expr)} (hs : s.Open)
    (hargs : ∀ e ∈ args, (e.eval r s).value.Open)
    (hbody : ∀ lambda ∈ body, ∀ s : Scope, s.Open → (lambda.body.eval r s).value.Open) :
    ((control form args body).eval r s).value.Open := by
  induction form, args, body using controlCases with
  | few form args body hfew =>
    rw [eval_control_few hfew]
    exact open_error _
  | bare form args hform =>
    rw [eval_control_bare hform]
    exact open_error _
  | choice condition yes no rest body =>
    rw [eval]
    exact open_choose (hargs condition (by simp)) (hargs yes (by simp)) (hargs no (by simp)) _
  | binding value rest params body =>
    rw [eval]
    refine open_unlessError (hargs value (by simp)) fun v _ hv => ?_
    exact hbody _ rfl _ (hs.enter params (by simpa using hv))
  | forEach source rest params body =>
    rw [eval]
    refine open_overElements _ (hargs source (by simp)) fun items hitems => openItems_collect (fun v hv => ?_) hitems
    exact hbody _ rfl _ (hs.enter params (by simpa using hv))
  | forEachIndex source rest params body =>
    rw [eval]
    refine open_overElements _ (hargs source (by simp)) fun items hitems =>
      openItems_collectPlaces (fun i v hi hv => ?_) 0 hitems
    exact hbody _ rfl _ (hs.enter params (by simpa using ⟨hi, hv⟩))
  | filter source rest params body =>
    rw [eval]
    exact open_overElements _ (hargs source (by simp)) fun items hitems => openItems_select _ hitems
  | forRange first last step rest params body =>
    rw [eval]
    refine open_withBound (hargs first (by simp)) fun a => open_withBound (hargs last (by simp)) fun b => ?_
    refine open_withBound (hargs step (by simp)) fun c => open_overRange (fun x => ?_) a b c
    exact hbody _ rfl _ (hs.enter params (by simpa using open_number x))
  | forNonBlank value fallback rest params body =>
    have hvalue := hargs value (by simp)
    rw [eval]
    simp only [Traced.bind]
    split
    · exact hargs fallback (by simp)
    · exact hbody _ rfl _ (hs.enter params (by simpa using hvalue))

theorem open_eval (hr : r.Exposes) (e : Expr) (hs : s.Open) : (e.eval r s).value.Open := by
  induction e using induction_parts generalizing s with
  | step e ih =>
    cases e with
    | literal l => exact open_literal l
    | var name =>
      cases hfound : s.get? name with
      | none =>
        rw [eval, hfound]
        exact open_error _
      | some v =>
        rw [eval, hfound]
        exact hs name v hfound
    | field base name => exact open_field (ih base (by simp [parts]) hs) name
    | index base position =>
      rw [eval]
      refine open_unlessError (ih base (by simp [parts]) hs) fun b _ hb => ?_
      exact Outcome.open_toTraced (atPosition_yields hb _)
    | array items => exact open_toArray (openItems_evalItems fun e he => ih e he hs)
    | call name args => exact Registry.open_call hr name (open_evalArgs fun e he => ih e he hs) s
    | control form args body =>
      rcases body with _ | ⟨params, body⟩
      · refine open_control hs (fun e he => ih e he hs) fun lambda hlambda => ?_
        cases hlambda
      · refine open_control hs (fun e he => ih e (List.mem_append_left _ he) hs) fun lambda hlambda s hs => ?_
        obtain rfl := Option.some.inj hlambda
        exact ih body (List.mem_append_right _ List.mem_cons_self) hs
    | unary op operand => exact op.open_apply _
    | binary op left right =>
      rw [eval]
      split
      · exact open_shortCircuit op (ih left (by simp [parts]) hs) (ih right (by simp [parts]) hs)
      · exact open_both op (ih left (by simp [parts]) hs) _
    | conditional condition yes no =>
      exact open_choose (ih condition (by simp [parts]) hs) (ih yes (by simp [parts]) hs) (ih no (by simp [parts]) hs) _

end Expr

/-- Under the standard functions, and variables that hide no errors, an expression comes to an error or to a value that hides
none. -/
theorem open_eval_standard (now : Calendar.Instant) (e : Expr) {s : Scope}
    (hs : ∀ name v, s.get? name = some v → ¬v.HidesError) : ¬(e.eval (.standard now) s).value.HidesError :=
  Expr.open_eval (standardFunctions_exposes now) e hs

/-- A row with an error in a cell. -/
def brokenRow : Row Value :=
  { index := 0, cells := [("total", .error (Fault.unknownVariable "sum").toError), ("flags", .array [.null, .boolean true])] }

/-- `[reverse(value), cells]`, looked at from the column that has no error: an array that holds the cells, one of which is an
error, but no error. -/
theorem open_eval_standard_brokenRow :
    (∀ name v, (Scope.ofCell brokenRow "flags").get? name = some v → ¬v.HidesError) ∧
      ((Expr.array [.call "reverse" [.var "value"], .var "cells"]).eval (.standard ⟨0, 0, by decide⟩)
        (Scope.ofCell brokenRow "flags")).value = .array [.array [.boolean true, .null], .object (.cells brokenRow)] ∧
      ¬(Value.array [.array [.boolean true, .null], .object (.cells brokenRow)]).HidesError := by
  have hscope : (Scope.ofCell brokenRow "flags").Open := by
    refine Scope.open_ofCell ?_ _
    simp only [brokenRow, List.forall_mem_cons]
    refine ⟨open_error _, open_array_iff.2 ?_, nofun⟩
    simp only [OpenElements, List.forall_mem_cons]
    exact ⟨⟨rfl, open_null⟩, ⟨rfl, open_boolean _⟩, nofun⟩
  exact ⟨hscope, rfl, open_eval_standard ⟨0, 0, by decide⟩ (.array [.call "reverse" [.var "value"], .var "cells"]) hscope⟩

end CellExpr
