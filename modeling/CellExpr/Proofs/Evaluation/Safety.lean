import CellExpr.Proofs.Evaluation.Bodies
import CellExpr.Proofs.Writing.Tokens

/-!
# Nothing is missing in an evaluation

Evaluating an expression that was read from a text, and calling a standard function, come to a value or report an error
(`eval_and_invoke_not_stuck`): no argument, element or body is missing on the way, no text is cut inside a character, and no
calculation leaves the numbers that it has room for. The shape of trees that are read provides the arguments and the bodies of
control forms, the check of a call provides the arguments of a body, and what a body computes about a sequence or a date
lies within it.
-/

namespace CellExpr

open CellExpr.Outcome CellExpr.Traced

variable {r : Registry} {s : Scope}

/-! ## Calls -/

namespace Function

variable {f : Function} {args : List Value}

theorem minArgs_le_of_misfit?_eq_none (h : f.misfit? args = none) : f.minArgs ≤ args.length := by
  unfold misfit? at h
  split at h
  · rename_i hcount
    rw [acceptsCount, Bool.and_eq_true, decide_eq_true_iff] at hcount
    exact hcount.1
  · cases h

/-- A body runs only on the arguments that its function declares to need. -/
theorem complete_invoke (hf : f.body.CompleteFrom f.minArgs) (args : List Value) (s : Scope) :
    (f.invoke args s).Complete := by
  unfold invoke
  split
  · exact complete_just _
  · split
    · exact complete_just _
    · rename_i h
      exact (hf args s (minArgs_le_of_misfit?_eq_none h)).toTraced

end Function

namespace Registry

/-- The body of each function is complete on the arguments that the function declares to need. -/
def Complete (r : Registry) : Prop := ∀ f ∈ r.functions, f.body.CompleteFrom f.minArgs

theorem complete_call (hr : r.Complete) (name : String) (args : List Value) (s : Scope) :
    (r.call name args s).Complete := by
  unfold call
  split
  · rename_i f hfound
    exact Function.complete_invoke (hr f (List.mem_of_find?_eq_some hfound)) args s
  · exact complete_just _

end Registry

/-! ## Elements -/

namespace Value

theorem complete_placeIn (v : Value) (length : Nat) : (v.placeIn length).Complete := by
  refine (complete_orFault _ _).bind fun x _ => ?_
  rw [placeOf_eq, ok_bind]
  exact complete_orFault _ _

theorem placeIn_lt {v : Value} {length place : Nat} (h : v.placeIn length = .ok place) : place < length := by
  unfold placeIn at h
  cases hx : v.asNumber? with
  | none =>
    rw [hx] at h
    cases h
  | some x =>
    rw [hx, orFault, ok_bind, placeOf_eq, ok_bind] at h
    cases hplace : placeOf? length x with
    | none =>
      rw [hplace] at h
      cases h
    | some i =>
      rw [hplace] at h
      obtain rfl := Except.ok.inj h
      exact place?_lt hplace

theorem complete_atPosition (base position : Value) : (base.atPosition position).Complete := by
  unfold atPosition
  split
  · exact complete_error _
  · split
    · exact (complete_placeIn _ _).bind fun i hi => complete_of_eq_ok (elementAt_of_lt (placeIn_lt hi))
    · refine (complete_placeIn _ _).bind fun i hi => ?_
      exact (complete_of_eq_ok (elementAt_of_lt (placeIn_lt hi))).bind fun c _ => complete_pure _
    · exact complete_orFault _ _
    · exact complete_fault _

end Value

/-! ## Loops and conditions -/

theorem complete_collect {body : Value → Traced Value} (hbody : ∀ v, (body v).Complete) (items : List Value) :
    (collect body items).Complete := by
  induction items with
  | nil => exact complete_just _
  | cons item rest ih =>
    refine (hbody item).bind fun v => ?_
    split
    · exact complete_just _
    · exact ih.map _

theorem complete_collectPlaces {body : Value → Value → Traced Value} (hbody : ∀ i v, (body i v).Complete) (place : Nat)
    (items : List Value) : (collectPlaces body place items).Complete := by
  induction items generalizing place with
  | nil => exact complete_just _
  | cons item rest ih =>
    refine (hbody _ item).bind fun v => ?_
    split
    · exact complete_just _
    · exact (ih (place + 1)).map _

theorem complete_select {condition : Value → Traced Value} (hcondition : ∀ v, (condition v).Complete)
    (items : List Value) : (select condition items).Complete := by
  induction items with
  | nil => exact complete_just _
  | cons item rest ih =>
    refine (hcondition item).bind fun v => ?_
    split
    · exact ih.map _
    · exact ih
    · exact complete_just _
    · exact complete_just _

theorem complete_rangeFrom {body : Float → Traced Value} (hbody : ∀ x, (body x).Complete) (bound step i : Float) :
    (rangeFrom bound step body i).Complete := by
  induction i using rangeFrom.induct bound step with
  | case1 i hbefore next hnearer ih =>
    rw [rangeFrom, if_pos hbefore, if_pos hnearer]
    refine (hbody i).bind fun v => ?_
    split
    · exact complete_just _
    · exact ih.map _
  | case2 i hbefore next hfar =>
    rw [rangeFrom, if_pos hbefore, if_neg hfar]
    exact complete_just _
  | case3 i hafter =>
    rw [rangeFrom, if_neg hafter]
    exact complete_just _

theorem complete_overRange {body : Float → Traced Value} (hbody : ∀ x, (body x).Complete) (first bound step : Float) :
    (overRange first bound step body).Complete := by
  unfold overRange
  split
  · exact complete_just _
  · exact (complete_rangeFrom hbody bound step first).map _

theorem complete_overElements {source : Traced Value} {loop : List Value → Traced (Result (List Value))}
    (hsource : source.Complete) (hloop : ∀ items, (loop items).Complete) (form : ControlForm) :
    (overElements form source loop).Complete := by
  refine hsource.unlessError fun v => ?_
  split
  · exact (hloop _).map _
  · exact complete_just _

theorem complete_withBound {bound : Traced Value} {f : Float → Traced Value} (hbound : bound.Complete)
    (hf : ∀ x, (f x).Complete) : (withBound bound f).Complete := by
  refine hbound.unlessError fun v => ?_
  split
  · exact hf _
  · exact complete_just _

theorem complete_choose {condition : Traced Value} {yes no : Unit → Traced Value} (hcondition : condition.Complete)
    (hyes : (yes ()).Complete) (hno : (no ()).Complete) (fault : Fault) : (choose condition fault yes no).Complete := by
  refine hcondition.unlessError fun v => ?_
  split
  · exact hyes
  · exact hno
  · exact complete_just _

theorem complete_shortCircuit {left : Traced Value} {right : Unit → Traced Value} (hleft : left.Complete)
    (hright : (right ()).Complete) (op : BinaryOp) : (shortCircuit op left right).Complete := by
  refine hleft.unlessError fun v => ?_
  split
  · split
    · exact complete_just _
    · exact hright.unlessError fun w => complete_just _
  · exact complete_just _

theorem complete_binary {left : Traced Value} {right : Unit → Traced Value} (hleft : left.Complete)
    (hright : (right ()).Complete) (op : BinaryOp) :
    (if op.isLogical then shortCircuit op left right else both op left right).Complete := by
  split
  · exact complete_shortCircuit hleft hright op
  · exact hleft.unlessError fun _ => hright.map _

/-! ## Expressions -/

namespace Expr

theorem complete_evalItems {items : List Expr} (h : ∀ e ∈ items, ∀ s, (e.eval r s).Complete) (s : Scope) :
    (evalItems r items s).Complete := by
  induction items with
  | nil => exact complete_just _
  | cons item rest ih =>
    refine (h item List.mem_cons_self s).bind fun v => ?_
    split
    · exact complete_just _
    · exact (ih fun e he => h e (List.mem_cons_of_mem item he)).map _

theorem complete_evalArgs {args : List Expr} (h : ∀ e ∈ args, ∀ s, (e.eval r s).Complete) (s : Scope) :
    (evalArgs r args s).Complete := by
  induction args with
  | nil => exact complete_just _
  | cons arg rest ih =>
    exact (h arg List.mem_cons_self s).bind fun v => (ih fun e he => h e (List.mem_cons_of_mem arg he)).map _

/-- A control form that binds is complete if its arguments and its body are, and it has as many arguments as declared. -/
theorem complete_binding {form : ControlForm} {args : List Expr} {params : List String} {body : Expr}
    (hform : 0 < form.trailing) (hlength : args.length + 1 = form.leading + form.trailing)
    (hargs : ∀ e ∈ args, ∀ s, (e.eval r s).Complete) (hbody : ∀ s, (body.eval r s).Complete) (s : Scope) :
    ((control form args (some ⟨params, body⟩)).eval r s).Complete := by
  have hone (h : args.length + 1 = 1 + 1) : ∃ a, args = [a] := List.length_eq_one_iff.1 (by omega)
  cases form with
  | «if» => exact absurd hform (Nat.lt_irrefl 0)
  | «with» =>
    obtain ⟨value, rfl⟩ := hone hlength
    exact (hargs value (by simp) s).unlessError fun v => hbody _
  | forEach =>
    obtain ⟨source, rfl⟩ := hone hlength
    exact complete_overElements (hargs source (by simp) s) (complete_collect fun v => hbody _) _
  | forEachIndex =>
    obtain ⟨source, rfl⟩ := hone hlength
    exact complete_overElements (hargs source (by simp) s) (complete_collectPlaces (fun i v => hbody _) 0) _
  | filter =>
    obtain ⟨source, rfl⟩ := hone hlength
    exact complete_overElements (hargs source (by simp) s) (complete_select fun v => hbody _) _
  | forRange =>
    obtain ⟨first, last, step, rfl⟩ := List.length_eq_three.1 (Nat.succ.inj hlength)
    refine complete_withBound (hargs first (by simp) s) fun a => ?_
    refine complete_withBound (hargs last (by simp) s) fun b => ?_
    refine complete_withBound (hargs step (by simp) s) fun c => ?_
    exact complete_overRange (fun x => hbody _) a b c
  | forNonBlank =>
    obtain ⟨value, fallback, rfl⟩ := List.length_eq_two.1 (Nat.succ.inj hlength)
    refine (hargs value (by simp) s).bind fun v => ?_
    split
    · exact hargs fallback (by simp) s
    · exact hbody _

theorem Formed.complete_eval {ok : TokenKind → Prop} {e : Expr} (he : e.Formed ok) (hr : r.Complete) (s : Scope) :
    (e.eval r s).Complete := by
  induction he generalizing s with
  | literal l _ => exact complete_just _
  | var name _ => exact complete_just _
  | field name _ _ ih => exact (ih s).map _
  | index _ _ ih ihp => exact (ih s).unlessError fun b => (ihp s).bind fun p => (Value.complete_atPosition b p).toTraced
  | array items _ ih => exact (complete_evalItems ih s).map _
  | call name args _ _ _ ih => exact (complete_evalArgs ih s).bind fun vs => Registry.complete_call hr name vs s
  | choice _ _ _ ihc ihy ihn => exact complete_choose (ihc s) (ihy s) (ihn s) _
  | binding form args params hform hlength _ _ _ _ ih ihbody => exact complete_binding hform hlength ih ihbody s
  | unary op _ ih => exact (ih s).map _
  | binary op _ _ ihl ihr => exact complete_binary (ihl s) (ihr s) op
  | conditional _ _ _ ihc ihy ihn => exact complete_choose (ihc s) (ihy s) (ihn s) _

end Expr

/-- Evaluating a text that was accepted, and calling a standard function on any arguments, leave nothing missing. -/
theorem eval_and_invoke_not_stuck (now : Calendar.Instant) (s : Scope) :
    (∀ text e, Expr.parse text = .ok e → (e.eval (.standard now) s).stuck = false) ∧
      ∀ f ∈ standardFunctions now, ∀ args, (f.invoke args s).stuck = false := by
  constructor
  · intro text e h
    obtain ⟨ts, hderives, _, _⟩ := derives_of_parse h
    have he : e.Formed fun _ => True := hderives.formed fun _ _ => trivial
    exact he.complete_eval (standardFunctions_completeFrom now) s
  · intro f hf args
    exact Function.complete_invoke (standardFunctions_completeFrom now f hf) args s

/-- Scope for a loop over texts and a place counted from their ends. -/
def sampleScope : Scope := [[("a", .array [.string "pièce", .string ""]), ("i", .number (-1))]]

/-- A loop whose body takes a character at a place, in a text that has it and in one that does not, and the call of a function
that cuts a text. -/
theorem eval_and_invoke_not_stuck_loop :
    ∃ e f, Expr.parse "filter(a, x, x[i])" = .ok e ∧ f ∈ standardFunctions ⟨0, 0, by decide⟩ ∧ f.name = "slice" ∧
      (e.eval (.standard ⟨0, 0, by decide⟩) sampleScope).stuck = false ∧
      (f.invoke [.string "pièce", .number (-2)] sampleScope).stuck = false := by
  have hsafe := eval_and_invoke_not_stuck ⟨0, 0, by decide⟩ sampleScope
  have hparse : (Expr.parse "filter(a, x, x[i])").isOk = true := by decide +kernel
  have hslice : ((Function.new "slice" SequenceFunctions.slice).taking [.sequence, .number]).optionally [.number] ∈
      standardFunctions ⟨0, 0, by decide⟩ := by simp [standardFunctions, SequenceFunctions.all]
  cases he : Expr.parse "filter(a, x, x[i])" with
  | error _ =>
    rw [he] at hparse
    cases hparse
  | ok e => exact ⟨e, _, rfl, hslice, rfl, hsafe.1 _ e he, hsafe.2 _ hslice _⟩

/-- A body on arguments that its function would not pass on, and a control form that no text is read as, are stuck. -/
example : TextFunctions.substring [.string "pièce"] sampleScope = .error .stuck ∧
    ((Expr.control .filter [.var "a"] none).eval .empty sampleScope).stuck = true := ⟨rfl, rfl⟩

end CellExpr
