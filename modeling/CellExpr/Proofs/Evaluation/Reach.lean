import CellExpr.Proofs.Evaluation.Controls
import CellExpr.Proofs.Evaluation.Strictness
import CellExpr.Proofs.Syntax.Parts

/-!
# What an evaluation reaches

Evaluating an expression evaluates some of its parts, each in a scope of its own: the body of a loop once for every turn, an
unselected branch never (`EvaluatesPart`, with one rule for each place at which an expression evaluates a part). A path is
reached if each step along it is a part that is evaluated (`Reaches`). What is reached leaves its trace: its function bodies run
among those of the whole expression (`Reaches.runs_infix`).
-/

namespace CellExpr

variable {r : Registry} {s t : Scope}

/-- `RangeTurn bound step body i x`: the loop over a range that stands at `i` comes to a turn for `x`. -/
inductive RangeTurn (bound step : Float) (body : Float → Traced Value) : Float → Float → Prop where
  | now {i : Float} (hbefore : isBefore step i bound = true)
      (hnearer : distance step (i + step) bound < distance step i bound) : RangeTurn bound step body i i
  | later {i x : Float} (hbefore : isBefore step i bound = true)
      (hnearer : distance step (i + step) bound < distance step i bound) (hbody : (body i).value.isError = false)
      (h : RangeTurn bound step body (i + step) x) : RangeTurn bound step body i x

/-- The value of a body for some values of its parameters. -/
def Lambda.evalWith (r : Registry) (s : Scope) (lambda : Lambda Expr) (values : List Value) : Traced Value :=
  lambda.body.eval r (s.enter (.ofParams lambda.params values))

/-- `EvaluatesPart r s e i t`: evaluating the expression in the scope `s` evaluates its part number `i` in the scope `t`. -/
inductive EvaluatesPart (r : Registry) (s : Scope) : Expr → Nat → Scope → Prop where
  | fieldBase (base : Expr) (name : String) : EvaluatesPart r s (.field base name) 0 s
  | indexBase (base position : Expr) : EvaluatesPart r s (.index base position) 0 s
  | indexPosition {base : Expr} (hbase : (base.eval r s).value.isError = false) (position : Expr) :
      EvaluatesPart r s (.index base position) 1 s
  /-- An item after items that are no errors. -/
  | item {items : List Expr} {i : Nat} (hi : i < items.length)
      (hbefore : ∀ e ∈ items.take i, (e.eval r s).value.isError = false) : EvaluatesPart r s (.array items) i s
  /-- An argument, whatever stands before it and whatever the name is. -/
  | argument (name : String) {args : List Expr} {i : Nat} (hi : i < args.length) : EvaluatesPart r s (.call name args) i s
  | operand (op : UnaryOp) (operand : Expr) : EvaluatesPart r s (.unary op operand) 0 s
  | left (op : BinaryOp) (left right : Expr) : EvaluatesPart r s (.binary op left right) 0 s
  | right {op : BinaryOp} {left : Expr} (hop : op.isLogical = false) (hleft : (left.eval r s).value.isError = false)
      (right : Expr) : EvaluatesPart r s (.binary op left right) 1 s
  /-- The right operand of a logical operator whose left operand does not decide. -/
  | logicalRight {op : BinaryOp} {left : Expr} (hop : op.isLogical = true) {b : Bool}
      (hleft : (left.eval r s).value = .boolean b) (hopen : b ≠ decide (op = .or)) (right : Expr) :
      EvaluatesPart r s (.binary op left right) 1 s
  | condition (condition yes no : Expr) : EvaluatesPart r s (.conditional condition yes no) 0 s
  | yes {condition : Expr} (h : (condition.eval r s).value = .boolean true) (yes no : Expr) :
      EvaluatesPart r s (.conditional condition yes no) 1 s
  | no {condition : Expr} (h : (condition.eval r s).value = .boolean false) (yes no : Expr) :
      EvaluatesPart r s (.conditional condition yes no) 2 s
  | conditionOfIf (condition yes no : Expr) (rest : List Expr) (body : Option (Lambda Expr)) :
      EvaluatesPart r s (.control .if (condition :: yes :: no :: rest) body) 0 s
  | yesOfIf {condition : Expr} (h : (condition.eval r s).value = .boolean true) (yes no : Expr) (rest : List Expr)
      (body : Option (Lambda Expr)) : EvaluatesPart r s (.control .if (condition :: yes :: no :: rest) body) 1 s
  | noOfIf {condition : Expr} (h : (condition.eval r s).value = .boolean false) (yes no : Expr) (rest : List Expr)
      (body : Option (Lambda Expr)) : EvaluatesPart r s (.control .if (condition :: yes :: no :: rest) body) 2 s
  | source {form : ControlForm} (hform : form ∈ [.with, .forEach, .forEachIndex, .filter]) (source : Expr)
      (rest : List Expr) (lambda : Lambda Expr) : EvaluatesPart r s (.control form (source :: rest) (some lambda)) 0 s
  | bodyOfWith {value : Expr} (hvalue : (value.eval r s).value.isError = false) (rest : List Expr) (params : List String)
      (body : Expr) :
      EvaluatesPart r s (.control .with (value :: rest) (some ⟨params, body⟩)) (rest.length + 1)
        (s.enter (.ofParams params [(value.eval r s).value]))
  /-- The turn for an element after elements for which the body is no error. -/
  | forEachTurn {source body : Expr} {params : List String} {items : List Value} {n : Nat} {item : Value}
      (hsource : (source.eval r s).value = .array items) (hitem : items[n]? = some item)
      (hbefore : ∀ v ∈ items.take n, (Lambda.evalWith r s ⟨params, body⟩ [v]).value.isError = false) (rest : List Expr) :
      EvaluatesPart r s (.control .forEach (source :: rest) (some ⟨params, body⟩)) (rest.length + 1)
        (s.enter (.ofParams params [item]))
  | forEachIndexTurn {source body : Expr} {params : List String} {items : List Value} {n : Nat} {item : Value}
      (hsource : (source.eval r s).value = .array items) (hitem : items[n]? = some item)
      (hbefore : ∀ m < n, ∀ v, items[m]? = some v →
        (Lambda.evalWith r s ⟨params, body⟩ [.ofNat m, v]).value.isError = false) (rest : List Expr) :
      EvaluatesPart r s (.control .forEachIndex (source :: rest) (some ⟨params, body⟩)) (rest.length + 1)
        (s.enter (.ofParams params [.ofNat n, item]))
  /-- The turn for an element after elements for which the condition is a truth value. -/
  | filterTurn {source body : Expr} {params : List String} {items : List Value} {n : Nat} {item : Value}
      (hsource : (source.eval r s).value = .array items) (hitem : items[n]? = some item)
      (hbefore : ∀ v ∈ items.take n, ∃ b, (Lambda.evalWith r s ⟨params, body⟩ [v]).value = .boolean b)
      (rest : List Expr) :
      EvaluatesPart r s (.control .filter (source :: rest) (some ⟨params, body⟩)) (rest.length + 1)
        (s.enter (.ofParams params [item]))
  | firstBound (first last step : Expr) (rest : List Expr) (lambda : Lambda Expr) :
      EvaluatesPart r s (.control .forRange (first :: last :: step :: rest) (some lambda)) 0 s
  | lastBound {first : Expr} {a : Float} (hfirst : (first.eval r s).value = .number a) (last step : Expr)
      (rest : List Expr) (lambda : Lambda Expr) :
      EvaluatesPart r s (.control .forRange (first :: last :: step :: rest) (some lambda)) 1 s
  | step {first last : Expr} {a b : Float} (hfirst : (first.eval r s).value = .number a)
      (hlast : (last.eval r s).value = .number b) (step : Expr) (rest : List Expr) (lambda : Lambda Expr) :
      EvaluatesPart r s (.control .forRange (first :: last :: step :: rest) (some lambda)) 2 s
  | rangeTurn {first last step body : Expr} {params : List String} {a b c x : Float}
      (hfirst : (first.eval r s).value = .number a) (hlast : (last.eval r s).value = .number b)
      (hstep : (step.eval r s).value = .number c) (hmoves : (c == 0 || c.isNaN) = false)
      (hturn : RangeTurn b c (fun x => Lambda.evalWith r s ⟨params, body⟩ [.number x]) a x) (rest : List Expr) :
      EvaluatesPart r s (.control .forRange (first :: last :: step :: rest) (some ⟨params, body⟩)) (rest.length + 3)
        (s.enter (.ofParams params [.number x]))
  | value (value fallback : Expr) (rest : List Expr) (lambda : Lambda Expr) :
      EvaluatesPart r s (.control .forNonBlank (value :: fallback :: rest) (some lambda)) 0 s
  | fallback {value : Expr} (hvalue : ((value.eval r s).value.isBlank || (value.eval r s).value.isError) = true)
      (fallback : Expr) (rest : List Expr) (lambda : Lambda Expr) :
      EvaluatesPart r s (.control .forNonBlank (value :: fallback :: rest) (some lambda)) 1 s
  | bodyOfNonBlank {value : Expr} (hvalue : ((value.eval r s).value.isBlank || (value.eval r s).value.isError) = false)
      (fallback : Expr) (rest : List Expr) (params : List String) (body : Expr) :
      EvaluatesPart r s (.control .forNonBlank (value :: fallback :: rest) (some ⟨params, body⟩)) (rest.length + 2)
        (s.enter (.ofParams params [(value.eval r s).value]))

/-- `Reaches r e s path t`: evaluating the expression in the scope `s` evaluates what stands at the end of the path in the
scope `t`. -/
inductive Reaches (r : Registry) : Expr → Scope → List Nat → Scope → Prop where
  | here (e : Expr) (s : Scope) : Reaches r e s [] s
  | part {e part : Expr} {i : Nat} {path : List Nat} {s t u : Scope} (hpart : e.parts[i]? = some part)
      (heval : EvaluatesPart r s e i t) (h : Reaches r part t path u) : Reaches r e s (i :: path) u

/-! ## Parts that are passed over -/

/-- `PassesOver r s e i`: the part number `i` is not selected. -/
inductive PassesOver (r : Registry) (s : Scope) : Expr → Nat → Prop where
  | indexPosition {base : Expr} (hbase : (base.eval r s).value.isError = true) (position : Expr) :
      PassesOver r s (.index base position) 1
  | item {items : List Expr} {i j : Nat} {e : Expr} (hitem : items[j]? = some e)
      (herror : (e.eval r s).value.isError = true) (hlater : j < i) : PassesOver r s (.array items) i
  | right {op : BinaryOp} {left : Expr} (hleft : (left.eval r s).value.isError = true) (right : Expr) :
      PassesOver r s (.binary op left right) 1
  | logicalRight {op : BinaryOp} {left : Expr} (hop : op.isLogical = true)
      (hleft : (left.eval r s).value = .boolean (decide (op = .or))) (right : Expr) :
      PassesOver r s (.binary op left right) 1
  | no {condition : Expr} (h : (condition.eval r s).value = .boolean true) (yes no : Expr) :
      PassesOver r s (.conditional condition yes no) 2
  | yes {condition : Expr} (h : (condition.eval r s).value = .boolean false) (yes no : Expr) :
      PassesOver r s (.conditional condition yes no) 1
  | noOfIf {condition : Expr} (h : (condition.eval r s).value = .boolean true) (yes no : Expr) (rest : List Expr)
      (body : Option (Lambda Expr)) : PassesOver r s (.control .if (condition :: yes :: no :: rest) body) 2
  | yesOfIf {condition : Expr} (h : (condition.eval r s).value = .boolean false) (yes no : Expr) (rest : List Expr)
      (body : Option (Lambda Expr)) : PassesOver r s (.control .if (condition :: yes :: no :: rest) body) 1
  | emptyLoop {form : ControlForm} (hform : form ∈ [.forEach, .forEachIndex, .filter]) {source : Expr}
      (hsource : (source.eval r s).value = .array []) (rest : List Expr) (lambda : Lambda Expr) :
      PassesOver r s (.control form (source :: rest) (some lambda)) (rest.length + 1)
  | emptyRange {first last step : Expr} {a b c : Float} (hfirst : (first.eval r s).value = .number a)
      (hlast : (last.eval r s).value = .number b) (hstep : (step.eval r s).value = .number c)
      (hempty : isBefore c a b = false) (rest : List Expr) (lambda : Lambda Expr) :
      PassesOver r s (.control .forRange (first :: last :: step :: rest) (some lambda)) (rest.length + 3)
  | fallback {value : Expr} (hvalue : ((value.eval r s).value.isBlank || (value.eval r s).value.isError) = false)
      (fallback : Expr) (rest : List Expr) (lambda : Lambda Expr) :
      PassesOver r s (.control .forNonBlank (value :: fallback :: rest) (some lambda)) 1
  | bodyOfNonBlank {value : Expr} (hvalue : ((value.eval r s).value.isBlank || (value.eval r s).value.isError) = true)
      (fallback : Expr) (rest : List Expr) (lambda : Lambda Expr) :
      PassesOver r s (.control .forNonBlank (value :: fallback :: rest) (some lambda)) (rest.length + 2)

/-- What is passed over is evaluated in no scope. -/
theorem PassesOver.not_evaluatesPart {e : Expr} {i : Nat} (h : PassesOver r s e i) (t : Scope) :
    ¬EvaluatesPart r s e i t := by
  intro heval
  cases h with
  | indexPosition hbase position =>
    cases heval with
    | indexPosition hbase' => exact absurd (hbase.symm.trans hbase') (by decide)
  | item hitem herror hlater =>
    cases heval with
    | item hi hbefore =>
      have hmem := List.mem_of_getElem? ((List.getElem?_take_of_lt hlater).trans hitem)
      exact absurd (herror.symm.trans (hbefore _ hmem)) (by decide)
  | right hleft right =>
    cases heval with
    | right hop hleft' => exact absurd (hleft.symm.trans hleft') (by decide)
    | logicalRight hop hleft' => rw [hleft'] at hleft; cases hleft
  | logicalRight hop hleft right =>
    cases heval with
    | right hop' => exact absurd (hop.symm.trans hop') (by decide)
    | logicalRight _ hleft' hopen => exact hopen (Value.boolean.inj (hleft'.symm.trans hleft))
  | no h yes no => cases heval with | no h' => cases h.symm.trans h'
  | yes h yes no => cases heval with | yes h' => cases h.symm.trans h'
  | noOfIf h yes no rest body => cases heval with | noOfIf h' => cases h.symm.trans h'
  | yesOfIf h yes no rest body => cases heval with | yesOfIf h' => cases h.symm.trans h'
  | emptyLoop hform hsource rest lambda =>
    cases heval with
    | bodyOfWith | rangeTurn | bodyOfNonBlank => exact absurd hform (by decide)
    | forEachTurn hsource' hitem | forEachIndexTurn hsource' hitem | filterTurn hsource' hitem =>
      obtain rfl := Value.array.inj (hsource.symm.trans hsource')
      cases hitem
  | emptyRange hfirst hlast hstep hempty rest lambda =>
    cases heval with
    | rangeTurn hfirst' hlast' hstep' _ hturn =>
      obtain rfl := Value.number.inj (hfirst.symm.trans hfirst')
      obtain rfl := Value.number.inj (hlast.symm.trans hlast')
      obtain rfl := Value.number.inj (hstep.symm.trans hstep')
      cases hturn with
      | now hbefore | later hbefore => exact absurd (hempty.symm.trans hbefore) (by decide)
  | fallback hvalue fallback rest lambda =>
    cases heval with
    | fallback hvalue' => exact absurd (hvalue.symm.trans hvalue') (by decide)
  | bodyOfNonBlank hvalue fallback rest lambda =>
    cases heval with
    | bodyOfNonBlank hvalue' => exact absurd (hvalue.symm.trans hvalue') (by decide)

/-! ## Traces of what is reached -/

namespace Traced

theorem runs_infix_bind {α β : Type} (t : Traced α) (f : α → Traced β) : t.runs <:+: (t.bind f).runs :=
  (List.prefix_append _ _).isInfix

variable {runs : List BodyRun}

theorem runs_infix_bind_next {α β : Type} {t : Traced α} {f : α → Traced β} (hf : runs <:+: (f t.value).runs) :
    runs <:+: (t.bind f).runs :=
  hf.trans (List.suffix_append _ _).isInfix

theorem runs_infix_unlessError {t : Traced Value} {f : Value → Traced Value} (h : t.value.isError = false)
    (hf : runs <:+: (f t.value).runs) : runs <:+: (t.unlessError f).runs := by
  rw [unlessError_of_not_error h]
  exact runs_infix_bind_next hf

/-- What follows an item that is no error. -/
theorem runs_infix_rest {t : Traced Value} {u : Traced (Result (List Value))} (h : t.value.isError = false)
    (hu : runs <:+: u.runs) :
    runs <:+: (t.bind fun
      | .error e => .just (.error e)
      | v => u.map fun r => r.map (v :: ·)).runs := by
  obtain ⟨v, before, stuck⟩ := t
  cases v with
  | error e => cases h
  | _ => exact hu.trans (List.suffix_append _ _).isInfix

end Traced

open CellExpr.Traced

theorem runs_infix_collectPlaces {body : Value → Value → Traced Value} {items : List Value} {n : Nat} {item : Value}
    (place : Nat) (hitem : items[n]? = some item)
    (hbefore : ∀ m < n, ∀ v, items[m]? = some v → (body (.ofNat (place + m)) v).value.isError = false) :
    (body (.ofNat (place + n)) item).runs <:+: (collectPlaces body place items).runs := by
  induction items generalizing n place with
  | nil => cases hitem
  | cons first rest ih =>
    rw [collectPlaces]
    cases n with
    | zero =>
      obtain rfl := Option.some.inj hitem
      exact runs_infix_bind _ _
    | succ n =>
      have hfirst := hbefore 0 n.succ_pos first rfl
      refine runs_infix_rest hfirst ?_
      have hrest := ih (n := n) (place + 1) hitem fun m hm v hv => ?_
      · rwa [show place + 1 + n = place + (n + 1) by omega] at hrest
      · rw [show place + 1 + m = place + (m + 1) by omega]
        exact hbefore (m + 1) (by omega) v hv

/-- A loop over items is a loop over items and places that does not look at the places. -/
theorem collect_eq_collectPlaces (body : Value → Traced Value) (place : Nat) (items : List Value) :
    collect body items = collectPlaces (fun _ v => body v) place items := by
  induction items generalizing place with
  | nil => rfl
  | cons item rest ih => rw [collect, collectPlaces, ih (place + 1)]

theorem runs_infix_collect {body : Value → Traced Value} {items : List Value} {n : Nat} {item : Value}
    (hitem : items[n]? = some item) (hbefore : ∀ v ∈ items.take n, (body v).value.isError = false) :
    (body item).runs <:+: (collect body items).runs := by
  rw [collect_eq_collectPlaces body 0]
  refine @runs_infix_collectPlaces (fun _ v => body v) items n item 0 hitem fun m hm v hv => ?_
  exact hbefore v (List.mem_of_getElem? ((List.getElem?_take_of_lt hm).trans hv))

theorem runs_infix_select {condition : Value → Traced Value} {items : List Value} {n : Nat} {item : Value}
    (hitem : items[n]? = some item) (hbefore : ∀ v ∈ items.take n, ∃ b, (condition v).value = .boolean b) :
    (condition item).runs <:+: (select condition items).runs := by
  induction items generalizing n with
  | nil => cases hitem
  | cons first rest ih =>
    rw [select]
    cases n with
    | zero =>
      obtain rfl := Option.some.inj hitem
      exact runs_infix_bind _ _
    | succ n =>
      obtain ⟨⟨b, hfirst⟩, hlater⟩ := List.forall_mem_cons.1 hbefore
      have hrest := ih hitem hlater
      refine runs_infix_bind_next ?_
      rw [hfirst]
      cases b with
      | true => exact hrest
      | false => exact hrest

theorem RangeTurn.runs_infix {bound step : Float} {body : Float → Traced Value} {i x : Float}
    (h : RangeTurn bound step body i x) : (body x).runs <:+: (rangeFrom bound step body i).runs := by
  induction h with
  | now hbefore hnearer =>
    rw [rangeFrom, if_pos hbefore, if_pos hnearer]
    exact runs_infix_bind _ _
  | later hbefore hnearer hbody _ ih =>
    rw [rangeFrom, if_pos hbefore, if_pos hnearer]
    exact runs_infix_rest hbody ih

theorem RangeTurn.runs_infix_overRange {first bound step : Float} {body : Float → Traced Value} {x : Float}
    (hstep : (step == 0 || step.isNaN) = false) (h : RangeTurn bound step body first x) :
    (body x).runs <:+: (overRange first bound step body).runs := by
  rw [overRange, if_neg (by rw [hstep]; decide)]
  exact h.runs_infix

section

variable {runs : List BodyRun}

theorem runs_infix_overElements {form : ControlForm} {source : Traced Value} {items : List Value}
    {loop : List Value → Traced (Result (List Value))} (hsource : source.value = .array items)
    (hloop : runs <:+: (loop items).runs) : runs <:+: (overElements form source loop).runs := by
  have herror : source.value.isError = false := by rw [hsource]; rfl
  refine runs_infix_unlessError herror ?_
  rw [hsource]
  exact hloop

theorem runs_infix_withBound {bound : Traced Value} {x : Float} {f : Float → Traced Value}
    (hbound : bound.value = .number x) (hf : runs <:+: (f x).runs) : runs <:+: (withBound bound f).runs := by
  have hnumber : bound.value.isError = false := by rw [hbound]; rfl
  refine runs_infix_unlessError hnumber ?_
  rw [hbound]
  exact hf

theorem runs_infix_shortCircuit {op : BinaryOp} {left : Traced Value} {right : Unit → Traced Value} {b : Bool}
    (hleft : left.value = .boolean b) (hopen : b ≠ decide (op = .or)) (hright : runs <:+: (right ()).runs) :
    runs <:+: (shortCircuit op left right).runs := by
  have hboolean : left.value.isError = false := by rw [hleft]; rfl
  refine runs_infix_unlessError hboolean ?_
  rw [hleft]
  simp only [beq_eq_false_iff_ne.2 hopen, Bool.false_eq_true, if_false]
  exact hright.trans (runs_infix_bind _ _)

theorem runs_infix_choose {condition : Traced Value} {b : Bool} {fault : Fault} {yes no : Unit → Traced Value}
    (h : condition.value = .boolean b) (hbranch : runs <:+: (if b then yes () else no ()).runs) :
    runs <:+: (choose condition fault yes no).runs := by
  have hboolean : condition.value.isError = false := by rw [h]; rfl
  refine runs_infix_unlessError hboolean ?_
  rw [h]
  cases b with
  | true => exact hbranch
  | false => exact hbranch

end

namespace Expr

theorem runs_infix_evalItems {items : List Expr} {i : Nat} {item : Expr} (hitem : items[i]? = some item)
    (hbefore : ∀ e ∈ items.take i, (e.eval r s).value.isError = false) :
    (item.eval r s).runs <:+: (evalItems r items s).runs := by
  induction items generalizing i with
  | nil => cases hitem
  | cons first rest ih =>
    rw [evalItems]
    cases i with
    | zero =>
      obtain rfl := Option.some.inj hitem
      exact runs_infix_bind _ _
    | succ i =>
      obtain ⟨hfirst, hlater⟩ := List.forall_mem_cons.1 hbefore
      exact runs_infix_rest hfirst (ih hitem hlater)

/-- The arguments of a call leave their traces in order, all of them. -/
theorem runs_evalArgs (args : List Expr) : (evalArgs r args s).runs = args.flatMap fun e => (e.eval r s).runs := by
  induction args with
  | nil => rfl
  | cons arg rest ih =>
    rw [evalArgs, List.flatMap_cons, ← ih]
    rfl

end Expr

/-- A part that is evaluated leaves its trace. -/
theorem EvaluatesPart.runs_infix {e part : Expr} {i : Nat} (h : EvaluatesPart r s e i t) (hpart : e.parts[i]? = some part) :
    (part.eval r t).runs <:+: (e.eval r s).runs := by
  have hbody {form : ControlForm} {args : List Expr} {params : List String} {body : Expr}
      (hpart : (Expr.control form args (some ⟨params, body⟩)).parts[args.length]? = some part) : body = part :=
    Option.some.inj ((List.getElem?_concat_length (l := args) (a := body)).symm.trans hpart)
  cases h with
  | fieldBase base name =>
    obtain rfl := Option.some.inj hpart
    exact List.infix_rfl
  | indexBase base position =>
    obtain rfl := Option.some.inj hpart
    rw [Expr.eval]
    exact runs_infix_bind _ _
  | indexPosition hbase position =>
    obtain rfl := Option.some.inj hpart
    rw [Expr.eval]
    exact runs_infix_unlessError hbase (runs_infix_bind _ _)
  | item hi hbefore => exact Expr.runs_infix_evalItems hpart hbefore
  | argument name hi =>
    rw [Expr.eval]
    refine List.IsInfix.trans ?_ (runs_infix_bind _ _)
    rw [Expr.runs_evalArgs]
    exact List.infix_of_mem_flatten (List.mem_map_of_mem (List.mem_of_getElem? hpart))
  | operand op operand =>
    obtain rfl := Option.some.inj hpart
    exact List.infix_rfl
  | left op left right =>
    obtain rfl := Option.some.inj hpart
    rw [Expr.eval]
    split
    · exact runs_infix_bind _ _
    · exact runs_infix_bind _ _
  | right hop hleft right =>
    obtain rfl := Option.some.inj hpart
    rw [Expr.eval, if_neg (by rw [hop]; decide)]
    exact runs_infix_unlessError hleft List.infix_rfl
  | logicalRight hop hleft hopen right =>
    obtain rfl := Option.some.inj hpart
    rw [Expr.eval, if_pos hop]
    exact runs_infix_shortCircuit hleft hopen List.infix_rfl
  | condition condition yes no =>
    obtain rfl := Option.some.inj hpart
    rw [Expr.eval]
    exact runs_infix_bind _ _
  | yes h yes no =>
    obtain rfl := Option.some.inj hpart
    rw [Expr.eval]
    exact runs_infix_choose h List.infix_rfl
  | no h yes no =>
    obtain rfl := Option.some.inj hpart
    rw [Expr.eval]
    exact runs_infix_choose h List.infix_rfl
  | conditionOfIf condition yes no rest body =>
    obtain rfl : condition = part := by rcases body with _ | ⟨params, body⟩ <;> exact Option.some.inj hpart
    rw [Expr.eval]
    exact runs_infix_bind _ _
  | yesOfIf h yes no rest body =>
    obtain rfl : yes = part := by rcases body with _ | ⟨params, body⟩ <;> exact Option.some.inj hpart
    rw [Expr.eval]
    exact runs_infix_choose h List.infix_rfl
  | noOfIf h yes no rest body =>
    obtain rfl : no = part := by rcases body with _ | ⟨params, body⟩ <;> exact Option.some.inj hpart
    rw [Expr.eval]
    exact runs_infix_choose h List.infix_rfl
  | source hform source rest lambda =>
    obtain ⟨params, body⟩ := lambda
    obtain rfl := Option.some.inj hpart
    simp only [List.mem_cons, List.not_mem_nil, or_false] at hform
    rcases hform with rfl | rfl | rfl | rfl <;> rw [Expr.eval] <;> exact runs_infix_bind _ _
  | bodyOfWith hvalue rest params body =>
    obtain rfl := hbody hpart
    rw [Expr.eval]
    exact runs_infix_unlessError hvalue List.infix_rfl
  | forEachTurn hsource hitem hbefore rest =>
    obtain rfl := hbody hpart
    rw [Expr.eval]
    exact runs_infix_overElements hsource (runs_infix_collect hitem hbefore)
  | @forEachIndexTurn source body params items n item hsource hitem hbefore rest =>
    obtain rfl := hbody hpart
    rw [Expr.eval]
    refine runs_infix_overElements hsource ?_
    have hturn := @runs_infix_collectPlaces (fun i v => body.eval r (s.enter (.ofParams params [i, v]))) items n item 0 hitem
    simp only [Nat.zero_add] at hturn
    exact hturn hbefore
  | filterTurn hsource hitem hbefore rest =>
    obtain rfl := hbody hpart
    rw [Expr.eval]
    exact runs_infix_overElements hsource (runs_infix_select hitem hbefore)
  | firstBound first last step rest lambda =>
    obtain ⟨params, body⟩ := lambda
    obtain rfl := Option.some.inj hpart
    rw [Expr.eval]
    exact runs_infix_bind _ _
  | lastBound hfirst last step rest lambda =>
    obtain ⟨params, body⟩ := lambda
    obtain rfl := Option.some.inj hpart
    rw [Expr.eval]
    exact runs_infix_withBound hfirst (runs_infix_bind _ _)
  | step hfirst hlast step rest lambda =>
    obtain ⟨params, body⟩ := lambda
    obtain rfl := Option.some.inj hpart
    rw [Expr.eval]
    exact runs_infix_withBound hfirst (runs_infix_withBound hlast (runs_infix_bind _ _))
  | rangeTurn hfirst hlast hstep hmoves hturn rest =>
    obtain rfl := hbody hpart
    rw [Expr.eval]
    refine runs_infix_withBound hfirst (runs_infix_withBound hlast (runs_infix_withBound hstep ?_))
    exact hturn.runs_infix_overRange hmoves
  | value value fallback rest lambda =>
    obtain ⟨params, body⟩ := lambda
    obtain rfl := Option.some.inj hpart
    rw [Expr.eval]
    exact runs_infix_bind _ _
  | fallback hvalue fallback rest lambda =>
    obtain ⟨params, body⟩ := lambda
    obtain rfl := Option.some.inj hpart
    rw [Expr.eval]
    simp only [Traced.bind, hvalue, if_true]
    exact (List.suffix_append _ _).isInfix
  | bodyOfNonBlank hvalue fallback rest params body =>
    obtain rfl := hbody hpart
    rw [Expr.eval]
    simp only [Traced.bind, hvalue, Bool.false_eq_true, if_false]
    exact (List.suffix_append _ _).isInfix

/-- What is reached is there, and its function bodies run among those of the whole expression, one after the other. -/
theorem Reaches.runs_infix {e : Expr} {path : List Nat} (h : Reaches r e s path t) :
    ∃ sub, e.at? path = some sub ∧ (sub.eval r t).runs <:+: (e.eval r s).runs := by
  induction h with
  | here e s => exact ⟨e, rfl, List.infix_rfl⟩
  | part hpart heval _ ih =>
    obtain ⟨sub, hsub, hruns⟩ := ih
    exact ⟨sub, by rw [Expr.at?, hpart]; exact hsub, hruns.trans (heval.runs_infix hpart)⟩

end CellExpr
