import CellExpr.Evaluation.Eval
import CellExpr.Function.Standard

/-!
# Laws of truth values

De Morgan's laws and associativity hold of the logical operators as they are evaluated (`eval_boolean_laws`): both sides come to the
same truth value or the same error, and the same function bodies run, in the same order. An operand that is no truth value counts as
an error, which ends the evaluation of both sides at the same operand.
-/

namespace CellExpr

namespace Traced

variable {α β γ : Type}

protected theorem map_map (t : Traced α) (f : α → β) (g : β → γ) : (t.map f).map g = t.map fun a => g (f a) := rfl

theorem map_eq_self {t : Traced α} {f : α → α} (h : f t.value = t.value) : t.map f = t := by rw [Traced.map, h]

protected theorem bind_assoc (t : Traced α) (f : α → Traced β) (g : β → Traced γ) :
    (t.bind f).bind g = t.bind fun a => (f a).bind g := by
  simp only [Traced.bind, List.append_assoc, Bool.or_assoc]

protected theorem map_bind (t : Traced α) (f : α → Traced β) (g : β → γ) : (t.bind f).map g = t.bind fun a => (f a).map g := rfl

protected theorem bind_map (t : Traced α) (f : α → β) (g : β → Traced γ) : (t.map f).bind g = t.bind fun a => g (f a) := rfl

end Traced

open CellExpr.Traced

/-! ## Truth values -/

namespace Value

/-- The truth value that a value is. Another value than a truth value or an error is an error. -/
def truth : Value → Value
  | boolean b => .boolean b
  | error e => .error e
  | _ => .error (Fault.expected "boolean").toError

/-- The opposite of a truth value. -/
def opposite (v : Value) : Value := .ofExcept (UnaryOp.not.apply v)

/-- A value is a truth value, or it comes to an error whether it is taken as one or negated. -/
theorem truthCases (v : Value) : (∃ b, v = .boolean b) ∨ ∃ e, v.truth = .error e ∧ v.opposite = .error e := by
  cases v with
  | boolean b => exact .inl ⟨b, rfl⟩
  | error e => exact .inr ⟨e, rfl, rfl⟩
  | _ => exact .inr ⟨_, rfl, rfl⟩

theorem truth_truth (v : Value) : v.truth.truth = v.truth := by cases v <;> rfl

theorem opposite_truth (v : Value) : v.truth.opposite = v.opposite := by cases v <;> rfl

theorem truth_opposite (v : Value) : v.opposite.truth = v.opposite := by cases v <;> rfl

end Value

/-! ## Operators -/

/-- Conjunction for disjunction and the other way round. -/
def BinaryOp.dual : BinaryOp → BinaryOp
  | and => or
  | or => and
  | op => op

/-- The truth value that decides a logical operator. -/
def BinaryOp.decider (op : BinaryOp) : Bool := decide (op = .or)

variable {op : BinaryOp} {left : Traced Value} {right : Unit → Traced Value}

/-- A left operand that decides is the result. -/
theorem shortCircuit_of_decider (hleft : left.value = .boolean op.decider) : shortCircuit op left right = left := by
  obtain ⟨v, runs, stuck⟩ := left
  obtain rfl : v = .boolean op.decider := hleft
  simp only [shortCircuit, unlessError, Traced.bind, BinaryOp.decider, beq_self_eq_true, if_true, just, List.append_nil,
    Bool.or_false]

/-- The right operand of a logical operator is the result if it is a truth value. -/
theorem decided_not_decider (hop : op.isLogical = true) (t : Traced Value) : decided op (!op.decider) t = t.map Value.truth := by
  obtain ⟨v, runs, stuck⟩ := t
  cases op with
  | and | or =>
    cases v with
    | boolean b => cases b <;> simp [decided, unlessError, Traced.bind, just, Traced.map, Value.logical, BinaryOp.decider,
        Value.truth, Value.ofExcept]
    | _ => simp [decided, unlessError, Traced.bind, just, Traced.map, Value.logical, Value.truth, Value.ofExcept, Result.fault]
  | _ => cases hop

/-- A left operand that does not decide leaves the result to the right one. -/
theorem shortCircuit_of_open (hop : op.isLogical = true) (hleft : left.value = .boolean (!op.decider)) :
    shortCircuit op left right = left.bind fun _ => (right ()).map Value.truth := by
  obtain ⟨v, runs, stuck⟩ := left
  obtain rfl : v = .boolean (!op.decider) := hleft
  rw [← decided_not_decider hop]
  cases op with
  | and | or => rfl
  | _ => cases hop

/-- A left operand that is no truth value is an error, and the right one is not looked at. -/
theorem shortCircuit_of_error {e : EvalError} (hleft : left.value.truth = .error e) :
    shortCircuit op left right = left.map Value.truth := by
  obtain ⟨v, runs, stuck⟩ := left
  cases v with
  | boolean b => cases hleft
  | _ => simp only [shortCircuit, unlessError, Traced.bind, just, Traced.map, Value.truth, List.append_nil, Bool.or_false]

/-- Of two truth values an operator has the value that it has of operands at hand. -/
theorem value_shortCircuit {x y : Bool} (hop : op.isLogical = true) (hx : left.value = .boolean x)
    (hy : (right ()).value = .boolean y) :
    (shortCircuit op left right).value = .ofExcept (op.apply (.boolean x) (.boolean y)) := by
  by_cases hdecides : x = op.decider
  · subst hdecides
    rw [shortCircuit_of_decider hx, hx]
    cases op with
    | and | or => cases y <;> rfl
    | _ => cases hop
  · obtain rfl := Bool.eq_not.2 hdecides
    have hvalue : (shortCircuit op left right).value = (right ()).value.truth := by rw [shortCircuit_of_open hop hx]; rfl
    rw [hvalue, hy]
    cases op with
    | and | or => cases y <;> rfl
    | _ => cases hop

/-- A left operand decides, or it does not, or it is an error. -/
theorem BinaryOp.deciderCases (op : BinaryOp) (v : Value) :
    v = .boolean op.decider ∨ v = .boolean (!op.decider) ∨ ∃ e, v.truth = .error e ∧ v.opposite = .error e := by
  rcases v.truthCases with ⟨b, rfl⟩ | herror
  · by_cases hb : b = op.decider
    · exact .inl (hb ▸ rfl)
    · exact .inr (.inl (Bool.eq_not.2 hb ▸ rfl))
  · exact .inr (.inr herror)

/-- A logical operator has a truth value, or an error. -/
theorem map_truth_shortCircuit (hop : op.isLogical = true) :
    (shortCircuit op left right).map Value.truth = shortCircuit op left right := by
  rcases op.deciderCases left.value with hleft | hleft | ⟨e, hleft, _⟩
  · rw [shortCircuit_of_decider hleft]
    exact map_eq_self (by rw [hleft]; rfl)
  · rw [shortCircuit_of_open hop hleft, Traced.map_bind]
    simp only [Traced.map_map, Value.truth_truth]
  · rw [shortCircuit_of_error hleft, Traced.map_map]
    simp only [Value.truth_truth]

/-- Taking the left operand as a truth value first changes nothing. -/
theorem shortCircuit_map_truth (hop : op.isLogical = true) :
    shortCircuit op (left.map Value.truth) right = shortCircuit op left right := by
  rcases op.deciderCases left.value with hleft | hleft | ⟨e, hleft, _⟩
  · have hmapped : (left.map Value.truth).value = .boolean op.decider := by rw [Traced.map, hleft]; rfl
    rw [shortCircuit_of_decider hmapped, shortCircuit_of_decider hleft]
    exact map_eq_self (by rw [hleft]; rfl)
  · have hmapped : (left.map Value.truth).value = .boolean (!op.decider) := by rw [Traced.map, hleft]; rfl
    rw [shortCircuit_of_open hop hmapped, shortCircuit_of_open hop hleft, Traced.bind_map]
  · have hmapped : (left.map Value.truth).value.truth = .error e := by rw [Traced.map, Value.truth_truth]; exact hleft
    rw [shortCircuit_of_error hmapped, shortCircuit_of_error hleft, Traced.map_map]
    simp only [Value.truth_truth]

/-! ## Laws -/

/-- The opposite of a conjunction is the disjunction of the opposites, and the other way round. -/
theorem map_opposite_shortCircuit (hop : op.isLogical = true) :
    (shortCircuit op left right).map Value.opposite =
      shortCircuit op.dual (left.map Value.opposite) fun _ => (right ()).map Value.opposite := by
  have hdual : op.dual.decider = !op.decider ∧ op.dual.isLogical = true := by
    cases op with
    | and | or => exact ⟨rfl, rfl⟩
    | _ => cases hop
  rcases op.deciderCases left.value with hleft | hleft | ⟨e, hleft, hopposite⟩
  · rw [shortCircuit_of_decider hleft, shortCircuit_of_decider]
    rw [Traced.map, hleft, hdual.1]
    rfl
  · rw [shortCircuit_of_open hop hleft, shortCircuit_of_open hdual.2, Traced.map_bind, Traced.bind_map]
    · simp only [Traced.map_map, Value.opposite_truth, Value.truth_opposite]
    · rw [Traced.map, hleft, hdual.1]
      rfl
  · have hfails : (left.map Value.opposite).value.truth = .error e := by rw [Traced.map, hopposite]; rfl
    rw [shortCircuit_of_error hleft, shortCircuit_of_error hfails, Traced.map_map, Traced.map_map]
    simp only [Value.opposite_truth, Value.truth_opposite]

/-- Where an operand of an operator is a result of the same one, it does not matter on which side. -/
theorem shortCircuit_assoc (hop : op.isLogical = true) (middle : Unit → Traced Value) :
    shortCircuit op (shortCircuit op left middle) right = shortCircuit op left fun _ => shortCircuit op (middle ()) right := by
  rcases op.deciderCases left.value with hleft | hleft | ⟨e, hleft, _⟩
  · rw [shortCircuit_of_decider hleft, shortCircuit_of_decider hleft, shortCircuit_of_decider hleft]
  · have hlater (t : Traced Value) : shortCircuit op (left.bind fun _ => t) right = left.bind fun _ => shortCircuit op t right := by
      rw [shortCircuit, unlessError, Traced.bind_assoc]
      rfl
    rw [shortCircuit_of_open hop hleft, shortCircuit_of_open hop hleft, hlater, shortCircuit_map_truth hop,
      map_truth_shortCircuit hop]
  · have hfails : (left.map Value.truth).value.truth = .error e := by rw [Traced.map, Value.truth_truth]; exact hleft
    rw [shortCircuit_of_error hleft, shortCircuit_of_error hleft, shortCircuit_of_error hfails, Traced.map_map]
    simp only [Value.truth_truth]

/-! ## Functions on truth values -/

theorem Registry.value_call_and (now : Calendar.Instant) (x y : Bool) (s : Scope) :
    ((standard now).call "and" [.boolean x, .boolean y] s).value = .boolean (x && y) := by
  cases x <;> cases y <;> rfl

theorem Registry.value_call_or (now : Calendar.Instant) (x y : Bool) (s : Scope) :
    ((standard now).call "or" [.boolean x, .boolean y] s).value = .boolean (x || y) := by
  cases x <;> cases y <;> rfl

/-! ## Expressions -/

namespace Expr

variable {r : Registry} {s : Scope}

theorem eval_not (e : Expr) : (unary .not e).eval r s = (e.eval r s).map Value.opposite := by
  rw [eval]
  rfl

theorem eval_logical (hop : op.isLogical = true) (a b : Expr) :
    (binary op a b).eval r s = shortCircuit op (a.eval r s) fun _ => b.eval r s := by
  rw [eval, if_pos hop]

/-- A function that is called under the name of a standard one, with two truth values, has the value that the standard one has. -/
theorem value_call_of_lookup? {name : String} {now : Calendar.Instant} {a b : Expr} {x y : Bool}
    (hname : r.lookup? name = (Registry.standard now).lookup? name) (hx : (a.eval r s).value = .boolean x)
    (hy : (b.eval r s).value = .boolean y) :
    ((call name [a, b]).eval r s).value = ((Registry.standard now).call name [.boolean x, .boolean y] s).value := by
  have hargs : (evalArgs r [a, b] s).value = [.boolean x, .boolean y] := by rw [← hx, ← hy]; rfl
  have hcall : r.call name [.boolean x, .boolean y] s = (Registry.standard now).call name [.boolean x, .boolean y] s := by
    rw [Registry.call, hname, ← Registry.call]
  rw [eval, Traced.bind, hargs, hcall]

end Expr

/-- De Morgan's laws and associativity hold of expressions in every scope and with all functions: both sides have the same value,
which may be an error, and leave the same trace. Where both operands are truth values, the operators do what they do with operands
at hand, and what the standard functions of their names do. -/
theorem eval_boolean_laws (r : Registry) (s : Scope) (a b c : Expr) :
    (Expr.unary .not (.binary .and a b)).eval r s = (Expr.binary .or (.unary .not a) (.unary .not b)).eval r s ∧
      (Expr.unary .not (.binary .or a b)).eval r s = (Expr.binary .and (.unary .not a) (.unary .not b)).eval r s ∧
      (Expr.binary .and (.binary .and a b) c).eval r s = (Expr.binary .and a (.binary .and b c)).eval r s ∧
      (Expr.binary .or (.binary .or a b) c).eval r s = (Expr.binary .or a (.binary .or b c)).eval r s ∧
      ∀ x y, (a.eval r s).value = .boolean x → (b.eval r s).value = .boolean y →
        (((Expr.binary .and a b).eval r s).value = .boolean (x && y) ∧
          BinaryOp.and.apply (.boolean x) (.boolean y) = .ok (.boolean (x && y)) ∧
          ∀ now, r.lookup? "and" = (Registry.standard now).lookup? "and" →
            ((Expr.call "and" [a, b]).eval r s).value = .boolean (x && y)) ∧
        ((Expr.binary .or a b).eval r s).value = .boolean (x || y) ∧
          BinaryOp.or.apply (.boolean x) (.boolean y) = .ok (.boolean (x || y)) ∧
          ∀ now, r.lookup? "or" = (Registry.standard now).lookup? "or" →
            ((Expr.call "or" [a, b]).eval r s).value = .boolean (x || y) := by
  have hand : BinaryOp.and.isLogical = true := rfl
  have hor : BinaryOp.or.isLogical = true := rfl
  refine ⟨?_, ?_, ?_, ?_, fun x y hx hy => ⟨⟨?_, rfl, fun now hname => ?_⟩, ?_, rfl, fun now hname => ?_⟩⟩
  · simp only [Expr.eval_not, Expr.eval_logical hand, Expr.eval_logical hor]
    exact map_opposite_shortCircuit hand
  · simp only [Expr.eval_not, Expr.eval_logical hand, Expr.eval_logical hor]
    exact map_opposite_shortCircuit hor
  · simp only [Expr.eval_logical hand]
    exact shortCircuit_assoc hand _
  · simp only [Expr.eval_logical hor]
    exact shortCircuit_assoc hor _
  · rw [Expr.eval_logical hand, value_shortCircuit hand hx hy]
    rfl
  · rw [Expr.value_call_of_lookup? hname hx hy, Registry.value_call_and]
  · rw [Expr.eval_logical hor, value_shortCircuit hor hx hy]
    rfl
  · rw [Expr.value_call_of_lookup? hname hx hy, Registry.value_call_or]

/-- `isBlank(value)` -/
def isBlankCell : Expr := .call "isBlank" [.var "value"]

/-- `isNull(value)` -/
def isNullCell : Expr := .call "isNull" [.var "value"]

/-- An empty cell is blank and not null. -/
theorem eval_boolean_laws_blankCell :
    (isBlankCell.eval (.standard ⟨0, 0, by decide⟩) [[("value", .string "")]]).value = .boolean true ∧
      (isNullCell.eval (.standard ⟨0, 0, by decide⟩) [[("value", .string "")]]).value = .boolean false ∧
      ((Expr.binary .and isBlankCell isNullCell).eval (.standard ⟨0, 0, by decide⟩) [[("value", .string "")]]).value =
        .boolean false ∧
      ((Expr.call "and" [isBlankCell, isNullCell]).eval (.standard ⟨0, 0, by decide⟩) [[("value", .string "")]]).value =
        .boolean false ∧
      ((Expr.binary .or isBlankCell isNullCell).eval (.standard ⟨0, 0, by decide⟩) [[("value", .string "")]]).value =
        .boolean true ∧
      ((Expr.call "or" [isBlankCell, isNullCell]).eval (.standard ⟨0, 0, by decide⟩) [[("value", .string "")]]).value =
        .boolean true := by
  obtain ⟨_, _, _, _, htruth⟩ :=
    eval_boolean_laws (.standard ⟨0, 0, by decide⟩) [[("value", .string "")]] isBlankCell isNullCell (.literal .null)
  obtain ⟨⟨hand, _, handCall⟩, hor, _, horCall⟩ := htruth true false rfl rfl
  exact ⟨rfl, rfl, hand, handCall ⟨0, 0, by decide⟩ rfl, hor, horCall ⟨0, 0, by decide⟩ rfl⟩

end CellExpr
