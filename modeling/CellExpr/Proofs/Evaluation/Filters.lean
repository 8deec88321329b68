import CellExpr.Proofs.Evaluation.BooleanLaws
import CellExpr.Proofs.Evaluation.Loops
import CellExpr.Proofs.Value.Comparison

/-!
# Filters that compare

A filter keeps elements of its array for which the condition is true (`mem_select`). Where the condition compares in two steps,
`x > y && y > z`, the step from `x` to `z` may be taken as well, unless just two of the three values are numbers (`less_trans`).
Then they need not be compared in one way: of the texts `10`, `1a` and `9` each is less than the next one by its characters, and the
last one is less than the first one as a number (`not_less_trans`).
-/

namespace CellExpr

open CellExpr.Traced CellExpr.Value CellExpr.Number

/-! ## Conditions that are true -/

theorem value_shortCircuit_and_eq_true_iff {left : Traced Value} {right : Unit → Traced Value} :
    (shortCircuit .and left right).value = .boolean true ↔ left.value = .boolean true ∧ (right ()).value = .boolean true := by
  constructor
  · intro h
    rcases BinaryOp.deciderCases .and left.value with hfalse | htrue | ⟨e, herror, _⟩
    · rw [shortCircuit_of_decider hfalse, hfalse] at h
      cases h
    · rw [shortCircuit_of_open rfl htrue] at h
      refine ⟨htrue, ?_⟩
      have hright : (right ()).value.truth = .boolean true := h
      rcases (right ()).value.truthCases with ⟨b, hb⟩ | ⟨e, herror, _⟩
      · rwa [hb] at hright ⊢
      · rw [herror] at hright
        cases hright
    · rw [shortCircuit_of_error herror] at h
      have hleft : left.value.truth = .boolean true := h
      rw [herror] at hleft
      cases hleft
  · rintro ⟨hleft, hright⟩
    exact value_shortCircuit rfl hleft hright

theorem value_both (op : BinaryOp) (left : Traced Value) (right : Unit → Traced Value) :
    (both op left right).value = .ofExcept (op.apply left.value (right ()).value) := by
  obtain ⟨v, runs, stuck⟩ := left
  cases v with
  | error => rfl
  | _ => rfl

theorem Expr.value_binary_eq_true_iff {r : Registry} {s : Scope} {op : BinaryOp} {x y : Expr} (hop : op.isLogical = false) :
    ((Expr.binary op x y).eval r s).value = .boolean true ↔
      op.apply (x.eval r s).value (y.eval r s).value = .ok (.boolean true) := by
  rw [Expr.eval, if_neg (by simp [hop]), value_both]
  cases op.apply (x.eval r s).value (y.eval r s).value with
  | error => exact iff_of_false nofun nofun
  | ok v => exact ⟨congrArg _, Except.ok.inj⟩

/-- What a filter keeps are elements of its array for which its condition is true. -/
theorem mem_select {condition : Value → Traced Value} {items kept : List Value} {v : Value}
    (hkept : (select condition items).value = .ok kept) (hv : v ∈ kept) : v ∈ items ∧ (condition v).value = .boolean true := by
  induction items generalizing kept with
  | nil =>
    obtain rfl := Except.ok.inj hkept
    cases hv
  | cons item rest ih =>
    simp only [select, Traced.bind] at hkept
    split at hkept
    · rename_i hitem
      cases hlater : (select condition rest).value with
      | error e =>
        simp only [Traced.map, hlater] at hkept
        cases hkept
      | ok later =>
        simp only [Traced.map, hlater] at hkept
        obtain rfl := Except.ok.inj hkept
        rcases List.mem_cons.1 hv with rfl | hv
        · exact ⟨.head _, hitem⟩
        · exact (ih hlater hv).imp_left (.tail _)
    · exact (ih hkept hv).imp_left (.tail _)
    · cases hkept
    · cases hkept

/-- A filter that comes to an array has taken its elements from one. -/
theorem exists_items_of_overElements {form : ControlForm} {source : Traced Value} {kept : List Value}
    {loop : List Value → Traced (Result (List Value))} (h : (overElements form source loop).value = .array kept) :
    ∃ items, source.value = .array items ∧ (loop items).value = .ok kept := by
  obtain ⟨v, runs, stuck⟩ := source
  cases v with
  | array items =>
    refine ⟨items, rfl, ?_⟩
    have hkept : Value.ofExcept ((loop items).value.map .array) = .array kept := h
    cases hloop : (loop items).value with
    | error e =>
      rw [hloop] at hkept
      cases hkept
    | ok items' =>
      rw [hloop] at hkept
      cases hkept
      rfl
  | _ => cases h

/-! ## Transitivity -/

/-- "Less" holds of the first and the last of three values if it holds of each and the next one, unless just two of the three are
numbers, or texts that are numbers; the other one is a text that is no number then. With this exception an element of an array for
which both steps of a comparison in a filter are true is one for which the comparison of the ends is true. -/
theorem less_trans (a b c : Value) (r : Registry) (s : Scope) (source x y z : Expr) (params : List String) :
    (a.compare b = .ok .lt → b.compare c = .ok .lt →
        (numericCount [a, b, c] ≠ 2 → a.compare c = .ok .lt) ∧
          (numericCount [a, b, c] = 2 → ∃ t, .string t ∈ [a, b, c] ∧ parse? t = none)) ∧
      (BinaryOp.lt.apply a b = .ok (.boolean true) → BinaryOp.lt.apply b c = .ok (.boolean true) → numericCount [a, b, c] ≠ 2 →
        BinaryOp.lt.apply a c = .ok (.boolean true)) ∧
      ∀ kept, ((Expr.control .filter [source] (some ⟨params, .binary .and (.binary .gt x y) (.binary .gt y z)⟩)).eval r s).value =
          .array kept →
        ∀ v ∈ kept,
          let inner := s.enter (.ofParams params [v])
          numericCount [(x.eval r inner).value, (y.eval r inner).value, (z.eval r inner).value] ≠ 2 →
            ((Expr.binary .gt x z).eval r inner).value = .boolean true := by
  have htrans (a b c : Value) (hab : a.compare b = .ok .lt) (hbc : b.compare c = .ok .lt) (hcount : numericCount [a, b, c] ≠ 2) :
      a.compare c = .ok .lt :=
    compare_of_ordered ((compare_eq_ok_iff.1 hab).lt_trans (compare_eq_ok_iff.1 hbc) hcount)
  refine ⟨fun hab hbc => ⟨htrans a b c hab hbc, fun hcount => ?_⟩, fun hab hbc hcount => ?_, fun kept hkept v hv => ?_⟩
  · exact (compare_eq_ok_iff.1 hab).exists_text (compare_eq_ok_iff.1 hbc) hcount
  · exact less_iff.2 (htrans a b c (less_iff.1 hab) (less_iff.1 hbc) hcount)
  · intro inner hcount
    rw [Expr.eval] at hkept
    obtain ⟨items, _, hselect⟩ := exists_items_of_overElements hkept
    have hcondition := (mem_select hselect hv).2
    rw [Expr.eval_logical rfl, value_shortCircuit_and_eq_true_iff, Expr.value_binary_eq_true_iff rfl,
      Expr.value_binary_eq_true_iff rfl, greater_iff, greater_iff] at hcondition
    rw [Expr.value_binary_eq_true_iff rfl, greater_iff]
    refine htrans _ _ _ hcondition.2 hcondition.1 ?_
    rwa [numericCount, ← List.countP_reverse]

/-- The cells of a column that are greater than `s`, if `s` is greater than `t`. -/
def cellsAbove : Expr :=
  .control .filter [.var "cells"]
    (some ⟨["x"], .binary .and (.binary .gt (.var "x") (.var "s")) (.binary .gt (.var "s") (.var "t"))⟩)

/-- A column and two bounds. -/
def columnScope (cells : List Value) (s t : Value) : Scope := [[("cells", .array cells), ("s", s), ("t", t)]]

/-- A column of numbers and texts that are numbers, filtered by a text and a number; and three texts, one of which is no number. -/
theorem less_trans_column :
    (Value.number 9).compare (.number 11) = .ok .lt ∧ BinaryOp.lt.apply (.number 9) (.number 11) = .ok (.boolean true) ∧
      (∃ t, Value.string t ∈ [Value.string "10", .string "1a", .string "9"] ∧ parse? t = none) ∧
      let s := columnScope [.number 11, .string "2", .string "1e2"] (.string "10") (.number 9)
      (cellsAbove.eval (.standard ⟨0, 0, by decide⟩) s).value = .array [.number 11, .string "1e2"] ∧
        ((Expr.binary .gt (.var "x") (.var "t")).eval (.standard ⟨0, 0, by decide⟩)
          (s.enter (.ofParams ["x"] [.string "1e2"]))).value = .boolean true := by
  let r : Registry := .standard ⟨0, 0, by decide⟩
  let s : Scope := columnScope [.number 11, .string "2", .string "1e2"] (.string "10") (.number 9)
  have htrans (a b c : Value) := less_trans a b c r s (.var "cells") (.var "x") (.var "s") (.var "t") ["x"]
  obtain ⟨hcompare, hless, hfilter⟩ := htrans (.number 9) (.string "10") (.number 11)
  have htext := ((htrans (.string "10") (.string "1a") (.string "9")).1 rfl rfl).2 (by decide)
  have hkept : (cellsAbove.eval r s).value = .array [.number 11, .string "1e2"] := rfl
  exact ⟨(hcompare rfl rfl).1 (by decide), hless rfl rfl (by decide), htext, hkept, hfilter _ hkept _ (by simp) (by decide)⟩

/-- Texts and numbers that are compared in different ways: the first one of each triple is not less than the last one as a number or
by its characters, or does not compare with it. A filter keeps a cell that is not greater than the second bound. -/
theorem not_less_trans :
    (∀ triple ∈ [("10", "1a", "9"), ("5x", "9", "10"), ("9", "10", "5x")],
        BinaryOp.lt.apply (.string triple.1) (.string triple.2.1) = .ok (.boolean true) ∧
          BinaryOp.lt.apply (.string triple.2.1) (.string triple.2.2) = .ok (.boolean true) ∧
          BinaryOp.lt.apply (.string triple.1) (.string triple.2.2) = .ok (.boolean false)) ∧
      (∀ triple ∈ [(Value.string "5x", Value.string "9", Value.number 10), (.number 9, .string "10", .string "5x")],
        BinaryOp.lt.apply triple.1 triple.2.1 = .ok (.boolean true) ∧
          BinaryOp.lt.apply triple.2.1 triple.2.2 = .ok (.boolean true) ∧
          BinaryOp.lt.apply triple.1 triple.2.2 = .fault (.expected "number")) ∧
      (cellsAbove.eval (.standard ⟨0, 0, by decide⟩) (columnScope [.string "9"] (.string "1a") (.string "10"))).value =
        .array [.string "9"] ∧
      BinaryOp.gt.apply (.string "9") (.string "10") = .ok (.boolean false) ∧
      ¬∀ a b c : Value, a.compare b = .ok .lt → b.compare c = .ok .lt → a.compare c = .ok .lt := by
  have hgreater : (Value.string "10").compare (.string "9") = .ok .gt := rfl
  refine ⟨fun triple htriple => ?_, fun triple htriple => ?_, rfl, rfl, fun htrans => ?_⟩
  · simp only [List.mem_cons, List.not_mem_nil, or_false] at htriple
    rcases htriple with rfl | rfl | rfl <;> exact ⟨rfl, rfl, rfl⟩
  · simp only [List.mem_cons, List.not_mem_nil, or_false] at htriple
    rcases htriple with rfl | rfl <;> exact ⟨rfl, rfl, rfl⟩
  · have hless := htrans (.string "10") (.string "1a") (.string "9") rfl rfl
    rw [hgreater] at hless
    cases hless

end CellExpr
