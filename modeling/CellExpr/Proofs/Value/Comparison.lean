import CellExpr.Proofs.Function.ElementOrder
import CellExpr.Proofs.Value.Equality

/-!
# Comparing values

Two values are ordered in one of three ways: dates in time, numbers and texts that are numbers by their places, and other texts by
their characters (`compare_eq_ok_iff`). The operands may be turned round, and equal operands compare as equal (`compare_laws`).
"Less" is transitive as long as all three pairs are ordered in one way, which fails only where just two of three operands are numbers
(`Ordered.lt_trans`).
-/

namespace CellExpr

open CellExpr.Number

namespace Value

variable {a b c v : Value} {o : Ordering}

/-! ## How values are ordered -/

/-- `Ordered a b o`: the two values are ordered in one of three ways. -/
inductive Ordered : Value → Value → Ordering → Prop where
  | dates {c d : Calendar.Instant} {o : Ordering} (ho : c.cmp d = o) : Ordered (.date c) (.date d) o
  | texts {s t : String} {o : Ordering} (hother : parse? s = none ∨ parse? t = none) (ho : compareTexts s t = o) :
      Ordered (.string s) (.string t) o
  | numbers {a b : Value} {x y : Float} {o : Ordering} (ha : a.asNumber? = some x) (hb : b.asNumber? = some y)
      (hx : x.isNaN = false) (hy : y.isNaN = false) (ho : Ord.compare (rank x) (rank y) = o) : Ordered a b o

/-- What is wrong with two values that are not ordered. -/
def incomparable (a b : Value) : Fault :=
  match a.asNumber?, b.asNumber? with
  | some _, some _ => .cannotCompareNaN
  | none, none => .cannotCompare a.typeName b.typeName
  | _, _ => .expected "number"

variable {x y : Float}

theorem compare_of_numbers (ha : a.asNumber? = some x) (hb : b.asNumber? = some y) (hx : x.isNaN = false)
    (hy : y.isNaN = false) : a.compare b = .ok (Ord.compare (rank x) (rank y)) := by
  cases a with
  | number | string =>
    cases b with
    | number | string => simp only [Value.compare, ha, hb, compareNumbers?_eq_some hx hy]
    | _ => cases hb
  | _ => cases ha

theorem compare_of_isNaN (ha : a.asNumber? = some x) (hb : b.asNumber? = some y) (h : x.isNaN = true ∨ y.isNaN = true) :
    a.compare b = .fault .cannotCompareNaN := by
  cases a with
  | number | string =>
    cases b with
    | number | string => simp only [Value.compare, ha, hb, compareNumbers?_of_isNaN h]
    | _ => cases hb
  | _ => cases ha

theorem compare_of_texts {s t : String} (h : parse? s = none ∨ parse? t = none) :
    (string s).compare (string t) = .ok (compareTexts s t) := by
  simp only [Value.compare, asNumber?]
  cases hs : parse? s <;> cases ht : parse? t <;> simp_all

theorem compare_of_ordered (h : Ordered a b o) : a.compare b = .ok o := by
  cases h with
  | dates ho => exact congrArg _ ho
  | texts hother ho => rw [compare_of_texts hother, ho]
  | numbers ha hb hx hy ho => rw [compare_of_numbers ha hb hx hy, ho]

/-- Where one of two values is not a number, they are ordered as dates or as texts, or not at all. -/
theorem ordered_or_compare_eq_of_no_number (h : a.asNumber? = none ∨ b.asNumber? = none) :
    (∃ o, Ordered a b o) ∨ a.compare b = .fault (incomparable a b) := by
  cases a with
  | date c =>
    cases b with
    | date d => exact .inl ⟨_, .dates rfl⟩
    | string t =>
      right
      simp only [Value.compare, incomparable, asNumber?]
      cases parse? t <;> rfl
    | _ => exact .inr rfl
  | string s =>
    cases b with
    | string t => exact .inl ⟨_, .texts h rfl⟩
    | _ =>
      right
      simp only [Value.compare, incomparable, asNumber?]
      cases hs : parse? s <;> simp_all [asNumber?]
  | number x =>
    cases b with
    | number y => rcases h with h | h <;> cases h
    | string t =>
      have ht : parse? t = none := by simpa [asNumber?] using h
      right
      simp only [Value.compare, incomparable, asNumber?, ht]
    | _ => exact .inr rfl
  | _ =>
    cases b with
    | string t =>
      right
      simp only [Value.compare, incomparable, asNumber?]
      cases parse? t <;> rfl
    | _ => exact .inr rfl

/-- Two values are ordered, or comparing them comes to an error. -/
theorem ordered_or_compare_eq (a b : Value) : (∃ o, Ordered a b o) ∨ a.compare b = .fault (incomparable a b) := by
  cases ha : a.asNumber? with
  | none => exact ordered_or_compare_eq_of_no_number (.inl ha)
  | some x =>
    cases hb : b.asNumber? with
    | none => exact ordered_or_compare_eq_of_no_number (.inr hb)
    | some y =>
      by_cases hnan : x.isNaN = true ∨ y.isNaN = true
      · right
        simp only [compare_of_isNaN ha hb hnan, incomparable, ha, hb]
      · simp only [not_or, Bool.not_eq_true] at hnan
        exact .inl ⟨_, .numbers ha hb hnan.1 hnan.2 rfl⟩

theorem compare_eq_ok_iff : a.compare b = .ok o ↔ Ordered a b o := by
  refine ⟨fun h => ?_, compare_of_ordered⟩
  rcases ordered_or_compare_eq a b with ⟨o', hordered⟩ | herror
  · rw [compare_of_ordered hordered] at h
    exact Except.ok.inj h ▸ hordered
  · rw [herror] at h
    cases h

theorem compare_eq_error_iff {e : EvalError} : a.compare b = .error e ↔ (∀ o, ¬Ordered a b o) ∧ e = (incomparable a b).toError := by
  rcases ordered_or_compare_eq a b with ⟨o, hordered⟩ | herror
  · rw [compare_of_ordered hordered]
    exact iff_of_false nofun fun h => h.1 o hordered
  · rw [herror]
    refine ⟨fun h => ⟨fun o hordered => ?_, (Except.error.inj h).symm⟩, fun h => congrArg _ h.2.symm⟩
    rw [compare_of_ordered hordered] at herror
    cases herror

/-! ## Operands turned round -/

instance : Std.TransCmp compareTexts := inferInstanceAs (Std.TransCmp (Ord.compare : String → String → Ordering))

theorem Ordered.swap (h : Ordered a b o) : Ordered b a o.swap := by
  cases h with
  | @dates c d _ ho =>
    have hswap : d.cmp c = (c.cmp d).swap := Std.OrientedCmp.eq_swap
    exact .dates (by rw [hswap, ho])
  | @texts s t _ hother ho =>
    have hswap : compareTexts t s = (compareTexts s t).swap := Std.OrientedCmp.eq_swap
    exact .texts hother.symm (by rw [hswap, ho])
  | numbers ha hb hx hy ho => exact .numbers hb ha hy hx (by rw [← ho, Int.compare_swap])

theorem ordered_swap_iff : Ordered a b o ↔ Ordered b a o.swap := by
  refine ⟨.swap, fun h => ?_⟩
  have hback := h.swap
  rwa [Ordering.swap_swap] at hback

/-- What is wrong with two values is of the same kind when they are turned round. -/
theorem kind_incomparable_comm (a b : Value) : (incomparable a b).toError.kind = (incomparable b a).toError.kind := by
  simp only [incomparable]
  cases a.asNumber? <;> cases b.asNumber? <;> rfl

/-- Numbers that are equal have the same place, also where they stand in texts. -/
theorem rank_eq_of_equals (ha : a.asNumber? = some x) (hb : b.asNumber? = some y) (hequals : a.equals b = .ok true) :
    rank x = rank y := by
  have hnumbers : (x == y) = true → rank x = rank y := fun h => (beq_iff.1 h).2.2
  cases a with
  | number x' =>
    obtain rfl := Option.some.inj ha
    cases b with
    | number y' =>
      obtain rfl := Option.some.inj hb
      exact hnumbers (Except.ok.inj hequals)
    | string t =>
      have ht : parse? t = some y := hb
      simp only [equals, ht] at hequals
      exact hnumbers (Except.ok.inj hequals)
    | _ => cases hb
  | string s =>
    cases b with
    | number y' =>
      obtain rfl := Option.some.inj hb
      have hs : parse? s = some x := ha
      simp only [equals, hs] at hequals
      exact hnumbers (Except.ok.inj hequals)
    | string t =>
      obtain rfl : s = t := eq_of_beq (Except.ok.inj hequals)
      rw [ha] at hb
      rw [Option.some.inj hb]
    | _ => cases hb
  | _ => cases ha

/-- Values that are ordered and equal are ordered as equal. -/
theorem Ordered.eq_of_equals (h : Ordered a b o) (hequals : a.equals b = .ok true) : o = .eq := by
  cases h with
  | @dates c d _ ho =>
    obtain rfl : c = d := eq_of_beq (Except.ok.inj hequals)
    have hself : c.cmp c = .eq := Std.ReflCmp.compare_self
    rw [← ho, hself]
  | @texts s t _ _ ho =>
    obtain rfl : s = t := eq_of_beq (Except.ok.inj hequals)
    have hself : compareTexts s s = .eq := Std.ReflCmp.compare_self
    rw [← ho, hself]
  | numbers ha hb _ _ ho =>
    rw [← ho, Int.compare_eq_eq]
    exact rank_eq_of_equals ha hb hequals

/-! ## The relational operators -/

/-- What a relational operator asks of the order of its operands. -/
def test? : BinaryOp → Option (Ordering → Bool)
  | .lt => some (· == .lt)
  | .gt => some (· == .gt)
  | .le => some (· != .gt)
  | .ge => some (· != .lt)
  | _ => none

variable {op : BinaryOp} {test : Ordering → Bool}

theorem Ordered.isError_eq_false (h : Ordered a b o) : a.isError = false ∧ b.isError = false := by
  cases h with
  | dates | texts => exact ⟨rfl, rfl⟩
  | numbers ha hb =>
    constructor
    · cases a with
      | error => cases ha
      | _ => rfl
    · cases b with
      | error => cases hb
      | _ => rfl

theorem apply_of_test (hop : test? op = some test) (ha : a.isError = false) (hb : b.isError = false) :
    op.apply a b = (a.compare b).map fun o => .boolean (test o) := by
  cases a with
  | error => cases ha
  | _ =>
    cases b with
    | error => cases hb
    | _ => cases op <;> cases hop <;> rfl

theorem apply_of_ordered (hop : test? op = some test) (h : Ordered a b o) : op.apply a b = .ok (.boolean (test o)) := by
  rw [apply_of_test hop h.isError_eq_false.1 h.isError_eq_false.2, compare_of_ordered h]
  rfl

/-- An operator that has a value was applied to no error. -/
theorem isError_eq_false_of_apply (h : op.apply a b = .ok v) : a.isError = false ∧ b.isError = false := by
  cases ha : a.isError with
  | true =>
    cases a with
    | error => cases h
    | _ => cases ha
  | false =>
    cases hb : b.isError with
    | true =>
      cases b with
      | error =>
        rw [BinaryOp.apply_error op ha] at h
        cases h
      | _ => cases hb
    | false => exact ⟨rfl, rfl⟩

/-- A relational operator holds of two values if they are ordered in a way that it asks for. -/
theorem apply_eq_true_iff (hop : test? op = some test) :
    op.apply a b = .ok (.boolean true) ↔ ∃ o, Ordered a b o ∧ test o = true := by
  constructor
  · intro h
    obtain ⟨ha, hb⟩ := isError_eq_false_of_apply h
    rw [apply_of_test hop ha hb] at h
    rcases ordered_or_compare_eq a b with ⟨o, hordered⟩ | herror
    · rw [compare_of_ordered hordered] at h
      have htest : Value.boolean (test o) = .boolean true := Except.ok.inj h
      exact ⟨o, hordered, Value.boolean.inj htest⟩
    · rw [herror] at h
      cases h
  · rintro ⟨o, hordered, htest⟩
    rw [apply_of_ordered hop hordered, htest]

theorem less_iff : BinaryOp.lt.apply a b = .ok (.boolean true) ↔ a.compare b = .ok .lt := by
  rw [apply_eq_true_iff rfl, compare_eq_ok_iff]
  simp

theorem greater_iff : BinaryOp.gt.apply a b = .ok (.boolean true) ↔ b.compare a = .ok .lt := by
  rw [apply_eq_true_iff rfl, compare_eq_ok_iff, ordered_swap_iff]
  simp

/-- Two values are ordered one way round just if they are ordered the other way round, in the reverse order, and fail to compare
with errors of one kind. Of two values that are ordered the first one is either less or greater, or it is neither, so that "at most"
and "at least" hold; these say that it is not greater, and not less. Equal values that are ordered are ordered as equal. -/
theorem compare_laws (a b : Value) :
    (∀ o, a.compare b = .ok o ↔ b.compare a = .ok o.swap) ∧
      (∀ e, a.compare b = .error e → ∃ e', b.compare a = .error e' ∧ e'.kind = e.kind) ∧
      (∀ o, a.compare b = .ok o → ∃ less greater atMost atLeast : Bool,
        BinaryOp.lt.apply a b = .ok (.boolean less) ∧ BinaryOp.gt.apply a b = .ok (.boolean greater) ∧
          BinaryOp.le.apply a b = .ok (.boolean atMost) ∧ BinaryOp.ge.apply a b = .ok (.boolean atLeast) ∧
          [less, greater, atMost && atLeast].count true = 1 ∧ atMost = !greater ∧ atLeast = !less) ∧
      ∀ o, a.equals b = .ok true → a.compare b = .ok o → o = .eq := by
  refine ⟨fun o => ?_, fun e he => ?_, fun o ho => ?_, fun o hequals ho => ?_⟩
  · rw [compare_eq_ok_iff, compare_eq_ok_iff, ordered_swap_iff]
  · obtain ⟨hnone, rfl⟩ := compare_eq_error_iff.1 he
    refine ⟨_, compare_eq_error_iff.2 ⟨fun o hordered => hnone _ hordered.swap, rfl⟩, ?_⟩
    exact kind_incomparable_comm b a
  · have hordered := compare_eq_ok_iff.1 ho
    refine ⟨_, _, _, _, apply_of_ordered rfl hordered, apply_of_ordered rfl hordered, apply_of_ordered rfl hordered,
      apply_of_ordered rfl hordered, ?_⟩
    cases o <;> decide
  · exact (compare_eq_ok_iff.1 ho).eq_of_equals hequals

/-- A number and a text that is this number in another spelling, and a text that is no number. -/
theorem compare_laws_spellings :
    (Value.number 10).compare (.string " 1e1") = .ok .eq ∧ (Value.string " 1e1").compare (.number 10) = .ok .eq ∧
      BinaryOp.le.apply (.number 10) (.string " 1e1") = .ok (.boolean true) ∧
      ∃ e, (Value.string "x").compare (.number 10) = .error e ∧ e.kind = .type := by
  obtain ⟨hswap, _, hone, hequal⟩ := compare_laws (.number 10) (.string " 1e1")
  have hcompare : (Value.number 10).compare (.string " 1e1") = .ok .eq := rfl
  obtain ⟨_, greater, atMost, _, _, hgreater, hatMost, _, _, hnot, _⟩ := hone .eq hcompare
  have hfalse : BinaryOp.gt.apply (.number 10) (.string " 1e1") = .ok (.boolean false) := rfl
  obtain rfl : greater = false := by
    rw [hfalse] at hgreater
    injection hgreater with hgreater
    injection hgreater with hgreater
    exact hgreater.symm
  refine ⟨hcompare, (hswap .eq).1 hcompare, by rw [hatMost, hnot]; rfl, ?_⟩
  exact (compare_laws (.number 10) (.string "x")).2.1 _ rfl

/-! ## Transitivity -/

/-- How many of some values are numbers, or texts that are numbers. -/
def numericCount (values : List Value) : Nat := values.countP (·.asNumber?.isSome)

/-- "Less" is transitive unless just two of three values are numbers. -/
theorem Ordered.lt_trans (hab : Ordered a b .lt) (hbc : Ordered b c .lt) (hcount : numericCount [a, b, c] ≠ 2) :
    Ordered a c .lt := by
  cases hab with
  | dates hcd =>
    cases hbc with
    | dates hde => exact .dates (Std.TransCmp.lt_trans hcd hde)
    | numbers hb => cases hb
  | @texts s t _ hother hst =>
    cases hbc with
    | @texts _ u _ hother' htu =>
      refine .texts ?_ (Std.TransCmp.lt_trans hst htu)
      -- if both ends were numbers, the text between them would not be one
      by_contra hboth
      simp only [not_or, ← Option.isSome_iff_ne_none] at hboth
      have ht : parse? t = none := hother.resolve_left (Option.isSome_iff_ne_none.1 hboth.1)
      exact hcount (by simp [numericCount, asNumber?, hboth.1, hboth.2, ht])
    | numbers hb hc =>
      have hs : (string s).asNumber? = none := hother.resolve_right (Option.ne_none_iff_exists'.2 ⟨_, hb⟩)
      exact absurd (by simp [numericCount, hs, hb, hc]) hcount
  | numbers ha hb hx hy hxy =>
    cases hbc with
    | dates => cases hb
    | @texts t u _ hother htu =>
      have hu : (string u).asNumber? = none := hother.resolve_left (Option.ne_none_iff_exists'.2 ⟨_, hb⟩)
      exact absurd (by simp [numericCount, ha, hb, hu]) hcount
    | numbers hb' hc hy' hz hyz =>
      rw [hb] at hb'
      obtain rfl := Option.some.inj hb'
      refine .numbers ha hc hx hz ?_
      rw [Int.compare_eq_lt] at hxy hyz ⊢
      exact Int.lt_trans hxy hyz

/-- Of three values that come one after the other, just two of which are numbers, the third one is a text. -/
theorem Ordered.exists_text (hab : Ordered a b .lt) (hbc : Ordered b c .lt) (hcount : numericCount [a, b, c] = 2) :
    ∃ s, .string s ∈ [a, b, c] ∧ parse? s = none := by
  cases hab with
  | dates hcd =>
    cases hbc with
    | dates hde => cases hcount
    | numbers hb => cases hb
  | texts hother =>
    rcases hother with h | h
    · exact ⟨_, by simp, h⟩
    · exact ⟨_, by simp, h⟩
  | numbers ha hb =>
    cases hbc with
    | dates => cases hb
    | texts hother =>
      rcases hother with h | h
      · exact ⟨_, by simp, h⟩
      · exact ⟨_, by simp, h⟩
    | numbers hb' hc =>
      simp [numericCount, ha, hb, hc] at hcount

end Value

end CellExpr
