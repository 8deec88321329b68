import CellExpr.Function.Sequence
import CellExpr.Proofs.Number.Order
import Mathlib.Tactic.Choose

/-!
# The order of elements

The order that sorting goes by, on elements of one kind. Texts are ordered by their characters, dates in time and doubles by their
places. A double that is no number compares with none, so that it counts as equal to all: turned round the order is still its own
reverse and "less" is still transitive, but "equal" is not, unless there is no such double or all elements are equal
(`elementOrder_isPreorderOn_iff`).
-/

namespace CellExpr

open CellExpr.Number CellExpr.SequenceFunctions

/-! ## Comparing numbers, texts and dates -/

namespace Value

variable {x y : Float}

theorem compareNumbers?_of_isNaN (h : x.isNaN = true ∨ y.isNaN = true) : compareNumbers? x y = none := by
  have hnumbers : ¬(x.isNaN = false ∧ y.isNaN = false) := by
    rintro ⟨hx, hy⟩
    rcases h with h | h
    · rw [hx] at h; cases h
    · rw [hy] at h; cases h
  have hlt : ¬x < y := fun hlt => hnumbers ⟨(lt_iff.1 hlt).1, (lt_iff.1 hlt).2.1⟩
  have hgt : ¬y < x := fun hgt => hnumbers ⟨(lt_iff.1 hgt).2.1, (lt_iff.1 hgt).1⟩
  have heq : ¬(x == y) = true := fun heq => hnumbers ⟨(beq_iff.1 heq).1, (beq_iff.1 heq).2.1⟩
  rw [compareNumbers?, if_neg hlt, if_neg hgt, if_neg heq]

/-- Two doubles that are numbers are in the order of their places. -/
theorem compareNumbers?_eq_some (hx : x.isNaN = false) (hy : y.isNaN = false) :
    compareNumbers? x y = some (Ord.compare (rank x) (rank y)) := by
  have hlt : x < y ↔ rank x < rank y := by rw [lt_iff, hx, hy]; simp
  have hgt : y < x ↔ rank y < rank x := by rw [lt_iff, hx, hy]; simp
  have heq : (x == y) = true ↔ rank x = rank y := by rw [beq_iff, hx, hy]; simp
  rw [compareNumbers?]
  simp only [hlt, hgt, heq]
  rcases Int.lt_trichotomy (rank x) (rank y) with h | h | h
  · rw [if_pos h, Int.compare_eq_lt.2 h]
  · rw [if_neg (by omega), if_neg (by omega), if_pos h, Int.compare_eq_eq.2 h]
  · rw [if_neg (by omega), if_pos h, Int.compare_eq_gt.2 h]

/-- Whether a value is a double that is no number. -/
def isNaN : Value → Bool
  | number x => x.isNaN
  | _ => false

end Value

namespace Calendar

/-- The order in time compares seconds, and then nanoseconds. -/
instance : Std.TransCmp Instant.cmp :=
  inferInstanceAs (Std.TransCmp (compareLex (compareOn Instant.seconds) (compareOn Instant.nanos)))

end Calendar

/-! ## Elements of one kind -/

/-- The elements are of one kind, which is that of texts, of numbers or of dates. -/
def OfOneKind (items : List Value) : Prop :=
  ∃ k ∈ ([.string, .number, .date] : List Kind), ∀ v ∈ items, v.kind = k

variable {items : List Value} {a b c : Value} {x y : Float}

theorem OfOneKind.mono {items' : List Value} (h : OfOneKind items) (hsub : ∀ v ∈ items', v ∈ items) : OfOneKind items' := by
  obtain ⟨k, hk, hitems⟩ := h
  exact ⟨k, hk, fun v hv => hitems v (hsub v hv)⟩

/-- The kind of the elements, and what they are. -/
theorem OfOneKind.cases (h : OfOneKind items) :
    (∀ v ∈ items, ∃ s, v = .string s) ∨ (∀ v ∈ items, ∃ x, v = .number x) ∨ ∀ v ∈ items, ∃ d, v = .date d := by
  obtain ⟨k, hk, hitems⟩ := h
  simp only [List.mem_cons, List.not_mem_nil, or_false] at hk
  rcases hk with rfl | rfl | rfl
  · refine .inl fun v hv => ?_
    cases v with
    | string s => exact ⟨s, rfl⟩
    | _ => cases hitems _ hv
  · refine .inr (.inl fun v hv => ?_)
    cases v with
    | number x => exact ⟨x, rfl⟩
    | _ => cases hitems _ hv
  · refine .inr (.inr fun v hv => ?_)
    cases v with
    | date d => exact ⟨d, rfl⟩
    | _ => cases hitems _ hv

/-- Elements pass the checks of their kinds if and only if they are of one kind that has an order. -/
theorem kindFault?_eq_none_iff : kindFault? items = none ↔ OfOneKind items := by
  cases items with
  | nil => exact iff_of_true rfl ⟨.string, by decide, nofun⟩
  | cons first rest =>
    have hkinds : OfOneKind (first :: rest) ↔
        first.kind ∈ ([.string, .number, .date] : List Kind) ∧ ∀ v ∈ rest, v.kind = first.kind := by
      constructor
      · rintro ⟨k, hk, hitems⟩
        obtain ⟨rfl, hrest⟩ := List.forall_mem_cons.1 hitems
        exact ⟨hk, hrest⟩
      · rintro ⟨hk, hrest⟩
        exact ⟨first.kind, hk, List.forall_mem_cons.2 ⟨rfl, hrest⟩⟩
    have hany : rest.any (·.kind != first.kind) = true ↔ ¬∀ v ∈ rest, v.kind = first.kind := by simp
    rw [hkinds, kindFault?]
    by_cases hfirst : ([.string, .number, .date] : List Kind).contains first.kind = true
    · rw [if_neg (by rw [hfirst]; decide)]
      by_cases hrest : ∀ v ∈ rest, v.kind = first.kind
      · rw [if_neg (mt hany.1 (not_not_intro hrest))]
        exact iff_of_true rfl ⟨List.contains_iff_mem.1 hfirst, hrest⟩
      · rw [if_pos (hany.2 hrest)]
        exact iff_of_false nofun fun h => hrest h.2
    · rw [if_pos (by rw [Bool.not_eq_true] at hfirst; rw [hfirst]; rfl)]
      exact iff_of_false nofun fun h => hfirst (List.contains_iff_mem.2 h.1)

theorem compareElements_number (hx : x.isNaN = false) (hy : y.isNaN = false) :
    compareElements (.number x) (.number y) = .ok (compare (rank x) (rank y)) := by
  simp only [compareElements, Value.compare, Value.asNumber?, Value.compareNumbers?_eq_some hx hy]

theorem compareElements_number_of_isNaN (h : x.isNaN = true ∨ y.isNaN = true) :
    compareElements (.number x) (.number y) = .fault .cannotCompareNaN := by
  simp only [compareElements, Value.compare, Value.asNumber?, Value.compareNumbers?_of_isNaN h]

/-- An element that is no number does not compare with any. -/
theorem OfOneKind.compareElements_of_isNaN (h : OfOneKind items) (ha : a ∈ items) (hb : b ∈ items)
    (hnan : a.isNaN = true ∨ b.isNaN = true) : compareElements a b = .fault .cannotCompareNaN := by
  rcases h.cases with h | h | h
  · obtain ⟨s, rfl⟩ := h a ha
    obtain ⟨t, rfl⟩ := h b hb
    rcases hnan with hnan | hnan <;> cases hnan
  · obtain ⟨x, rfl⟩ := h a ha
    obtain ⟨y, rfl⟩ := h b hb
    exact compareElements_number_of_isNaN hnan
  · obtain ⟨c, rfl⟩ := h a ha
    obtain ⟨d, rfl⟩ := h b hb
    rcases hnan with hnan | hnan <;> cases hnan

theorem OfOneKind.elementOrder_of_isNaN (h : OfOneKind items) (ha : a ∈ items) (hb : b ∈ items)
    (hnan : a.isNaN = true ∨ b.isNaN = true) : elementOrder a b = .eq := by
  rw [elementOrder, h.compareElements_of_isNaN ha hb hnan]
  rfl

/-- Elements that have a place in the order are compared as keys are: texts as themselves, numbers as their places, dates as
instants. -/
theorem OfOneKind.exists_key (h : OfOneKind items) (hnumbers : ∀ v ∈ items, v.isNaN = false) :
    ∃ (α : Type) (cmp : α → α → Ordering) (key : Value → α), Std.TransCmp cmp ∧
      ∀ a ∈ items, ∀ b ∈ items, compareElements a b = .ok (cmp (key a) (key b)) := by
  rcases h.cases with h | h | h
  · choose! key hkey using h
    refine ⟨String, compare, key, inferInstance, fun a ha b hb => ?_⟩
    calc compareElements a b = compareElements (.string (key a)) (.string (key b)) := by rw [← hkey a ha, ← hkey b hb]
      _ = .ok (compare (key a) (key b)) := rfl
  · choose! key hkey using h
    have hnumber : ∀ v ∈ items, (key v).isNaN = false := fun v hv => by
      have hnan := hnumbers v hv
      rw [hkey v hv] at hnan
      exact hnan
    refine ⟨Int, compare, fun v => rank (key v), inferInstance, fun a ha b hb => ?_⟩
    calc compareElements a b = compareElements (.number (key a)) (.number (key b)) := by rw [← hkey a ha, ← hkey b hb]
      _ = .ok (compare (rank (key a)) (rank (key b))) := compareElements_number (hnumber a ha) (hnumber b hb)
  · have : Nonempty Calendar.Instant := ⟨⟨0, 0, by decide⟩⟩
    choose! key hkey using h
    refine ⟨Calendar.Instant, Calendar.Instant.cmp, key, inferInstance, fun a ha b hb => ?_⟩
    calc compareElements a b = compareElements (.date (key a)) (.date (key b)) := by rw [← hkey a ha, ← hkey b hb]
      _ = .ok ((key a).cmp (key b)) := rfl

theorem OfOneKind.compareElements_eq (h : OfOneKind items) (ha : a ∈ items) (hb : b ∈ items) (hanan : a.isNaN = false)
    (hbnan : b.isNaN = false) : compareElements a b = .ok (elementOrder a b) := by
  have hpair : OfOneKind [a, b] := h.mono (by simp [ha, hb])
  obtain ⟨α, cmp, key, _, hkey⟩ := hpair.exists_key (by simp [hanan, hbnan])
  rw [elementOrder, hkey a (by simp) b (by simp)]

/-- Elements of one kind fail to compare for one reason alone. -/
theorem OfOneKind.eq_of_compareElements_eq_error (h : OfOneKind items) (ha : a ∈ items) (hb : b ∈ items) {e : EvalError}
    (he : compareElements a b = .error e) : e = Fault.cannotCompareNaN.toError := by
  by_cases hnan : a.isNaN = true ∨ b.isNaN = true
  · rw [h.compareElements_of_isNaN ha hb hnan] at he
    exact (Except.error.inj he).symm
  · simp only [not_or, Bool.not_eq_true] at hnan
    rw [h.compareElements_eq ha hb hnan.1 hnan.2] at he
    cases he

/-! ## The laws -/

/-- A comparison is a total preorder of some elements. -/
structure IsPreorderOn (order : Value → Value → Ordering) (items : List Value) : Prop where
  swap : ∀ a ∈ items, ∀ b ∈ items, order a b = (order b a).swap
  eq_trans : ∀ a ∈ items, ∀ b ∈ items, ∀ c ∈ items, order a b = .eq → order b c = .eq → order a c = .eq
  lt_trans : ∀ a ∈ items, ∀ b ∈ items, ∀ c ∈ items, order a b = .lt → order b c = .lt → order a c = .lt

theorem IsPreorderOn.isLE_trans {order : Value → Value → Ordering} (h : IsPreorderOn order items) (ha : a ∈ items)
    (hb : b ∈ items) (hc : c ∈ items) (hab : (order a b).isLE = true) (hbc : (order b c).isLE = true) :
    (order a c).isLE = true := by
  have hback : ∀ {o o' : Ordering}, o = o'.swap → o = .gt → o' = .lt := by decide
  -- if the last element came before the first one, it would come before the middle one or the middle one before the first one
  cases hac : order a c with
  | lt | eq => rfl
  | gt =>
    have hca : order c a = .lt := hback (h.swap a ha c hc) hac
    cases hab' : order a b with
    | gt => rw [hab'] at hab; cases hab
    | lt =>
      have hcb : order c b = .lt := h.lt_trans c hc a ha b hb hca hab'
      rw [h.swap b hb c hc, hcb] at hbc
      cases hbc
    | eq =>
      cases hbc' : order b c with
      | gt => rw [hbc'] at hbc; cases hbc
      | lt =>
        have hba : order b a = .lt := h.lt_trans b hb c hc a ha hbc' hca
        rw [h.swap a ha b hb, hba] at hab'
        cases hab'
      | eq =>
        have heq : order a c = .eq := h.eq_trans a ha b hb c hc hab' hbc'
        rw [heq] at hac
        cases hac

/-- Elements of one kind that are all in the order are totally preordered. -/
theorem OfOneKind.isPreorderOn_of_numbers (h : OfOneKind items) (hnumbers : ∀ v ∈ items, v.isNaN = false) :
    IsPreorderOn elementOrder items := by
  obtain ⟨α, cmp, key, _, hkey⟩ := h.exists_key hnumbers
  have horder : ∀ a ∈ items, ∀ b ∈ items, elementOrder a b = cmp (key a) (key b) := by
    intro a ha b hb
    rw [elementOrder, hkey a ha b hb]
  constructor
  · intro a ha b hb
    rw [horder a ha b hb, horder b hb a ha]
    exact Std.OrientedCmp.eq_swap
  · intro a ha b hb c hc hab hbc
    rw [horder a ha b hb] at hab
    rw [horder b hb c hc] at hbc
    rw [horder a ha c hc]
    exact Std.TransCmp.eq_trans hab hbc
  · intro a ha b hb c hc hab hbc
    rw [horder a ha b hb] at hab
    rw [horder b hb c hc] at hbc
    rw [horder a ha c hc]
    exact Std.TransCmp.lt_trans hab hbc

theorem OfOneKind.elementOrder_swap (h : OfOneKind items) (ha : a ∈ items) (hb : b ∈ items) :
    elementOrder a b = (elementOrder b a).swap := by
  by_cases hnan : a.isNaN = true ∨ b.isNaN = true
  · rw [h.elementOrder_of_isNaN ha hb hnan, h.elementOrder_of_isNaN hb ha hnan.symm]
    rfl
  · simp only [not_or, Bool.not_eq_true] at hnan
    have hpair : OfOneKind [a, b] := h.mono (by simp [ha, hb])
    exact (hpair.isPreorderOn_of_numbers (by simp [hnan])).swap a (by simp) b (by simp)

/-- An element that is less than another one is a number if it is a double, and so is the other one. -/
theorem OfOneKind.isNaN_of_elementOrder_lt (h : OfOneKind items) (ha : a ∈ items) (hb : b ∈ items)
    (hlt : elementOrder a b = .lt) : a.isNaN = false ∧ b.isNaN = false := by
  by_cases hnan : a.isNaN = true ∨ b.isNaN = true
  · rw [h.elementOrder_of_isNaN ha hb hnan] at hlt
    cases hlt
  · simpa only [not_or, Bool.not_eq_true] using hnan

theorem OfOneKind.elementOrder_lt_trans (h : OfOneKind items) (ha : a ∈ items) (hb : b ∈ items) (hc : c ∈ items)
    (hab : elementOrder a b = .lt) (hbc : elementOrder b c = .lt) : elementOrder a c = .lt := by
  obtain ⟨hanan, hbnan⟩ := h.isNaN_of_elementOrder_lt ha hb hab
  obtain ⟨_, hcnan⟩ := h.isNaN_of_elementOrder_lt hb hc hbc
  have htriple : OfOneKind [a, b, c] := h.mono (by simp [ha, hb, hc])
  exact (htriple.isPreorderOn_of_numbers (by simp [hanan, hbnan, hcnan])).lt_trans a (by simp) b (by simp) c (by simp) hab hbc

/-- Elements of one kind are totally preordered if all doubles among them are numbers, or if all count as equal. -/
theorem OfOneKind.isPreorderOn (h : OfOneKind items)
    (hcases : (∀ v ∈ items, v.isNaN = false) ∨ ∀ a ∈ items, ∀ b ∈ items, elementOrder a b = .eq) :
    IsPreorderOn elementOrder items := by
  rcases hcases with hnumbers | hequal
  · exact h.isPreorderOn_of_numbers hnumbers
  · exact ⟨fun a ha b hb => h.elementOrder_swap ha hb, fun a ha _ _ c hc _ _ => hequal a ha c hc,
      fun a ha b hb c hc => h.elementOrder_lt_trans ha hb hc⟩

/-- On elements that pass the checks of their kinds the order that sorting goes by is its own reverse when turned round, and "less"
is transitive. It is a total preorder just if all doubles among the elements are numbers, or all elements count as equal. -/
theorem elementOrder_isPreorderOn_iff (hkinds : kindFault? items = none) :
    (∀ a ∈ items, ∀ b ∈ items, elementOrder a b = (elementOrder b a).swap) ∧
      (∀ a ∈ items, ∀ b ∈ items, ∀ c ∈ items,
        elementOrder a b = .lt → elementOrder b c = .lt → elementOrder a c = .lt) ∧
      (IsPreorderOn elementOrder items ↔
        (∀ v ∈ items, v.isNaN = false) ∨ ∀ a ∈ items, ∀ b ∈ items, elementOrder a b = .eq) := by
  have h : OfOneKind items := kindFault?_eq_none_iff.1 hkinds
  refine ⟨fun a ha b hb => h.elementOrder_swap ha hb, fun a ha b hb c hc => h.elementOrder_lt_trans ha hb hc,
    fun horder => ?_, h.isPreorderOn⟩
  by_cases hnan : ∃ v ∈ items, v.isNaN = true
  · -- an element that equals all others makes all of them equal
    obtain ⟨v, hv, hnan⟩ := hnan
    refine .inr fun a ha b hb => ?_
    have hav : elementOrder a v = .eq := h.elementOrder_of_isNaN ha hv (.inr hnan)
    have hvb : elementOrder v b = .eq := h.elementOrder_of_isNaN hv hb (.inl hnan)
    exact horder.eq_trans a ha v hv b hb hav hvb
  · exact .inl fun v hv => Bool.eq_false_iff.2 fun hv' => hnan ⟨v, hv, hv'⟩

/-- Two equal numbers and a double that is no number are totally preordered. -/
theorem elementOrder_isPreorderOn_iff_equalNumbers :
    kindFault? [.number 1, .number notANumber, .number 1] = none ∧
      IsPreorderOn elementOrder [.number 1, .number notANumber, .number 1] := by
  refine ⟨rfl, (elementOrder_isPreorderOn_iff rfl).2.2.2 (.inr ?_)⟩
  intro a ha b hb
  simp only [List.mem_cons, List.not_mem_nil, or_false] at ha hb
  rcases ha with rfl | rfl | rfl <;> rcases hb with rfl | rfl | rfl <;> decide +kernel

/-- Two different numbers and a double that is no number are not: each of them counts as equal to it, but they do not count as
equal to one another. -/
theorem not_isPreorderOn_differentNumbers :
    kindFault? [.number 1, .number notANumber, .number 2] = none ∧
      elementOrder (.number 1) (.number notANumber) = .eq ∧ elementOrder (.number notANumber) (.number 2) = .eq ∧
      elementOrder (.number 1) (.number 2) = .lt ∧
      ¬IsPreorderOn elementOrder [.number 1, .number notANumber, .number 2] := by
  have hfirst : elementOrder (.number 1) (.number notANumber) = .eq := by decide +kernel
  have hsecond : elementOrder (.number notANumber) (.number 2) = .eq := by decide +kernel
  have hthird : elementOrder (.number 1) (.number 2) = .lt := by decide +kernel
  refine ⟨rfl, hfirst, hsecond, hthird, fun horder => ?_⟩
  have hequal := horder.eq_trans _ (by simp) (.number notANumber) (by simp) _ (by simp) hfirst hsecond
  rw [hthird] at hequal
  cases hequal

end CellExpr
