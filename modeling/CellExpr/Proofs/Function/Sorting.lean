import CellExpr.Evaluation.Eval
import CellExpr.Function.Standard
import CellExpr.Proofs.Function.Comparing
import CellExpr.Proofs.Function.ElementOrder
import Mathlib.Data.String.Basic

/-!
# Sorting arrays

The function `sort` gives the elements of an array in their order, equal ones as they stood, if these are texts, numbers or dates
throughout and all doubles among them are numbers; else it gives an error (`call_sort`). It comes to the same as any stable sort
whose comparisons may fail and which reports the first failure: as every element is compared, one that has no place in the order is
found (`sortBy_eq`).
-/

namespace CellExpr

open CellExpr.Number CellExpr.SequenceFunctions

variable {items sorted : List Value} {a b v : Value}

/-! ## Arrays that can be sorted -/

/-- The elements are of one kind that has an order, and if there are several all doubles among them are numbers. -/
def Sortable (items : List Value) : Prop := OfOneKind items ∧ (1 < items.length → ∀ v ∈ items, v.isNaN = false)

/-- One element comes before another: texts by the codes of their characters, numbers by value, dates in time. -/
def Value.ComesBefore : Value → Value → Prop
  | string s, string t => s.toList.map Char.toNat < t.toList.map Char.toNat
  | number x, number y => x < y
  | date c, date d => c.seconds < d.seconds ∨ c.seconds = d.seconds ∧ c.nanos < d.nanos
  | _, _ => False

/-- The elements of an array in ascending order. Each comes from a place of its own, and of two elements neither of which comes
before the other the one from the earlier place stands first. -/
structure StablySorted (items sorted : List Value) : Prop where
  perm : sorted.Perm items
  ascending : sorted.Pairwise fun a b => ¬b.ComesBefore a
  stable : ∃ places : List (Fin items.length), sorted = places.map (items[·]) ∧ places.Perm (List.finRange items.length) ∧
    places.Pairwise fun i j => items[i].ComesBefore items[j] ∨ ¬items[j].ComesBefore items[i] ∧ i < j

/-! ## The order of elements in their own terms -/

theorem map_toNat_lt_iff {s t : List Char} : s.map Char.toNat < t.map Char.toNat ↔ s < t := by
  induction s generalizing t with
  | nil => cases t <;> simp
  | cons c s ih =>
    cases t with
    | nil => simp
    | cons d t => simp only [List.map_cons, List.cons_lt_cons_iff, ih, Char.toNat_inj]; rfl

theorem elementOrder_string_lt_iff (s t : String) :
    elementOrder (.string s) (.string t) = .lt ↔ s.toList.map Char.toNat < t.toList.map Char.toNat := by
  rw [map_toNat_lt_iff, ← String.lt_iff_toList_lt]
  exact compareOfLessAndEq_eq_lt

theorem elementOrder_number_lt_iff (x y : Float) : elementOrder (.number x) (.number y) = .lt ↔ x < y := by
  rw [lt_iff, elementOrder]
  by_cases hnan : x.isNaN = true ∨ y.isNaN = true
  · rw [compareElements_number_of_isNaN hnan]
    refine iff_of_false (fun hlt => ?_) fun hlt => ?_
    · cases hlt
    · rw [hlt.1, hlt.2.1] at hnan
      exact hnan.elim Bool.false_ne_true Bool.false_ne_true
  · simp only [not_or, Bool.not_eq_true] at hnan
    rw [compareElements_number hnan.1 hnan.2]
    show compare (rank x) (rank y) = .lt ↔ _
    rw [Int.compare_eq_lt]
    exact ⟨fun hlt => ⟨hnan.1, hnan.2, hlt⟩, fun hlt => hlt.2.2⟩

theorem elementOrder_date_lt_iff (c d : Calendar.Instant) :
    elementOrder (.date c) (.date d) = .lt ↔ c.seconds < d.seconds ∨ c.seconds = d.seconds ∧ c.nanos < d.nanos := by
  show (compare c.seconds d.seconds).then (compare c.nanos d.nanos) = .lt ↔ _
  rw [Ordering.then_eq_lt, Int.compare_eq_lt, Int.compare_eq_eq, Nat.compare_eq_lt]

/-- Among elements of one kind, the order that sorting goes by tells which comes before which. -/
theorem OfOneKind.elementOrder_lt_iff (h : OfOneKind items) (ha : a ∈ items) (hb : b ∈ items) :
    elementOrder a b = .lt ↔ a.ComesBefore b := by
  rcases h.cases with h | h | h
  · obtain ⟨s, rfl⟩ := h a ha
    obtain ⟨t, rfl⟩ := h b hb
    exact elementOrder_string_lt_iff s t
  · obtain ⟨x, rfl⟩ := h a ha
    obtain ⟨y, rfl⟩ := h b hb
    exact elementOrder_number_lt_iff x y
  · obtain ⟨c, rfl⟩ := h a ha
    obtain ⟨d, rfl⟩ := h b hb
    exact elementOrder_date_lt_iff c d

/-! ## The order of places -/

/-- The order of the elements, as an order of their places. -/
def placeOrder (items : List Value) (i j : Fin items.length) : Ordering := elementOrder items[i] items[j]

theorem map_finRange_getElem (items : List Value) : (List.finRange items.length).map (items[·]) = items :=
  List.map_getElem_finRange items

/-- A total preorder of some elements is one of their places. -/
theorem IsPreorderOn.transCmp (h : IsPreorderOn elementOrder items) : Std.TransCmp (placeOrder items) where
  eq_swap {i j} := h.swap _ (List.getElem_mem i.isLt) _ (List.getElem_mem j.isLt)
  isLE_trans {i j k} := h.isLE_trans (List.getElem_mem i.isLt) (List.getElem_mem j.isLt) (List.getElem_mem k.isLt)

theorem Sortable.isPreorderOn (h : Sortable items) : IsPreorderOn elementOrder items := by
  obtain ⟨hkind, hnumbers⟩ := h
  by_cases hlength : 1 < items.length
  · exact hkind.isPreorderOn (.inl (hnumbers hlength))
  · refine hkind.isPreorderOn (.inr fun a ha b hb => ?_)
    obtain rfl : a = b := by
      match items, hlength with
      | [], _ => cases ha
      | [v], _ => rw [List.mem_singleton.1 ha, List.mem_singleton.1 hb]
      | _ :: _ :: _, hlength => exact absurd (by simp) hlength
    have hself : ∀ {o : Ordering}, o = o.swap → o = .eq := by decide
    exact hself (hkind.elementOrder_swap ha ha)

/-- What is arranged by the order of elements is sorted. -/
theorem Arranged.stablySorted (h : Sortable items) {places : List (Fin items.length)}
    (harranged : Arranged (placeOrder items) places) : StablySorted items (places.map (items[·])) := by
  have hlt : ∀ i j : Fin items.length, placeOrder items i j = .lt ↔ items[i].ComesBefore items[j] := fun i j =>
    h.1.elementOrder_lt_iff (List.getElem_mem i.isLt) (List.getElem_mem j.isLt)
  have hswap : ∀ i j : Fin items.length, placeOrder items j i = (placeOrder items i j).swap := fun i j =>
    h.1.elementOrder_swap (List.getElem_mem j.isLt) (List.getElem_mem i.isLt)
  have hprecedes : ∀ i j : Fin items.length, Precedes (placeOrder items) i j →
      items[i].ComesBefore items[j] ∨ ¬items[j].ComesBefore items[i] ∧ i < j := by
    rintro i j (hij | ⟨hij, hlater⟩)
    · exact .inl ((hlt i j).1 hij)
    · refine .inr ⟨fun hji => ?_, hlater⟩
      rw [← hlt, hswap i j, hij] at hji
      cases hji
  refine ⟨?_, ?_, places, rfl, harranged.perm, harranged.pairwise.imp (hprecedes _ _)⟩
  · have hperm := harranged.perm.map (items[·])
    rwa [map_finRange_getElem] at hperm
  · refine List.pairwise_map.2 (harranged.pairwise.imp fun {i j} hij hji => ?_)
    rw [← hlt, hswap i j] at hji
    rcases hij with hij | ⟨hij, _⟩ <;> rw [hij] at hji <;> cases hji

/-- Merging the elements is merging their places. -/
theorem mergeSort_inOrder (items : List Value) :
    items.mergeSort inOrder = ((List.finRange items.length).mergeSort (notAfter (placeOrder items))).map (items[·]) := by
  rw [List.map_mergeSort (r := notAfter (placeOrder items)) (s := inOrder) fun _ _ _ _ => rfl, map_finRange_getElem]

/-! ## The function -/

/-- The elements at two places compared. -/
def compareAt (items : List Value) (i j : Fin items.length) : Result Ordering := compareElements items[i] items[j]

/-- What sorting an array by comparing its elements comes to. Their kinds are looked at first; if a comparison fails, the first
failure is the result. -/
def sortBy (items : List Value) (p : Comparing items.length) : Outcome Value :=
  match kindFault? items with
  | some f => .fault f
  | none =>
    match p.record (compareAt items) with
    | (some e, _) => .error (.error e)
    | (none, places) => .ok (.array (places.map (items[·])))

/-- An array can be sorted, or the kinds of its elements are wrong, or one of several is a double that is no number. -/
theorem sortable_or (items : List Value) :
    Sortable items ∨ (∃ f, kindFault? items = some f) ∨
      OfOneKind items ∧ 1 < items.length ∧ ∃ v ∈ items, v.isNaN = true := by
  cases hkinds : kindFault? items with
  | some f => exact .inr (.inl ⟨f, rfl⟩)
  | none =>
    have hkind : OfOneKind items := kindFault?_eq_none_iff.1 hkinds
    by_cases hnan : 1 < items.length ∧ ∃ v ∈ items, v.isNaN = true
    · exact .inr (.inr ⟨hkind, hnan⟩)
    · exact .inl ⟨hkind, fun hlength v hv => Bool.eq_false_iff.2 fun hv' => hnan ⟨hlength, v, hv, hv'⟩⟩

theorem not_sortable_of_kindFault {f : Fault} (h : kindFault? items = some f) : ¬Sortable items := fun hsortable => by
  rw [kindFault?_eq_none_iff.2 hsortable.1] at h
  cases h

theorem not_sortable_of_isNaN (hlength : 1 < items.length) (hv : v ∈ items) (hnan : v.isNaN = true) : ¬Sortable items :=
  fun hsortable => Bool.false_ne_true ((hsortable.2 hlength v hv).symm.trans hnan)

theorem OfOneKind.same_self (h : OfOneKind items) (hv : v ∈ items) : v.same v = !v.isNaN := by
  rcases h.cases with h | h | h
  · obtain ⟨s, rfl⟩ := h v hv
    exact beq_self_eq_true s
  · obtain ⟨x, rfl⟩ := h v hv
    show (x == x) = !x.isNaN
    rw [Bool.eq_iff_iff, beq_iff]
    simp
  · obtain ⟨d, rfl⟩ := h v hv
    exact beq_self_eq_true d

theorem sort_of_kindFault (s : Scope) {f : Fault} (h : kindFault? items = some f) : sort [.array items] s = .fault f := by
  have hfault : sortFault? items = some f := by rw [sortFault?, h]
  show (match sortFault? items with | some f => Outcome.fault f | none => _) = _
  rw [hfault]

theorem sort_of_isNaN (s : Scope) (hkind : OfOneKind items) (hlength : 1 < items.length) (hv : v ∈ items)
    (hnan : v.isNaN = true) : sort [.array items] s = .fault .cannotCompareNaN := by
  have hany : (items.any fun v => !v.same v) = true :=
    List.any_eq_true.2 ⟨v, hv, by rw [hkind.same_self hv, hnan]; rfl⟩
  have hfault : sortFault? items = some .cannotCompareNaN := by
    rw [sortFault?, kindFault?_eq_none_iff.2 hkind, hany, decide_eq_true hlength]
    rfl
  show (match sortFault? items with | some f => Outcome.fault f | none => _) = _
  rw [hfault]

theorem sort_of_sortable (s : Scope) (h : Sortable items) :
    sort [.array items] s = .ok (.array (items.mergeSort inOrder)) := by
  have hany : (decide (1 < items.length) && items.any fun v => !v.same v) = false := by
    by_cases hlength : 1 < items.length
    · have hnone : (items.any fun v => !v.same v) = false :=
        List.any_eq_false.2 fun v hv => by rw [h.1.same_self hv, h.2 hlength v hv]; decide
      rw [hnone, Bool.and_false]
    · rw [decide_eq_false hlength, Bool.false_and]
  have hfault : sortFault? items = none := by
    rw [sortFault?, kindFault?_eq_none_iff.2 h.1, hany]
    rfl
  show (match sortFault? items with | some f => Outcome.fault f | none => _) = _
  rw [hfault]
  rfl

/-- A stable sort of an array that can be sorted meets no failure. -/
theorem Sortable.record_eq (h : Sortable items) {p : Comparing items.length} (hp : p.IsStableSort) :
    p.record (compareAt items) = (none, p.places (placeOrder items)) := by
  by_cases hlength : 1 < items.length
  · refine Comparing.record_of_ok p fun i j => ?_
    have hi : items[i] ∈ items := List.getElem_mem i.isLt
    have hj : items[j] ∈ items := List.getElem_mem j.isLt
    exact h.1.compareElements_eq hi hj (h.2 hlength _ hi) (h.2 hlength _ hj)
  · exact Comparing.record_of_compared_eq_nil (hp.leaves (Nat.le_of_not_lt hlength) _)

/-- A stable sort of several numbers finds one among them that is no number. -/
theorem OfOneKind.record_of_isNaN (h : OfOneKind items) (hlength : 1 < items.length) (hv : v ∈ items) (hnan : v.isNaN = true)
    {p : Comparing items.length} (hp : p.IsStableSort) :
    (p.record (compareAt items)).1 = some Fault.cannotCompareNaN.toError := by
  obtain ⟨place, hplace, rfl⟩ := List.getElem_of_mem hv
  have hmem (i : Fin items.length) : items[i] ∈ items := List.getElem_mem i.isLt
  have hfails {i j : Fin items.length} (hij : items[i].isNaN = true ∨ items[j].isNaN = true) :
      compareAt items i j = .error Fault.cannotCompareNaN.toError := h.compareElements_of_isNaN (hmem i) (hmem j) hij
  have horder (i j : Fin items.length) : (compareAt items i j).toOption.getD .eq = placeOrder items i j := by
    rw [compareAt, placeOrder, elementOrder]
    cases compareElements items[i] items[j] <;> rfl
  have hfault (i j : Fin items.length) (e : EvalError) (he : compareAt items i j = .error e) :
      e = Fault.cannotCompareNaN.toError := h.eq_of_compareElements_eq_error (hmem i) (hmem j) he
  obtain ⟨_, rfl, hrecord⟩ := Comparing.exists_record_eq_some horder hfault (hp.compares hlength _ ⟨place, hplace⟩)
    (fun j => ⟨_, hfails (.inl hnan)⟩) (fun j => ⟨_, hfails (.inr hnan)⟩)
  exact hrecord

/-- Any stable sort comes to the same, if its comparisons may fail and the first failure is reported. -/
theorem sortBy_eq (s : Scope) {p : Comparing items.length} (hp : p.IsStableSort) : sortBy items p = sort [.array items] s := by
  rcases sortable_or items with hsortable | ⟨f, hkinds⟩ | ⟨hkind, hlength, v, hv, hnan⟩
  · have : Std.TransCmp (placeOrder items) := hsortable.isPreorderOn.transCmp
    rw [sortBy, kindFault?_eq_none_iff.2 hsortable.1, hsortable.record_eq hp, sort_of_sortable s hsortable, mergeSort_inOrder,
      (hp.arranged (placeOrder items)).unique arranged_mergeSort]
  · rw [sortBy, hkinds, sort_of_kindFault s hkinds]
  · have hrecord := hkind.record_of_isNaN hlength hv hnan hp
    obtain ⟨places, hpair⟩ : ∃ places, p.record (compareAt items) = (some Fault.cannotCompareNaN.toError, places) :=
      ⟨_, Prod.ext hrecord rfl⟩
    rw [sortBy, kindFault?_eq_none_iff.2 hkind, hpair, sort_of_isNaN s hkind hlength hv hnan]
    rfl

/-- The call of `sort` with an array. It has the outcome of any stable sort by comparisons that may fail. It succeeds if and only
if the elements are texts, numbers or dates throughout and, where there are several, all doubles among them are numbers; else it
comes to an error. If it succeeds, the elements stand in ascending order, and equal ones as they stood before. -/
theorem call_sort (now : Calendar.Instant) (s : Scope) (items : List Value) {p : Comparing items.length} (hp : p.IsStableSort) :
    let result := ((Registry.standard now).call "sort" [.array items] s).value
    result = (sortBy items p).toTraced.value ∧
      (Sortable items ↔ ∃ sorted, result = .array sorted) ∧
      (¬Sortable items → ∃ f : Fault, result = .error f.toError) ∧
      ∀ sorted, result = .array sorted → StablySorted items sorted := by
  intro result
  have hresult : result = (sort [.array items] s).toTraced.value := rfl
  refine ⟨by rw [hresult, sortBy_eq s hp], ?_⟩
  rcases sortable_or items with hsortable | hfault
  · have : Std.TransCmp (placeOrder items) := hsortable.isPreorderOn.transCmp
    have harray : result = .array (items.mergeSort inOrder) := by
      rw [hresult, sort_of_sortable s hsortable]
      rfl
    refine ⟨iff_of_true hsortable ⟨_, harray⟩, fun hnot => absurd hsortable hnot, fun sorted hsorted => ?_⟩
    obtain rfl : sorted = items.mergeSort inOrder := by
      rw [harray] at hsorted
      exact (Value.array.inj hsorted).symm
    rw [mergeSort_inOrder]
    exact arranged_mergeSort.stablySorted hsortable
  · have herror : ¬Sortable items ∧ ∃ f : Fault, result = .error f.toError := by
      rcases hfault with ⟨f, hkinds⟩ | ⟨hkind, hlength, v, hv, hnan⟩
      · refine ⟨not_sortable_of_kindFault hkinds, f, ?_⟩
        rw [hresult, sort_of_kindFault s hkinds]
        rfl
      · refine ⟨not_sortable_of_isNaN hlength hv hnan, .cannotCompareNaN, ?_⟩
        rw [hresult, sort_of_isNaN s hkind hlength hv hnan]
        rfl
    obtain ⟨hnot, f, herror⟩ := herror
    have hnone : ∀ sorted, result ≠ .array sorted := fun sorted hsorted => by
      rw [herror] at hsorted
      cases hsorted
    exact ⟨iff_of_false hnot fun ⟨sorted, hsorted⟩ => hnone sorted hsorted, fun _ => ⟨f, herror⟩,
      fun sorted hsorted => absurd hsorted (hnone sorted)⟩

/-- Two zeros are equal, so that the one without a sign stays before the one with a sign. -/
theorem call_sort_zeros :
    (Comparing.insertion 3).IsStableSort ∧ Sortable [.number 1, .number 0, .number (-0)] ∧
      ((Registry.standard ⟨0, 0, by decide⟩).call "sort" [.array [.number 1, .number 0, .number (-0)]] []).value =
        .array [.number 0, .number (-0), .number 1] ∧
      StablySorted [.number 1, .number 0, .number (-0)] [.number 0, .number (-0), .number 1] := by
  have hsort := call_sort ⟨0, 0, by decide⟩ [] [.number 1, .number 0, .number (-0)] (Comparing.isStableSort_insertion 3)
  obtain ⟨hresult, hsortable, -, hsorted⟩ := hsort
  have hvalue : (sortBy [.number 1, .number 0, .number (-0)] (Comparing.insertion 3)).toTraced.value =
      .array [.number 0, .number (-0), .number 1] := rfl
  rw [hvalue] at hresult
  exact ⟨Comparing.isStableSort_insertion 3, hsortable.2 ⟨_, hresult⟩, hresult, hsorted _ hresult⟩

end CellExpr
