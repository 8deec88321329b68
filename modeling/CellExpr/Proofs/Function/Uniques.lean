import CellExpr.Evaluation.Eval
import CellExpr.Function.Standard
import CellExpr.Proofs.Value.Equality

/-!
# Unique elements

The function `uniques` keeps the first of all elements of an array that equal each other, in their order (`call_uniques`). It
compares an element only with those that have been kept before it. That is enough because equality is transitive: an element equals
one that has been kept if and only if it equals any one that has been looked at (`Covers`).
-/

namespace CellExpr

open CellExpr.SequenceFunctions

variable {items kept done : List Value} {v : Value}

/-! ## The elements that have been kept -/

/-- The elements that have been kept stand for all that have been looked at: what equals one of these equals one of those. -/
def Covers (kept done : List Value) : Prop := ∀ v, kept.any (·.same v) = done.any (·.same v)

theorem Covers.keep (h : Covers kept done) (v : Value) : Covers (kept ++ [v]) (done ++ [v]) := fun w => by
  rw [List.any_append, List.any_append, h w]

theorem Covers.drop (h : Covers kept done) (hv : kept.any (·.same v) = true) : Covers kept (done ++ [v]) := fun w => by
  rw [List.any_append, ← h w]
  cases hw : [v].any (·.same w) with
  | false => rw [Bool.or_false]
  | true =>
    -- what equals the element that is left out equals the one that it was left out for
    obtain ⟨u, hu, huv⟩ := List.any_eq_true.1 hv
    obtain ⟨_, hmem, hvw⟩ := List.any_eq_true.1 hw
    obtain rfl := List.mem_singleton.1 hmem
    rw [Bool.or_true]
    exact List.any_eq_true.2 ⟨u, hu, Value.same_trans huv hvw⟩

/-- What is kept of further elements covers these too. -/
theorem Covers.append (h : Covers kept done) : Covers (kept ++ uniqueAfter kept items) (done ++ items) := by
  induction items generalizing kept done with
  | nil => simpa only [uniqueAfter, List.append_nil] using h
  | cons v rest ih =>
    rw [uniqueAfter, List.append_cons done]
    by_cases hv : kept.any (·.same v) = true
    · rw [if_pos hv]
      exact ih (h.drop hv)
    · rw [if_neg hv, List.append_cons kept]
      exact ih (h.keep v)

/-! ## The places of what is kept -/

/-- No element before the one at a place equals it. -/
def IsFirst (items : List Value) (i : Fin items.length) : Prop := ∀ j < i, (items.get j).same (items.get i) = false

instance (items : List Value) : DecidablePred (IsFirst items) := fun i =>
  inferInstanceAs (Decidable (∀ j < i, (items.get j).same (items.get i) = false))

/-- The places before one of all places are those that are less. -/
theorem mem_iff_lt_of_finRange {n : Nat} {before after : List (Fin n)} {i : Fin n} (h : List.finRange n = before ++ i :: after)
    (j : Fin n) : j ∈ before ↔ j < i := by
  have hsorted := List.pairwise_lt_finRange n
  rw [h, List.pairwise_append, List.pairwise_cons] at hsorted
  obtain ⟨_, ⟨hafter, _⟩, hbefore⟩ := hsorted
  refine ⟨fun hj => hbefore j hj i (.head _), fun hj => ?_⟩
  have hmem := List.mem_finRange j
  rw [h, List.mem_append, List.mem_cons] at hmem
  rcases hmem with hmem | rfl | hmem
  · exact hmem
  · exact absurd hj (Fin.lt_irrefl _)
  · exact absurd (hafter j hmem) (Fin.lt_asymm hj)

theorem any_same_eq_false_iff {before after : List (Fin items.length)} {i : Fin items.length}
    (h : List.finRange items.length = before ++ i :: after) :
    (before.map items.get).any (·.same (items.get i)) = false ↔ IsFirst items i := by
  simp only [List.any_map, List.any_eq_false, mem_iff_lt_of_finRange h, Function.comp_apply, Bool.not_eq_true]
  rfl

/-- Of the elements at later places those are kept that are the first ones of their kind. -/
theorem uniqueAfter_map_eq {before after : List (Fin items.length)} (hplaces : List.finRange items.length = before ++ after)
    (h : Covers kept (before.map items.get)) :
    uniqueAfter kept (after.map items.get) = (after.filter (IsFirst items ·)).map items.get := by
  induction after generalizing before kept with
  | nil => rfl
  | cons i after ih =>
    -- what covers the places before the next one tells whether the element there is a first one
    have hnext : List.finRange items.length = (before ++ [i]) ++ after := by rw [hplaces, List.append_assoc, List.singleton_append]
    have hmap : (before ++ [i]).map items.get = before.map items.get ++ [items.get i] := List.map_append
    rw [List.map_cons, uniqueAfter, h (items.get i), List.filter_cons]
    by_cases hfirst : IsFirst items i
    · rw [(any_same_eq_false_iff hplaces).2 hfirst, if_neg Bool.false_ne_true, if_pos (decide_eq_true hfirst), List.map_cons,
        ih hnext (hmap ▸ h.keep _)]
    · have hany : (before.map items.get).any (·.same (items.get i)) = true := by
        rw [← Bool.not_eq_false, any_same_eq_false_iff hplaces]
        exact hfirst
      rw [hany, if_pos rfl, decide_eq_false hfirst, if_neg Bool.false_ne_true, ih hnext (hmap ▸ h.drop ((h _).trans hany))]

/-- The places of the elements that are kept. -/
def firstPlaces (items : List Value) : List (Fin items.length) := (List.finRange items.length).filter (IsFirst items ·)

theorem uniqueAfter_nil (items : List Value) : uniqueAfter [] items = (firstPlaces items).map items.get := by
  have hall : uniqueAfter [] ((List.finRange items.length).map items.get) = (firstPlaces items).map items.get :=
    uniqueAfter_map_eq (List.nil_append _).symm fun _ => rfl
  rwa [List.map_get_finRange] at hall

theorem mem_firstPlaces {i : Fin items.length} : i ∈ firstPlaces items ↔ IsFirst items i := by
  rw [firstPlaces, List.mem_filter, decide_eq_true_iff]
  exact and_iff_right (List.mem_finRange i)

/-- An element that is not the first one of its kind equals an earlier one that is. -/
theorem exists_isFirst {i : Fin items.length} (h : ¬IsFirst items i) :
    ∃ j, IsFirst items j ∧ j < i ∧ (items.get j).same (items.get i) = true := by
  simp only [IsFirst, not_forall, Bool.not_eq_false] at h
  obtain ⟨k, hki, hsame⟩ := h
  by_cases hk : IsFirst items k
  · exact ⟨k, hk, hki, hsame⟩
  · obtain ⟨j, hj, hjk, hjsame⟩ := exists_isFirst hk
    exact ⟨j, hj, Fin.lt_trans hjk hki, Value.same_trans hjsame hsame⟩
termination_by i

/-- What shows a double that is no number equals nothing before it. -/
theorem isFirst_of_isNaN {i : Fin items.length} {x : Float} (hx : (items.get i).Shows x) (hnan : x.isNaN = true) :
    IsFirst items i := by
  intro j _
  refine Bool.eq_false_iff.2 fun hsame => ?_
  rw [Value.isNaN_of_same_self (Value.same_self_of_same hsame) hx] at hnan
  cases hnan

/-! ## The function -/

/-- Some of the elements of an array in their order, no two of which are equal. An element is left out just if it equals one that is
kept and stands before it, so that the first one of those that equal each other is kept. -/
structure KeepsFirst (items kept : List Value) : Prop where
  sublist : kept.Sublist items
  distinct : ∀ i j : Fin kept.length, i ≠ j → (kept.get i).same (kept.get j) = false
  places : ∃ places : List (Fin items.length), kept = places.map items.get ∧ places.Pairwise (· < ·) ∧
    (∀ i, i ∉ places ↔ ∃ j ∈ places, j < i ∧ (items.get j).same (items.get i) = true) ∧
    (∀ i, i ∈ places ↔ ∀ j < i, (items.get j).same (items.get i) = false) ∧
    ∀ i x, (items.get i).Shows x → x.isNaN = true → i ∈ places

/-- Elements of which none equals one before it are all kept. -/
theorem uniqueAfter_of_pairwise (h : (kept ++ items).Pairwise fun a b => a.same b = false) : uniqueAfter kept items = items := by
  induction items generalizing kept with
  | nil => rfl
  | cons v rest ih =>
    have hnone : kept.any (·.same v) = false :=
      List.any_eq_false.2 fun u hu => Bool.eq_false_iff.1 ((List.pairwise_append.1 h).2.2 u hu v (.head _))
    rw [uniqueAfter, hnone, if_neg Bool.false_ne_true, ih]
    rwa [← List.append_cons]

theorem pairwise_uniqueAfter_nil (items : List Value) : (uniqueAfter [] items).Pairwise fun a b => a.same b = false := by
  rw [uniqueAfter_nil, List.pairwise_map]
  refine ((List.pairwise_lt_finRange _).filter _).imp_of_mem fun {i j} _ hj hij => ?_
  exact mem_firstPlaces.1 hj i hij

theorem keepsFirst_uniqueAfter (items : List Value) : KeepsFirst items (uniqueAfter [] items) where
  sublist := by
    have hsublist : ((firstPlaces items).map items.get).Sublist ((List.finRange items.length).map items.get) :=
      List.filter_sublist.map _
    rwa [List.map_get_finRange, ← uniqueAfter_nil] at hsublist
  distinct i j hij := by
    have hpairs := List.pairwise_iff_getElem.1 (pairwise_uniqueAfter_nil items)
    rcases Fin.lt_or_lt_of_ne hij with hij | hij
    · exact hpairs i j i.isLt j.isLt hij
    · rw [Value.same_comm]
      exact hpairs j i j.isLt i.isLt hij
  places := by
    refine ⟨firstPlaces items, uniqueAfter_nil items, (List.pairwise_lt_finRange _).filter _, fun i => ?_,
      fun i => mem_firstPlaces, fun i x hx hnan => mem_firstPlaces.2 (isFirst_of_isNaN hx hnan)⟩
    simp only [mem_firstPlaces]
    refine ⟨exists_isFirst, ?_⟩
    rintro ⟨j, _, hji, hsame⟩ hfirst
    rw [hfirst j hji] at hsame
    cases hsame

/-- The call of `uniques` with an array keeps the first one of all elements that equal each other, in their order. Called with what
it gives it keeps all of it; and a value is in this array just if it is in the array that it was called with. -/
theorem call_uniques (now : Calendar.Instant) (s : Scope) (items : List Value) :
    ∃ kept, ((Registry.standard now).call "uniques" [.array items] s).value = .array kept ∧ KeepsFirst items kept ∧
      ((Registry.standard now).call "uniques" [.array kept] s).value = .array kept ∧
      ∀ v, ((Registry.standard now).call "inArray" [.array kept, v] s).value =
        ((Registry.standard now).call "inArray" [.array items, v] s).value := by
  have huniques (items : List Value) :
      ((Registry.standard now).call "uniques" [.array items] s).value = .array (uniqueAfter [] items) := rfl
  refine ⟨_, huniques items, keepsFirst_uniqueAfter items, ?_, fun v => ?_⟩
  · rw [huniques, uniqueAfter_of_pairwise (pairwise_uniqueAfter_nil items)]
  · have hcovers : Covers (uniqueAfter [] items) items := Covers.append (fun _ => rfl : Covers [] [])
    cases v with
    | error e => rfl
    | _ => exact congrArg Value.boolean (hcovers _)

/-- Zeros are equal with and without a sign, also in arrays; a text is not equal to a number. -/
example :
    ((Registry.standard ⟨0, 0, by decide⟩).call "uniques"
        [.array [.number 0, .array [.number 0], .number (-0), .string "0", .array [.number (-0)]]] []).value =
      .array [.number 0, .array [.number 0], .string "0"] := rfl

end CellExpr
