import Mathlib.Data.List.FinRange
import Mathlib.Data.List.Sort
import Mathlib.Order.Fin.Basic

/-!
# Sorting by comparing

A way to sort looks at the elements by comparing two of them at a time, and what it does next depends on the answer alone. Here it
is a tree of comparisons over the places of the elements. If the answers come from a total preorder, a stable sort has one possible
result (`Arranged.unique`), which merging finds (`arranged_mergeSort`) and so does insertion (`isStableSort_insertion`). If a
comparison fails, the elements count as equal, and the first failure is kept (`record`).
-/

namespace CellExpr

variable {n : Nat}

/-- A way to sort so many elements by comparing them. -/
inductive Comparing (n : Nat) where
  /-- The places of the elements in their new order. -/
  | done (places : List (Fin n))
  /-- What to do after comparing two elements. -/
  | compare (i j : Fin n) (next : Ordering → Comparing n)

/-- Of two places the first one goes before the other: its element is less, or they are equal and it is the earlier place. -/
def Precedes (order : Fin n → Fin n → Ordering) (i j : Fin n) : Prop := order i j = .lt ∨ order i j = .eq ∧ i < j

/-- The places of all elements so that the elements ascend, and equal ones keep their order. -/
structure Arranged (order : Fin n → Fin n → Ordering) (places : List (Fin n)) : Prop where
  perm : places.Perm (List.finRange n)
  pairwise : places.Pairwise (Precedes order)

namespace Comparing

/-- The new order of the places if comparisons are answered by an order. -/
def places (order : Fin n → Fin n → Ordering) : Comparing n → List (Fin n)
  | done places => places
  | compare i j next => (next (order i j)).places order

/-- The places whose elements are compared on the way. -/
def compared (order : Fin n → Fin n → Ordering) : Comparing n → List (Fin n)
  | done _ => []
  | compare i j next => i :: j :: (next (order i j)).compared order

/-- The first failure and the new order of the places if comparisons may fail. A failed comparison counts as equal. -/
def record {ε : Type} (answer : Fin n → Fin n → Except ε Ordering) : Comparing n → Option ε × List (Fin n)
  | done places => (none, places)
  | compare i j next =>
    match answer i j with
    | .ok o => (next o).record answer
    | .error e => (some e, ((next .eq).record answer).2)

/-- What is asked of a way to sort: equal elements keep their order, in an array of several elements each is compared at least once
however comparisons are answered, and an array of one element is left as it is. -/
structure IsStableSort (p : Comparing n) : Prop where
  arranged : ∀ (order : Fin n → Fin n → Ordering) [Std.TransCmp order], Arranged order (p.places order)
  compares : 1 < n → ∀ (order : Fin n → Fin n → Ordering) (i : Fin n), i ∈ p.compared order
  leaves : n ≤ 1 → ∀ order : Fin n → Fin n → Ordering, p.compared order = []

end Comparing

/-! ## Arrangements -/

section

variable {order : Fin n → Fin n → Ordering} {i j k : Fin n} {places places' : List (Fin n)}

theorem precedes_iff_compareLex : Precedes order i j ↔ compareLex order compare i j = .lt := by
  rw [Precedes, compareLex, Ordering.then_eq_lt, compare_lt_iff_lt]

variable [Std.TransCmp order]

theorem Precedes.trans (h : Precedes order i j) (h' : Precedes order j k) : Precedes order i k := by
  rw [precedes_iff_compareLex] at h h' ⊢
  exact Std.TransCmp.lt_trans h h'

theorem Precedes.asymm (h : Precedes order i j) : ¬Precedes order j i := by
  rw [precedes_iff_compareLex] at h ⊢
  exact Std.OrientedCmp.not_lt_of_lt h

theorem Arranged.unique (h : Arranged order places) (h' : Arranged order places') : places = places' :=
  List.Perm.eq_of_pairwise (fun _ _ _ _ hij hji => absurd hji hij.asymm) h.pairwise h'.pairwise (h.perm.trans h'.perm.symm)

/-- Whether an element may go before another one as far as the order is concerned. -/
def notAfter (order : Fin n → Fin n → Ordering) (i j : Fin n) : Bool := order i j != .gt

theorem notAfter_eq_isLE (order : Fin n → Fin n → Ordering) (i j : Fin n) : notAfter order i j = (order i j).isLE := by
  rw [notAfter]
  cases order i j <;> rfl

/-- Places that go together with themselves are merged so that of two different ones the first goes before the other. -/
theorem precedes_of_zipIdxLE (hne : i ≠ j) (h : List.zipIdxLE (notAfter order) (i, i.val) (j, j.val) = true) :
    Precedes order i j := by
  have hswap : order j i = (order i j).swap := Std.OrientedCmp.eq_swap
  rw [List.zipIdxLE, notAfter_eq_isLE, notAfter_eq_isLE, hswap] at h
  cases hij : order i j with
  | lt => exact .inl hij
  | eq =>
    rw [hij] at h
    have hle : i.val ≤ j.val := of_decide_eq_true h
    exact .inr ⟨hij, lt_of_le_of_ne hle hne⟩
  | gt =>
    rw [hij] at h
    cases h

/-- Merging arranges the places. -/
theorem arranged_mergeSort : Arranged order ((List.finRange n).mergeSort (notAfter order)) := by
  have hperm := List.mergeSort_perm (List.finRange n) (notAfter order)
  refine ⟨hperm, ?_⟩
  have htrans : ∀ i j k, notAfter order i j = true → notAfter order j k = true → notAfter order i k = true := by
    intro i j k hij hjk
    rw [notAfter_eq_isLE] at hij hjk ⊢
    exact Std.TransCmp.isLE_trans hij hjk
  have htotal : ∀ i j, (notAfter order i j || notAfter order j i) = true := by
    intro i j
    have hswap : order j i = (order i j).swap := Std.OrientedCmp.eq_swap
    rw [notAfter_eq_isLE, notAfter_eq_isLE, hswap]
    cases order i j <;> rfl
  -- merging keeps equal elements in their order, as is seen when each place goes together with itself
  have hsorted : ((List.finRange n).zipIdx.mergeSort (List.zipIdxLE (notAfter order))).Pairwise
      fun a b => List.zipIdxLE (notAfter order) a b = true :=
    List.pairwise_mergeSort (List.zipIdxLE_trans htrans) (List.zipIdxLE_total htotal) _
  have hself : ∀ a ∈ (List.finRange n).zipIdx.mergeSort (List.zipIdxLE (notAfter order)), a = (a.1, a.1.val) := by
    rintro ⟨i, place⟩ ha
    obtain ⟨_, _, hi⟩ := List.mem_zipIdx (List.mem_mergeSort.1 ha)
    rw [hi]
    simp
  have hdistinct : ((List.finRange n).mergeSort (notAfter order)).Nodup := hperm.nodup_iff.2 (List.nodup_finRange n)
  rw [← List.mergeSort_zipIdx] at hdistinct ⊢
  rw [List.Nodup, List.pairwise_map] at hdistinct
  rw [List.pairwise_map]
  refine (hsorted.and hdistinct).imp_of_mem fun ha hb h => ?_
  rw [hself _ ha, hself _ hb] at h
  exact precedes_of_zipIdxLE h.2 h.1

end

/-! ## Ways to sort -/

namespace Comparing

variable {ε : Type} {answer : Fin n → Fin n → Except ε Ordering} {order : Fin n → Fin n → Ordering} {i j : Fin n}

/-- Nothing is recorded if no comparison fails. -/
theorem record_of_ok (p : Comparing n) (h : ∀ i j, answer i j = .ok (order i j)) : p.record answer = (none, p.places order) := by
  induction p with
  | done places => rfl
  | compare i j next ih => rw [record, h]; exact ih (order i j)

/-- Nothing is recorded if nothing is compared. -/
theorem record_of_compared_eq_nil {p : Comparing n} (h : p.compared order = []) : p.record answer = (none, p.places order) := by
  cases p with
  | done places => rfl
  | compare i j next => cases h

/-- A failure is recorded if every comparison of some element fails, and that element is compared. Failures of one sort alone are
recorded. -/
theorem exists_record_eq_some {p : Comparing n} {good : ε → Prop}
    (horder : ∀ i j, (answer i j).toOption.getD .eq = order i j) (hgood : ∀ i j e, answer i j = .error e → good e)
    (hmem : i ∈ p.compared order) (hleft : ∀ j, ∃ e, answer i j = .error e) (hright : ∀ j, ∃ e, answer j i = .error e) :
    ∃ e, good e ∧ (p.record answer).1 = some e := by
  induction p with
  | done places => cases hmem
  | compare k l next ih =>
    rw [record]
    cases hanswer : answer k l with
    | error e => exact ⟨e, hgood k l e hanswer, rfl⟩
    | ok o =>
      have ho : order k l = o := by rw [← horder, hanswer]; rfl
      simp only [compared, ho, List.mem_cons] at hmem
      rcases hmem with rfl | rfl | hmem
      · obtain ⟨e, he⟩ := hleft l
        rw [hanswer] at he
        cases he
      · obtain ⟨e, he⟩ := hright k
        rw [hanswer] at he
        cases he
      · exact ih o hmem

/-! ## Insertion -/

/-- Puts an element among those before it, the last of which comes first: it passes those that it is less than. -/
def insertBack (i : Fin n) : (before : List (Fin n)) → (next : List (Fin n) → Comparing n) → Comparing n
  | [], next => next [i]
  | j :: before, next =>
    .compare i j fun
      | .lt => insertBack i before fun inserted => next (j :: inserted)
      | _ => next (i :: j :: before)

/-- Inserts the other elements one after the other. -/
def insertAll : (before rest : List (Fin n)) → Comparing n
  | before, [] => .done before.reverse
  | before, i :: rest => insertBack i before fun inserted => insertAll inserted rest

/-- Sorting by insertion: each element passes those before it that it is less than. -/
def insertion (n : Nat) : Comparing n := insertAll [] (List.finRange n)

/-- Where an element ends up among those before it. -/
def insertedBack (order : Fin n → Fin n → Ordering) (i : Fin n) (before : List (Fin n)) : List (Fin n) :=
  before.orderedInsert (fun i j => order i j ≠ .lt) i

variable {before rest : List (Fin n)} {next : List (Fin n) → Comparing n}

theorem places_insertBack : (insertBack i before next).places order = (next (insertedBack order i before)).places order := by
  induction before generalizing next with
  | nil => rfl
  | cons j before ih =>
    rw [insertBack, places, insertedBack, List.orderedInsert_cons]
    cases hij : order i j with
    | lt => exact ih
    | eq | gt => simp

theorem compared_insertBack_of_next (h : j ∈ (next (insertedBack order i before)).compared order) :
    j ∈ (insertBack i before next).compared order := by
  induction before generalizing next with
  | nil => exact h
  | cons k before ih =>
    rw [insertBack, compared]
    rw [insertedBack, List.orderedInsert_cons] at h
    refine List.mem_cons_of_mem _ (List.mem_cons_of_mem _ ?_)
    cases hik : order i k with
    | lt =>
      rw [if_neg (not_not_intro hik)] at h
      exact ih h
    | eq | gt =>
      rw [if_pos (by rw [hik]; decide)] at h
      exact h

/-- The inserted element is compared, unless there is none before it, and so is the nearest before it. -/
theorem compared_insertBack_cons : i ∈ (insertBack i (j :: before) next).compared order ∧
    j ∈ (insertBack i (j :: before) next).compared order := by
  rw [insertBack, compared]
  exact ⟨List.mem_cons_self, List.mem_cons_of_mem _ List.mem_cons_self⟩

theorem compared_insertAll (hbefore : before ≠ []) (hi : i ∈ rest) : i ∈ (insertAll before rest).compared order := by
  induction rest generalizing before with
  | nil => cases hi
  | cons k rest ih =>
    rw [insertAll]
    rcases List.mem_cons.1 hi with rfl | hi
    · cases before with
      | nil => exact absurd rfl hbefore
      | cons j before => exact compared_insertBack_cons.1
    · refine compared_insertBack_of_next (ih ?_ hi)
      exact List.ne_nil_of_length_pos (by rw [insertedBack, List.orderedInsert_length]; omega)

/-- Every element is compared if there are several. -/
theorem compared_insertion (h : 1 < n) (order : Fin n → Fin n → Ordering) (i : Fin n) : i ∈ (insertion n).compared order := by
  obtain ⟨n, rfl⟩ : ∃ m, n = m + 2 := ⟨n - 2, by omega⟩
  have hsplit : List.finRange (n + 2) = 0 :: 1 :: (List.finRange n).map fun k => k.succ.succ := by
    simp [List.finRange_succ]
  have hi : i ∈ List.finRange (n + 2) := List.mem_finRange i
  rw [hsplit] at hi
  rw [insertion, hsplit, insertAll, insertBack]
  rcases List.mem_cons.1 hi with rfl | hi
  · exact compared_insertBack_cons.2
  · exact compared_insertAll (List.cons_ne_nil _ _) hi

section

variable [Std.TransCmp order]

/-- Elements that follow one another, the last one first, still do after an element from a later place has been inserted. -/
theorem pairwise_insertedBack (hbefore : before.Pairwise fun i j => Precedes order j i) (hlater : ∀ j ∈ before, j < i) :
    (insertedBack order i before).Pairwise fun i j => Precedes order j i := by
  induction before with
  | nil => exact List.pairwise_singleton _ i
  | cons j before ih =>
    obtain ⟨hj, hbefore⟩ := List.pairwise_cons.1 hbefore
    obtain ⟨hji, hlater⟩ := List.forall_mem_cons.1 hlater
    have hswap : order j i = (order i j).swap := Std.OrientedCmp.eq_swap
    rw [insertedBack, List.orderedInsert_cons]
    split
    · rename_i hij
      have hprecedes : Precedes order j i := by
        cases horder : order i j with
        | lt => exact absurd horder hij
        | eq => exact .inr ⟨by rw [hswap, horder]; rfl, hji⟩
        | gt => exact .inl (by rw [hswap, horder]; rfl)
      refine List.pairwise_cons.2 ⟨fun k hk => ?_, List.pairwise_cons.2 ⟨hj, hbefore⟩⟩
      rcases List.mem_cons.1 hk with rfl | hk
      · exact hprecedes
      · exact (hj k hk).trans hprecedes
    · rename_i hij
      refine List.pairwise_cons.2 ⟨fun k hk => ?_, ih hbefore hlater⟩
      rcases (List.mem_orderedInsert _).1 hk with rfl | hk
      · exact .inl (not_not.1 hij)
      · exact hj k hk

theorem arranged_insertAll (hperm : (before ++ rest).Perm (List.finRange n))
    (hbefore : before.Pairwise fun i j => Precedes order j i) (hrest : rest.Pairwise (· < ·))
    (hlater : ∀ i ∈ rest, ∀ j ∈ before, j < i) : Arranged order ((insertAll before rest).places order) := by
  induction rest generalizing before with
  | nil =>
    rw [List.append_nil] at hperm
    exact ⟨(List.reverse_perm before).trans hperm, List.pairwise_reverse.2 hbefore⟩
  | cons i rest ih =>
    obtain ⟨hi, hrest⟩ := List.pairwise_cons.1 hrest
    obtain ⟨hlateri, hlater⟩ := List.forall_mem_cons.1 hlater
    have hinserted : (insertedBack order i before).Perm (i :: before) := List.perm_orderedInsert _ i before
    rw [insertAll, places_insertBack]
    refine ih ?_ (pairwise_insertedBack hbefore hlateri) hrest fun k hk j hj => ?_
    · exact ((hinserted.append_right rest).trans List.perm_middle.symm).trans hperm
    · rcases List.mem_cons.1 (hinserted.mem_iff.1 hj) with rfl | hj
      · exact hi k hk
      · exact hlater k hk j hj

end

theorem isStableSort_insertion (n : Nat) : (insertion n).IsStableSort where
  arranged _ _ := arranged_insertAll (List.Perm.refl _) .nil (List.pairwise_lt_finRange n) nofun
  compares := compared_insertion
  leaves h _ := by
    match n, h with
    | 0, _ => rfl
    | 1, _ => rfl

end Comparing

end CellExpr
