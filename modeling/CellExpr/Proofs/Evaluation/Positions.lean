import CellExpr.Proofs.Evaluation.Complete
import CellExpr.Text.Occurrence

/-!
# Places within sequences

A place that a number stands for lies within the sequence, and so does a stretch; no calculation on the way leaves the
numbers that it has room for. A text is cut at its bytes as it is cut at its characters.
-/

namespace CellExpr

/-! ## Places and stretches -/

namespace Number

theorem truncateToWord_bounds (x : Float) : minWord ≤ truncateToWord x ∧ truncateToWord x ≤ maxWord := by
  have h : minWord ≤ 0 ∧ 0 ≤ maxWord := by decide
  unfold truncateToWord
  split
  · exact ⟨Int.le_max_left _ _, Int.max_le.2 ⟨by omega, Int.min_le_left _ _⟩⟩
  · split <;> omega
  · exact h

end Number

open CellExpr.Number

theorem lengthWord_bounds (length : Nat) :
    0 ≤ lengthWord length ∧ lengthWord length ≤ maxWord ∧ lengthWord length ≤ length := by
  have h : 0 ≤ maxWord := by decide
  unfold lengthWord
  omega

theorem place?_lt {length place : Nat} {n : Int} (h : place? length n = some place) : place < length := by
  unfold place? at h
  split at h
  · split at h
    · obtain rfl := Option.some.inj h
      omega
    · cases h
  · split at h
    · obtain rfl := Option.some.inj h
      omega
    · cases h

theorem boundOf_le (length : Nat) (x : Float) : boundOf length x ≤ length := by
  have := lengthWord_bounds length
  simp only [boundOf]
  omega

/-- A stretch begins before it ends, and ends within the sequence. -/
theorem stretch_le (length : Nat) (first : Float) (last : Option Float) :
    (stretch length first last).1 ≤ (stretch length first last).2 ∧ (stretch length first last).2 ≤ length := by
  have hstart := boundOf_le length first
  cases last with
  | none =>
    simp only [stretch, Option.map_none, Option.getD_none]
    omega
  | some x =>
    have hstop := boundOf_le length x
    simp only [stretch, Option.map_some, Option.getD_some]
    omega

namespace Outcome

/-- The calculation of a place never takes more from the length than there is. -/
theorem placeOf_eq (length : Nat) (x : Float) : Outcome.placeOf length x = .ok (placeOf? length x) := by
  simp only [Outcome.placeOf, placeOf?, place?]
  split
  · rfl
  · split
    · rename_i h
      rw [difference, given_of h]
      rfl
    · rfl

/-- The calculation of a bound stays within 64 bits, and the bounds that hold it are the right way round. -/
theorem boundOf_eq (length : Nat) (x : Float) : Outcome.boundOf length x = .ok (CellExpr.boundOf length x) := by
  obtain ⟨hnonneg, hmax, _⟩ := lengthWord_bounds length
  obtain ⟨hmin, _⟩ := truncateToWord_bounds x
  have hword : maxWord = 2 ^ (64 - 1) - 1 ∧ minWord = -2 ^ (64 - 1) := by decide
  have hclamp (n : Int) : clamp 0 (lengthWord length) n = .ok (max 0 (min (lengthWord length) n)) := given_of hnonneg _
  simp only [Outcome.boundOf, CellExpr.boundOf, hclamp]
  split
  · rw [inBits_of_le (by omega) (by omega)]
    rfl
  · rfl

theorem stretch_eq (length : Nat) (first : Float) (last : Option Float) :
    Outcome.stretch length first last = .ok (CellExpr.stretch length first last) := by
  cases last with
  | none =>
    rw [Outcome.stretch, boundOf_eq]
    rfl
  | some x =>
    simp only [Outcome.stretch, boundOf_eq]
    rfl

end Outcome

/-! ## Bytes -/

namespace Text

variable {front back s : List Char}

@[simp] theorem byteLength_nil : byteLength [] = 0 := rfl

@[simp] theorem byteLength_cons (c : Char) (s : List Char) : byteLength (c :: s) = c.utf8Size + byteLength s := rfl

theorem byteLength_append : byteLength (front ++ back) = byteLength front + byteLength back := by
  induction front with
  | nil => rw [List.nil_append, byteLength_nil, Nat.zero_add]
  | cons c front ih => rw [List.cons_append, byteLength_cons, byteLength_cons, ih, Nat.add_assoc]

/-- A text can be cut where one part of it ends and another begins. -/
theorem splitAtByte?_append : splitAtByte? (byteLength front) (front ++ back) = some (front, back) := by
  induction front with
  | nil => rw [byteLength_nil, List.nil_append, splitAtByte?]
  | cons c front ih =>
    obtain ⟨n, hn⟩ : ∃ n, c.utf8Size + byteLength front = n + 1 := ⟨c.utf8Size + byteLength front - 1, by
      have := c.utf8Size_pos
      omega⟩
    rw [byteLength_cons, hn, List.cons_append, splitAtByte?, if_pos (by omega), ← hn, Nat.add_sub_cancel_left, ih]
    rfl

theorem betweenBytes?_append (front middle back : List Char) :
    betweenBytes? (front ++ (middle ++ back)) (byteLength front) (byteLength (front ++ middle)) = some middle := by
  simp only [byteLength_append, betweenBytes?, if_pos (Nat.le_add_right _ _), splitAtByte?_append, Option.bind_some,
    Nat.add_sub_cancel_left, Option.map_some]

/-- What two texts have in common ends in the second one where a character begins. -/
theorem exists_commonBytes (a b : List Char) : ∃ front back, b = front ++ back ∧ commonBytes a b = byteLength front := by
  induction a generalizing b with
  | nil => exact ⟨[], b, rfl, rfl⟩
  | cons x a ih =>
    cases b with
    | nil => exact ⟨[], [], rfl, rfl⟩
    | cons y b =>
      by_cases h : x = y
      · subst h
        obtain ⟨front, back, rfl, hbytes⟩ := ih b
        refine ⟨x :: front, back, rfl, ?_⟩
        rw [byteLength_cons, ← hbytes]
        simp [commonBytes]
      · exact ⟨[], y :: b, rfl, by simp [commonBytes, h]⟩

theorem firstPosition?_le {needle : List Char} {i : Nat} (h : firstPosition? needle s = some i) : i ≤ s.length := by
  induction s generalizing i with
  | nil =>
    unfold firstPosition? at h
    split at h <;> cases h
    exact Nat.le_refl _
  | cons c s ih =>
    unfold firstPosition? at h
    split at h
    · cases h
      exact Nat.zero_le _
    · obtain ⟨j, hj, rfl⟩ := Option.map_eq_some_iff.1 h
      exact Nat.succ_le_succ (ih hj)

theorem lastPosition?_le {needle : List Char} {i : Nat} (h : lastPosition? needle s = some i) : i ≤ s.length := by
  induction s generalizing i with
  | nil =>
    unfold lastPosition? at h
    split at h <;> cases h
    exact Nat.le_refl _
  | cons c s ih =>
    unfold lastPosition? at h
    split at h
    · rename_i j hj
      cases h
      exact Nat.succ_le_succ (ih hj)
    · split at h <;> cases h
      exact Nat.zero_le _

end Text

namespace Outcome

open CellExpr.Text

theorem byteAt_of_le {s : List Char} {place : Nat} (h : place ≤ s.length) :
    byteAt s place = .ok (byteLength (s.take place)) := given_of h _

/-- Between the bytes of two places lies what lies between the places. -/
theorem textBetween_take {s : List Char} {start stop : Nat} (h : start ≤ stop) :
    textBetween s (byteLength (s.take start)) (byteLength (s.take stop)) = .ok ((s.drop start).take (stop - start)) := by
  have hstop : s.take stop = s.take start ++ (s.drop start).take (stop - start) := by
    rw [← List.take_add, Nat.add_sub_cancel' h]
  have hbetween := betweenBytes?_append (s.take start) ((s.drop start).take (stop - start))
    ((s.drop start).drop (stop - start))
  rw [List.take_append_drop, List.take_append_drop, ← hstop] at hbetween
  rw [textBetween, hbetween, require]

theorem textBetween_front {s : List Char} (place : Nat) :
    textBetween s 0 (byteLength (s.take place)) = .ok (s.take place) := by
  have h := @textBetween_take s 0 place (Nat.zero_le place)
  rwa [List.take_zero, byteLength_nil, List.drop_zero, Nat.sub_zero] at h

theorem textBetween_back {s : List Char} {place : Nat} (h : place ≤ s.length) :
    textBetween s (byteLength (s.take place)) (byteLength s) = .ok (s.drop place) := by
  have h := @textBetween_take s place s.length h
  rwa [List.take_length, ← List.length_drop, List.take_length] at h

end Outcome

end CellExpr
