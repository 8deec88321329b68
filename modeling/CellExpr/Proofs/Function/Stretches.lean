import CellExpr.Function.Standard
import CellExpr.Proofs.Evaluation.Positions
import CellExpr.Proofs.Number.Whole

/-!
# Stretches of texts and arrays

The parts that `slice`, `substring` and `get` take (`call_slice`). Their bounds are doubles of any kind. A stretch lies within the
sequence whatever these are, and two stretches that meet at a bound make up the sequence. Bounds that are whole numbers, however
great, are those of the language: a negative one counts from the end, and both are held within the sequence.
-/

namespace CellExpr

open CellExpr.Number

variable {α : Type}

/-! ## Parts of a list -/

/-- The elements of a list within a stretch. -/
def within (items : List α) (bounds : Nat × Nat) : List α := (items.drop bounds.1).take (bounds.2 - bounds.1)

/-- The place in a list of some length that a whole number stands for as a bound: a negative one counts from the end, and none is
before the beginning or after the end. -/
def boundAt (length : Nat) (b : Int) : Int := max 0 (min length (if b < 0 then length + b else b))

/-- The elements of a list at the places that are not before one bound, but before another. -/
def elementsBetween (items : List α) (a b : Int) : List α :=
  (items.zipIdx.filter fun (_, p) => boundAt items.length a ≤ p ∧ p < boundAt items.length b).map (·.1)

theorem filter_zipIdx (items : List α) (a b k : Nat) :
    ((items.zipIdx k).filter fun (_, p) => decide (a ≤ p ∧ p < b)).map (·.1) = (items.drop (a - k)).take (b - max a k) := by
  induction items generalizing k with
  | nil => rw [List.drop_nil, List.take_nil]; rfl
  | cons x items ih =>
    rw [List.zipIdx_cons, List.filter_cons]
    by_cases hplace : a ≤ k ∧ k < b
    · rw [if_pos (decide_eq_true hplace), List.map_cons, ih, show a - k = 0 by omega, show a - (k + 1) = 0 by omega,
        show b - max a k = b - max a (k + 1) + 1 by omega]
      rfl
    · rw [if_neg (by simpa using hplace), ih]
      rcases Nat.lt_or_ge k a with hk | hk
      · rw [show a - k = a - (k + 1) + 1 by omega, show max a (k + 1) = max a k by omega, List.drop_succ_cons]
      · rw [show b - max a k = 0 by omega, show b - max a (k + 1) = 0 by omega, List.take_zero, List.take_zero]

/-- A part that begins where another ends completes it. -/
theorem within_append {length : Nat} (items : List α) (h : items.length = length) {place : Nat} :
    within items (0, place) ++ within items (place, length) = items := by
  subst h
  rw [within, within, List.drop_zero, Nat.sub_zero, ← List.length_drop, List.take_length, List.take_append_drop]

/-! ## Bounds -/

theorem boundOf_zero (length : Nat) : boundOf length 0 = 0 := by
  have hzero : truncateToWord 0 = 0 := by decide +kernel
  have := lengthWord_bounds length
  simp only [boundOf, hzero]
  omega

/-- A stretch from the beginning on ends where the stretch from its end on begins. -/
theorem stretch_meet (length : Nat) (k : Float) :
    ∃ place, stretch length 0 (some k) = (0, place) ∧ stretch length k none = (place, length) := by
  have hle := boundOf_le length k
  refine ⟨boundOf length k, ?_, ?_⟩
  · simp only [stretch, boundOf_zero, Option.map_some, Option.getD_some, Nat.zero_max]
  · simp only [stretch, Option.map_none, Option.getD_none, Nat.max_eq_right hle]

/-- No whole number is too great for a bound: beyond the numbers of 64 bits it is held within the sequence all the same. -/
theorem boundOf_of_isInteger {length : Nat} {x : Float} {n : Int} (hlength : (length : Int) ≤ maxWord) (h : IsInteger x n) :
    (boundOf length x : Int) = boundAt length n := by
  have hword : minWord = -maxWord - 1 := by decide
  have htruncated := truncateToWord_of_whole? h.whole?
  simp only [boundOf, boundAt, lengthWord, htruncated]
  omega

theorem within_stretch {items : List α} {first last : Float} {a b : Int} (hlength : (items.length : Int) ≤ maxWord)
    (hfirst : IsInteger first a) (hlast : IsInteger last b) :
    within items (stretch items.length first (some last)) = elementsBetween items a b := by
  have hfilter := filter_zipIdx items (boundOf items.length first) (boundOf items.length last) 0
  simp only [← Int.ofNat_le, ← Int.ofNat_lt, boundOf_of_isInteger hlength hfirst, boundOf_of_isInteger hlength hlast] at hfilter
  rw [elementsBetween, hfilter, within]
  simp only [stretch, Option.map_some, Option.getD_some, Nat.sub_zero, Nat.max_zero]
  congr 1
  omega

/-! ## The functions -/

theorem TextFunctions.textPart_eq (s : String) (first : Float) (last : Option Float) :
    textPart s first last = .ok (.ofChars (within s.toList (stretch s.toList.length first last))) := by
  obtain ⟨hstart, hstop⟩ := stretch_le s.toList.length first last
  rw [textPart, Outcome.stretch_eq, Outcome.ok_bind]
  dsimp only
  rw [Outcome.part_of_le hstart hstop]
  rfl

theorem SequenceFunctions.partOf_array (items : List Value) (first : Float) (last : Option Float) :
    partOf (.array items) first last = .ok (.array (within items (stretch items.length first last))) := by
  obtain ⟨hstart, hstop⟩ := stretch_le items.length first last
  show (Outcome.stretch items.length first last >>= fun bounds => _) = _
  rw [Outcome.stretch_eq, Outcome.ok_bind, Outcome.part_of_le hstart hstop]
  rfl

section

variable (now : Calendar.Instant) (scope : Scope) (s : String) (items : List Value) (first : Float) (last : Option Float)

/-- The arguments of a function that takes a part: a sequence, a bound, and a bound that may be left out. -/
def partArgs (v : Value) (first : Float) (last : Option Float) : List Value := v :: .number first :: (last.map Value.number).toList

theorem call_slice_text : ((Registry.standard now).call "slice" (partArgs (.string s) first last) scope).value =
    .ofChars (within s.toList (stretch s.toList.length first last)) := by
  cases last with
  | none => exact Outcome.value_toTraced (TextFunctions.textPart_eq s first none)
  | some last => exact Outcome.value_toTraced (TextFunctions.textPart_eq s first (some last))

theorem call_slice_array : ((Registry.standard now).call "slice" (partArgs (.array items) first last) scope).value =
    .array (within items (stretch items.length first last)) := by
  cases last with
  | none => exact Outcome.value_toTraced (SequenceFunctions.partOf_array items first none)
  | some last => exact Outcome.value_toTraced (SequenceFunctions.partOf_array items first (some last))

theorem call_substring : ((Registry.standard now).call "substring" (partArgs (.string s) first last) scope).value =
    .ofChars (within s.toList (stretch s.toList.length first last)) := by
  cases last with
  | none => exact Outcome.value_toTraced (TextFunctions.textPart_eq s first none)
  | some last => exact Outcome.value_toTraced (TextFunctions.textPart_eq s first (some last))

/-- With a second bound, `get` takes a part. -/
theorem call_get_part (last : Float) :
    ((Registry.standard now).call "get" (partArgs (.string s) first (some last)) scope).value =
      .ofChars (within s.toList (stretch s.toList.length first (some last))) :=
  Outcome.value_toTraced (TextFunctions.textPart_eq s first (some last))

end

/-- Stretches lie within the sequence, whatever doubles their bounds are. What `slice` takes up to a bound and what it takes from there
on make up a text or an array. Between whole numbers it takes the elements from the first one to before the second one, where
negative numbers count from the end; and `substring` and `get` take of a text what `slice` takes. -/
theorem call_slice (now : Calendar.Instant) (scope : Scope) :
    (∀ (length : Nat) (first : Float) (last : Option Float), Outcome.stretch length first last = .ok (stretch length first last) ∧
      (stretch length first last).1 ≤ (stretch length first last).2 ∧ (stretch length first last).2 ≤ length) ∧
    (∀ (s : String) (k : Float), ∃ front back,
      ((Registry.standard now).call "slice" [.string s, .number 0, .number k] scope).value = .string front ∧
        ((Registry.standard now).call "slice" [.string s, .number k] scope).value = .string back ∧ front ++ back = s) ∧
    (∀ (items : List Value) (k : Float), ∃ front back,
      ((Registry.standard now).call "slice" [.array items, .number 0, .number k] scope).value = .array front ∧
        ((Registry.standard now).call "slice" [.array items, .number k] scope).value = .array back ∧ front ++ back = items) ∧
    (∀ (s : String) (first last : Float) (a b : Int), (s.length : Int) ≤ maxWord → IsInteger first a → IsInteger last b →
      ((Registry.standard now).call "slice" [.string s, .number first, .number last] scope).value =
        .ofChars (elementsBetween s.toList a b)) ∧
    (∀ (items : List Value) (first last : Float) (a b : Int), (items.length : Int) ≤ maxWord → IsInteger first a → IsInteger last b →
      ((Registry.standard now).call "slice" [.array items, .number first, .number last] scope).value =
        .array (elementsBetween items a b)) ∧
    ∀ (s : String) (first last : Float), ∃ part,
      ((Registry.standard now).call "slice" [.string s, .number first, .number last] scope).value = .string part ∧
        ((Registry.standard now).call "substring" [.string s, .number first, .number last] scope).value = .string part ∧
        ((Registry.standard now).call "get" [.string s, .number first, .number last] scope).value = .string part := by
  refine ⟨fun length first last => ⟨Outcome.stretch_eq length first last, stretch_le length first last⟩, fun s k => ?_,
    fun items k => ?_, fun s first last a b hlength hfirst hlast => ?_, fun items first last a b hlength hfirst hlast => ?_,
    fun s first last => ?_⟩
  · obtain ⟨place, hfront, hback⟩ := stretch_meet s.toList.length k
    refine ⟨_, _, call_slice_text now scope s 0 (some k), call_slice_text now scope s k none, ?_⟩
    rw [hfront, hback, ← String.ofList_append, within_append _ rfl, String.ofList_toList]
  · obtain ⟨place, hfront, hback⟩ := stretch_meet items.length k
    refine ⟨_, _, call_slice_array now scope items 0 (some k), call_slice_array now scope items k none, ?_⟩
    rw [hfront, hback, within_append _ rfl]
  · refine (call_slice_text now scope s first (some last)).trans ?_
    rw [within_stretch (by rwa [String.length_toList]) hfirst hlast]
  · refine (call_slice_array now scope items first (some last)).trans ?_
    rw [within_stretch hlength hfirst hlast]
  · exact ⟨_, call_slice_text now scope s first (some last), call_substring now scope s first (some last),
      call_get_part now scope s first last⟩

/-- The last two of three elements: minus two counts from the end, and `2^70` is held at the end. -/
theorem call_slice_lastTwo :
    let items : List Value := [.number 1, .string "b", .null]
    (items.length : Int) ≤ maxWord ∧ ("b".length : Int) ≤ maxWord ∧ IsInteger (-2) (-2) ∧
      IsInteger 1180591620717411303424 1180591620717411303424 ∧
      ((Registry.standard ⟨0, 0, by decide⟩).call "slice" [.array items, .number (-2), .number 1180591620717411303424] []).value =
        .array [.string "b", .null] ∧
      ((Registry.standard ⟨0, 0, by decide⟩).call "slice" [.string "b", .number (-2), .number 1180591620717411303424] []).value =
        .string "b" := by
  intro items
  obtain ⟨-, -, -, htext, harray, -⟩ := call_slice ⟨0, 0, by decide⟩ []
  have hfirst : IsInteger (-2) (-2) := by decide +kernel
  have hlast : IsInteger 1180591620717411303424 1180591620717411303424 := by decide +kernel
  have hitems : elementsBetween items (-2) 1180591620717411303424 = [.string "b", .null] := rfl
  have hchars : elementsBetween "b".toList (-2) 1180591620717411303424 = ['b'] := by decide
  refine ⟨by decide, by decide, hfirst, hlast, ?_, ?_⟩
  · rw [harray items _ _ _ _ (by decide) hfirst hlast, hitems]
  · rw [htext "b" _ _ _ _ (by decide) hfirst hlast, hchars]
    rfl

end CellExpr
