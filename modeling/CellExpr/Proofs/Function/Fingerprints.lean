import CellExpr.Proofs.Function.Invocation
import CellExpr.Proofs.Text.LowerCase
import CellExpr.Proofs.Text.Words
import Mathlib.Data.List.Sort

/-!
# Fingerprints

The key that `fingerprint` makes of a text holds the words of the text in their order, each once. Two texts have the same key if and only
if they have the same words, and a key is its own key (`call_fingerprint`). A key is read back word by word, since its words have no
blank character in them; nothing of a word is taken out or changed in lower case again.
-/

namespace List

/-! ## Repeated elements -/

theorem eraseRepsBy_loop {α : Type} (r : α → α → Bool) (a : α) (l acc : List α) :
    eraseRepsBy.loop r a l acc = acc.reverse ++ eraseRepsBy.loop r a l [] := by
  induction l generalizing a acc with
  | nil => simp [eraseRepsBy.loop]
  | cons b l ih =>
    rw [eraseRepsBy.loop, eraseRepsBy.loop]
    cases r a b with
    | true => exact ih a acc
    | false => rw [ih b (a :: acc), ih b [a], reverse_cons, append_assoc, reverse_singleton]

variable {α : Type} [BEq α] [LawfulBEq α] {R : α → α → Prop} {l : List α} {a b : α}

theorem eraseReps_cons_cons (a b : α) (l : List α) :
    (a :: b :: l).eraseReps = if a == b then (b :: l).eraseReps else a :: (b :: l).eraseReps := by
  rw [eraseReps, eraseRepsBy, eraseRepsBy.loop]
  cases h : a == b with
  | true =>
    rw [if_pos rfl, eq_of_beq h]
    rfl
  | false =>
    rw [if_neg Bool.false_ne_true]
    exact eraseRepsBy_loop _ b l [a]

theorem mem_eraseReps : b ∈ l.eraseReps ↔ b ∈ l := by
  induction l with
  | nil => rfl
  | cons a l ih =>
    cases l with
    | nil => rfl
    | cons c l =>
      rw [eraseReps_cons_cons]
      split
      · rename_i h
        rw [ih, eq_of_beq h]
        exact ⟨.tail c, fun hb => (mem_cons.1 hb).elim (fun hb => hb ▸ .head l) id⟩
      · rw [mem_cons, mem_cons, ih]

/-- Of a list in order no element is left twice. -/
theorem pairwise_eraseReps (h : l.Pairwise R) (hantisymm : ∀ a b, R a b → R b a → a = b) :
    l.eraseReps.Pairwise fun a b => R a b ∧ a ≠ b := by
  induction l with
  | nil => exact .nil
  | cons a l ih =>
    obtain ⟨hall, hrest⟩ := pairwise_cons.1 h
    cases l with
    | nil => exact pairwise_singleton _ a
    | cons c l =>
      rw [eraseReps_cons_cons]
      split
      · exact ih hrest
      · rename_i hne
        refine pairwise_cons.2 ⟨fun d hd => ⟨hall d (mem_eraseReps.1 hd), ?_⟩, ih hrest⟩
        rintro rfl
        -- an element that comes again stands on both sides of the next one
        rcases mem_cons.1 (mem_eraseReps.1 hd) with hd | hd
        · exact hne (beq_iff_eq.2 hd)
        · exact hne (beq_iff_eq.2 <| hantisymm _ _ (hall c (.head _)) ((pairwise_cons.1 hrest).1 _ hd))

end List

namespace CellExpr

open CellExpr.Text CellExpr.TextFunctions

variable {s t w : List Char}

namespace Text

/-! ## The words of a key -/

/-- The words that a key is made of: those of the text without blank characters around it, without marks of punctuation and control
characters other than tabs, and in lower case. -/
def keySet (s : List Char) : Set (List Char) := {w | IsWordOf w (lower ((trim s).filter isKeyChar))}

theorem mem_keyWords : w ∈ keyWords s ↔ w ∈ keySet s := mem_words_iff

theorem charsLe_eq_true {a b : List Char} : charsLe a b = true ↔ ¬b < a := decide_eq_true_iff

/-- The words of a key, in their order and each once. -/
def keyList (s : List Char) : List (List Char) := ((keyWords s).mergeSort charsLe).eraseReps

theorem mem_keyList : w ∈ keyList s ↔ w ∈ keySet s := by
  rw [keyList, List.mem_eraseReps, List.mem_mergeSort, mem_keyWords]

theorem pairwise_keyList (s : List Char) : (keyList s).Pairwise (· < ·) := by
  have hsorted : ((keyWords s).mergeSort charsLe).Pairwise fun a b => charsLe a b = true := by
    refine List.pairwise_mergeSort (fun a b c hab hbc => ?_) (fun a b => ?_) _
    · rw [charsLe_eq_true] at hab hbc ⊢
      exact List.le_trans hab hbc
    · rw [Bool.or_eq_true, charsLe_eq_true, charsLe_eq_true]
      exact List.le_total a b
  have hantisymm : ∀ a b, charsLe a b = true → charsLe b a = true → a = b :=
    fun a b hab hba => List.le_antisymm (charsLe_eq_true.1 hab) (charsLe_eq_true.1 hba)
  refine (List.pairwise_eraseReps hsorted hantisymm).imp fun {a b} ⟨hle, hne⟩ => ?_
  by_contra hlt
  exact hne (hantisymm a b hle (charsLe_eq_true.2 hlt))

theorem isSolid_of_mem_keyList (h : w ∈ keyList s) : IsSolid w := (mem_keyList.1 h).1

/-- The words of a key depend on the set of the words only. -/
theorem keyList_eq_iff : keyList s = keyList t ↔ keySet s = keySet t := by
  constructor
  · intro h
    ext w
    rw [← mem_keyList, h, mem_keyList]
  · intro h
    refine (pairwise_keyList s).eq_of_mem_iff (pairwise_keyList t) fun w => ?_
    rw [mem_keyList, mem_keyList, h]

/-! ## Keys -/

theorem words_fingerprint (s : List Char) : words (fingerprint s) = keyList s := words_joinWith fun _ => isSolid_of_mem_keyList

/-- Two texts have the same key if and only if they have the same words. -/
theorem fingerprint_eq_iff : fingerprint s = fingerprint t ↔ keySet s = keySet t := by
  rw [← keyList_eq_iff]
  constructor
  · intro h
    rw [← words_fingerprint, h, words_fingerprint]
  · intro h
    exact congrArg (joinWith [' ']) h

theorem IsClear.isKeyChar {c : Char} (h : IsClear c) : isKeyChar c = true := by
  rw [Text.isKeyChar, h.2.2, h.2.1]
  rfl

/-- The characters of a key are spaces and characters in lower case that are kept in a key. -/
theorem isLowerCase_of_mem_fingerprint {c : Char} (h : c ∈ fingerprint s) : IsLowerCase c ∧ isKeyChar c = true := by
  rcases mem_joinWith h with h | ⟨w, hw, hc⟩
  · obtain rfl := List.mem_singleton.1 h
    decide +kernel
  · obtain ⟨-, before, after, heq, -⟩ := mem_keyList.1 hw
    have hmem : c ∈ lower ((trim s).filter isKeyChar) := by
      rw [heq]
      exact List.mem_append_left _ (List.mem_append_right _ hc)
    obtain ⟨hlower, hkept | hclear⟩ := mem_lower hmem
    · exact ⟨hlower, (List.mem_filter.1 hkept).2⟩
    · exact ⟨hlower, hclear.isKeyChar⟩

/-- A key has the words that it was made of. -/
theorem keySet_fingerprint (s : List Char) : keySet (fingerprint s) = keySet s := by
  have htrim : trim (fingerprint s) = fingerprint s := trim_joinWith fun _ => isSolid_of_mem_keyList
  have hkept : (fingerprint s).filter isKeyChar = fingerprint s :=
    List.filter_eq_self.2 fun _ hc => (isLowerCase_of_mem_fingerprint hc).2
  have hlower : lower (fingerprint s) = fingerprint s := lower_eq_self fun _ hc => (isLowerCase_of_mem_fingerprint hc).1
  ext w
  rw [keySet, htrim, hkept, hlower, ← mem_keyList, ← words_fingerprint, mem_words_iff]
  rfl

theorem fingerprint_fingerprint (s : List Char) : fingerprint (fingerprint s) = fingerprint s :=
  fingerprint_eq_iff.2 (keySet_fingerprint s)

end Text

/-! ## The call -/

/-- The key of a string. -/
def keyOf (s : String) : String := String.ofList (fingerprint s.toList)

theorem value_call_fingerprint (now : Calendar.Instant) (scope : Scope) (s : String) :
    ((Registry.standard now).call "fingerprint" [.string s] scope).value = .string (keyOf s) :=
  rfl

/-- The function makes the key of a string, two strings have the same key if and only if they have the same words, and a key is its own
key. -/
theorem call_fingerprint (now : Calendar.Instant) (scope : Scope) :
    let call := fun s : String => ((Registry.standard now).call "fingerprint" [.string s] scope).value
    (∀ s, call s = .string (keyOf s)) ∧
      (∀ s t, call s = call t ↔ keySet s.toList = keySet t.toList) ∧
      ∀ s, call (keyOf s) = call s := by
  intro call
  have hvalue : ∀ s, call s = .string (keyOf s) := value_call_fingerprint now scope
  refine ⟨hvalue, fun s t => ?_, fun s => ?_⟩
  · rw [hvalue, hvalue, ← fingerprint_eq_iff]
    constructor
    · intro h
      exact String.ofList_injective (Value.string.inj h)
    · intro h
      rw [keyOf, keyOf, h]
  · rw [hvalue, hvalue, keyOf, keyOf, String.toList_ofList, fingerprint_fingerprint]

end CellExpr
