import CellExpr.Proofs.Text.Pieces
import Mathlib.Data.List.Basic

/-!
# Words

The words of a text are its longest stretches without blank characters (`mem_words_iff`). Words with a single space between them are the
words of what they make up (`words_joinWith`), and nothing of it is trimmed (`trim_joinWith`).
-/

namespace CellExpr.Text

variable {s w : List Char} {ws pieces : List (List Char)}

/-- A text of its own: it is not empty and has no blank character in it. -/
def IsSolid (w : List Char) : Prop := w ≠ [] ∧ ∀ c ∈ w, isBlank c = false

/-- A word of a text: it has no blank character in it, and what precedes it ends and what follows it begins with one, if there is
anything. -/
def IsWordOf (w s : List Char) : Prop :=
  IsSolid w ∧ ∃ before after, s = before ++ w ++ after ∧ (∀ c ∈ before.getLast?, isBlank c = true) ∧ ∀ c ∈ after.head?, isBlank c = true

/-! ## Cutting -/

theorem eq_nil_of_getLast? (h : ∀ c ∈ s, isBlank c = false) (hlast : ∀ c ∈ s.getLast?, isBlank c = true) : s = [] :=
  List.getLast?_eq_none_iff.1 (Option.eq_none_iff_forall_ne_some.2 fun c hc =>
    Bool.noConfusion ((h c (List.mem_of_getLast? hc)).symm.trans (hlast c hc)))

theorem eq_nil_of_head? (h : ∀ c ∈ s, isBlank c = false) (hhead : ∀ c ∈ s.head?, isBlank c = true) : s = [] :=
  List.head?_eq_none_iff.1 (Option.eq_none_iff_forall_ne_some.2 fun c hc =>
    Bool.noConfusion ((h c (List.mem_of_head? hc)).symm.trans (hhead c hc)))

/-- A text without blank characters is its only word. -/
theorem isWordOf_of_forall (h : ∀ c ∈ s, isBlank c = false) : IsWordOf w s ↔ w = s ∧ w ≠ [] := by
  constructor
  · rintro ⟨⟨hne, -⟩, before, after, rfl, hbefore, hafter⟩
    obtain rfl : before = [] := eq_nil_of_getLast? (fun c hc => h c (by simp [hc])) hbefore
    obtain rfl : after = [] := eq_nil_of_head? (fun c hc => h c (by simp [hc])) hafter
    exact ⟨(List.append_nil _).symm, hne⟩
  · rintro ⟨rfl, hne⟩
    exact ⟨⟨hne, h⟩, [], [], (List.append_nil _).symm, nofun, nofun⟩

/-- What precedes a blank character is a word unless it is empty, and the others are those of what follows. -/
theorem isWordOf_append {piece rest : List Char} {c : Char} (hpiece : ∀ d ∈ piece, isBlank d = false) (hc : isBlank c = true) :
    IsWordOf w (piece ++ c :: rest) ↔ w = piece ∧ w ≠ [] ∨ IsWordOf w rest := by
  constructor
  · rintro ⟨⟨hne, hw⟩, before, after, heq, hbefore, hafter⟩
    rw [List.append_assoc, List.append_eq_append_iff] at heq
    rcases heq with ⟨skipped, rfl, hrest⟩ | ⟨front, rfl, hrest⟩
    · cases skipped with
      | nil =>
        -- a word does not begin with a blank character
        obtain ⟨d, w, rfl⟩ := List.exists_cons_of_ne_nil hne
        obtain rfl : c = d := (List.cons.inj hrest).1
        exact Bool.noConfusion (hc.symm.trans (hw c (.head _)))
      | cons d skipped =>
        obtain ⟨-, rfl⟩ := List.cons.inj hrest
        refine .inr ⟨⟨hne, hw⟩, skipped, after, (List.append_assoc ..).symm, fun e he => hbefore e ?_, hafter⟩
        rw [Option.mem_def] at he ⊢
        simp [List.getLast?_append, List.getLast?_cons, he]
    · obtain rfl : before = [] := eq_nil_of_getLast? (fun d hd => hpiece d (List.mem_append_left _ hd)) hbefore
      rw [List.nil_append] at hpiece ⊢
      rcases List.append_eq_append_iff.1 hrest with ⟨back, rfl, hback⟩ | ⟨back, rfl, hback⟩
      · obtain rfl : back = [] := by
          refine eq_nil_of_head? (fun d hd => hpiece d (List.mem_append_right _ hd)) fun d hd => hafter d ?_
          rw [hback, List.head?_append, hd]
          rfl
        exact .inl ⟨(List.append_nil _).symm, hne⟩
      · cases back with
        | nil => exact .inl ⟨List.append_nil _, hne⟩
        | cons d back =>
          -- a word has no blank character in it
          obtain rfl : c = d := (List.cons.inj hback).1
          exact Bool.noConfusion (hc.symm.trans (hw c (List.mem_append_right _ (.head _))))
  · rintro (⟨rfl, hne⟩ | ⟨hsolid, before, after, rfl, hbefore, hafter⟩)
    · exact ⟨⟨hne, hpiece⟩, [], c :: rest, rfl, nofun, fun d hd => Option.some.inj hd ▸ hc⟩
    · refine ⟨hsolid, piece ++ c :: before, after, by simp, fun d hd => ?_, hafter⟩
      cases hlast : before.getLast? with
      | none =>
        rw [List.getLast?_eq_none_iff.1 hlast, List.getLast?_concat] at hd
        exact Option.some.inj hd ▸ hc
      | some e =>
        rw [List.getLast?_append, List.getLast?_cons, hlast] at hd
        exact hbefore d (hlast.trans hd)

theorem CutAt.mem_iff (h : CutAt isBlank s pieces) : w ∈ pieces.filter (!·.isEmpty) ↔ IsWordOf w s := by
  rw [List.mem_filter, Bool.not_eq_true', List.isEmpty_eq_false_iff]
  induction h with
  | last h => rw [List.mem_singleton, isWordOf_of_forall h]
  | next h hc _ ih => rw [isWordOf_append h hc, ← ih, List.mem_cons, or_and_right]

/-- The words of a text are its longest stretches without blank characters. -/
theorem mem_words_iff : w ∈ words s ↔ IsWordOf w s := (cutAt_piecesBetween isBlank s).mem_iff

/-! ## Joining -/

theorem cutAt_joinWith (h : ∀ w ∈ ws, IsSolid w) (hne : ws ≠ []) : CutAt isBlank (joinWith [' '] ws) ws := by
  induction ws with
  | nil => exact absurd rfl hne
  | cons w ws ih =>
    obtain ⟨hw, hws⟩ := List.forall_mem_cons.1 h
    by_cases hrest : ws = []
    · subst hrest
      rw [joinWith, List.intersperse_singleton, List.flatten_singleton]
      exact .last hw.2
    · rw [joinWith_cons hrest]
      exact .next hw.2 (by decide) (ih hws hrest)

/-- Words with a space between them are the words of what they make up. -/
theorem words_joinWith (h : ∀ w ∈ ws, IsSolid w) : words (joinWith [' '] ws) = ws := by
  by_cases hne : ws = []
  · subst hne
    rfl
  · rw [words, ← cutAt_iff.1 (cutAt_joinWith h hne), List.filter_eq_self]
    intro w hw
    rw [Bool.not_eq_true', List.isEmpty_eq_false_iff]
    exact (h w hw).1

theorem trimStart_eq_self (h : ∀ c ∈ s.head?, isBlank c = false) : trimStart s = s := by
  cases s with
  | nil => rfl
  | cons c s => exact List.dropWhile_cons_of_neg (Bool.eq_false_iff.1 (h c rfl))

theorem trim_eq_self (hhead : ∀ c ∈ s.head?, isBlank c = false) (hlast : ∀ c ∈ s.getLast?, isBlank c = false) : trim s = s := by
  rw [trim, trimStart_eq_self hhead, trimStart_eq_self (by rwa [List.head?_reverse]), List.reverse_reverse]

theorem mem_joinWith {separator : List Char} {c : Char} (h : c ∈ joinWith separator ws) : c ∈ separator ∨ ∃ w ∈ ws, c ∈ w := by
  induction ws with
  | nil => cases h
  | cons w ws ih =>
    by_cases hrest : ws = []
    · subst hrest
      rw [joinWith, List.intersperse_singleton, List.flatten_singleton] at h
      exact .inr ⟨w, .head _, h⟩
    · rw [joinWith_cons hrest, List.mem_append, List.mem_append] at h
      rcases h with h | h | h
      · exact .inr ⟨w, .head _, h⟩
      · exact .inl h
      · exact (ih h).imp_right fun ⟨v, hv, hc⟩ => ⟨v, .tail _ hv, hc⟩

theorem isBlank_of_head?_joinWith (h : ∀ w ∈ ws, IsSolid w) : ∀ c ∈ (joinWith [' '] ws).head?, isBlank c = false := by
  intro c hc
  cases ws with
  | nil => cases hc
  | cons w ws =>
    have hw := h w (.head _)
    have hhead : (joinWith [' '] (w :: ws)).head? = w.head? := by
      by_cases hrest : ws = []
      · subst hrest
        rw [joinWith, List.intersperse_singleton, List.flatten_singleton]
      · rw [joinWith_cons hrest, List.head?_append_of_ne_nil _ hw.1]
    rw [hhead] at hc
    exact hw.2 c (List.mem_of_head? hc)

theorem isBlank_of_getLast?_joinWith (h : ∀ w ∈ ws, IsSolid w) : ∀ c ∈ (joinWith [' '] ws).getLast?, isBlank c = false := by
  induction ws with
  | nil => exact nofun
  | cons w ws ih =>
    obtain ⟨hw, hws⟩ := List.forall_mem_cons.1 h
    intro c hc
    by_cases hrest : ws = []
    · subst hrest
      rw [joinWith, List.intersperse_singleton, List.flatten_singleton] at hc
      exact hw.2 c (List.mem_of_getLast? hc)
    · have hne : joinWith [' '] ws ≠ [] := by
        intro hnil
        have hwords := words_joinWith hws
        rw [hnil] at hwords
        exact hrest hwords.symm
      rw [joinWith_cons hrest, List.getLast?_append_of_ne_nil _ (List.append_ne_nil_of_right_ne_nil _ hne),
        List.getLast?_append_of_ne_nil _ hne] at hc
      exact ih hws c hc

/-- What words with a space between them make up is trimmed already. -/
theorem trim_joinWith (h : ∀ w ∈ ws, IsSolid w) : trim (joinWith [' '] ws) = joinWith [' '] ws :=
  trim_eq_self (isBlank_of_head?_joinWith h) (isBlank_of_getLast?_joinWith h)

end CellExpr.Text
