import CellExpr.Calendar.Writing
import Mathlib.Tactic.SplitIfs

/-!
# Letter patterns

The reader of a letter pattern goes from state to state (`PatternState.after`), and what it has made of the start of a pattern stays as
it is (`ofLettersFrom_append`). A pattern that ends outside a quoted text can be followed by any other one that does not go on with its
last run (`ofLetters_append`). A quoted text is shown as it is if and only if there are no quotes inside it
(`shownFrom_true_eq_self_iff`).
-/

namespace CellExpr.Calendar

variable {s : PatternState} {c : Char} {p q t : List Char}

/-! ## States -/

namespace PatternState

/-- The state after one more character. -/
def after : PatternState → Char → PatternState
  | outside, c => if c = '\x27' then opened else inRun c 1
  | inRun d count, c => if c = d then inRun d (count + 1) else if c = '\x27' then opened else inRun c 1
  | opened, c => if c = '\x27' then outside else quoted
  | quoted, c => if c = '\x27' then outside else quoted

/-- The pieces that are complete with one more character. -/
def completed : PatternState → Char → Layout
  | outside, _ => []
  | inRun d count, c => if c = d then [] else runPieces d count
  | opened, c => [.literal c]
  | quoted, c => if c = '\x27' then [] else [.literal c]

/-- The pieces that are complete at the end of a pattern. -/
def completedBy : PatternState → List Char → Layout
  | _, [] => []
  | s, c :: p => s.completed c ++ (s.after c).completedBy p

/-- Outside a quoted text the number of quotes is even. A run ends with the character that it is a run of. -/
def IsAfter (p : List Char) : PatternState → Prop
  | outside => p.count '\x27' % 2 = 0
  | inRun c _ => p.count '\x27' % 2 = 0 ∧ c ≠ '\x27' ∧ p.getLast? = some c
  | opened | quoted => p.count '\x27' % 2 = 1

theorem IsAfter.after (h : s.IsAfter p) (c : Char) : (s.after c).IsAfter (p ++ [c]) := by
  have hlast : (p ++ [c]).getLast? = some c := List.getLast?_concat
  have hcount : (p ++ [c]).count '\x27' = p.count '\x27' + if c = '\x27' then 1 else 0 := by
    rw [List.count_append, List.count_singleton]
    simp only [beq_iff_eq]
  by_cases hc : c = '\x27'
  · rw [if_pos hc] at hcount
    cases s with
    | outside =>
      rw [PatternState.after, if_pos hc]
      unfold IsAfter at h ⊢
      omega
    | inRun d count =>
      obtain ⟨heven, hd, -⟩ := h
      rw [PatternState.after, if_neg fun heq : c = d => hd (heq.symm.trans hc), if_pos hc]
      unfold IsAfter
      omega
    | opened | quoted =>
      rw [PatternState.after, if_pos hc]
      unfold IsAfter at h ⊢
      omega
  · rw [if_neg hc] at hcount
    cases s with
    | outside =>
      rw [PatternState.after, if_neg hc]
      exact ⟨hcount ▸ h, hc, hlast⟩
    | inRun d count =>
      obtain ⟨heven, -, -⟩ := h
      rw [PatternState.after, if_neg hc]
      split
      case isTrue heq => exact ⟨hcount ▸ heven, heq ▸ hc, heq ▸ hlast⟩
      case isFalse => exact ⟨hcount ▸ heven, hc, hlast⟩
    | opened | quoted =>
      rw [PatternState.after, if_neg hc]
      unfold IsAfter at h ⊢
      omega

/-- The state that the reader of a pattern ends in tells whether the pattern ends outside a quoted text. -/
theorem IsAfter.foldl (h : s.IsAfter p) (q : List Char) : (q.foldl PatternState.after s).IsAfter (p ++ q) := by
  induction q generalizing s p with
  | nil => rwa [List.append_nil]
  | cons c q ih =>
    rw [List.foldl_cons, List.append_cons]
    exact ih (h.after c)

end PatternState

/-! ## Patterns in a row -/

namespace Layout

open PatternState

theorem ofLettersFrom_cons (s : PatternState) (c : Char) (p : List Char) :
    ofLettersFrom s (c :: p) = s.completed c ++ ofLettersFrom (s.after c) p := by
  cases s <;> rw [ofLettersFrom, completed, PatternState.after] <;> split_ifs <;> rfl

theorem ofLettersFrom_append (s : PatternState) (p q : List Char) :
    ofLettersFrom s (p ++ q) = s.completedBy p ++ ofLettersFrom (p.foldl PatternState.after s) q := by
  induction p generalizing s with
  | nil => rfl
  | cons c p ih => rw [List.cons_append, ofLettersFrom_cons, ih, completedBy, List.append_assoc, List.foldl_cons]

/-- What follows a run and does not go on with it is read as if nothing stood before it. -/
theorem ofLettersFrom_eq_pending_append (h : s.IsAfter p) (hcount : p.count '\x27' % 2 = 0)
    (hnext : ∀ c, p.getLast? = some c → q.head? ≠ some c) : ofLettersFrom s q = s.pending ++ ofLetters q := by
  cases s with
  | outside => rfl
  | inRun d count =>
    cases q with
    | nil => exact (List.append_nil _).symm
    | cons c q =>
      have hne : c ≠ d := fun heq => hnext d h.2.2 (congrArg some heq)
      rw [ofLetters, ofLettersFrom, ofLettersFrom, if_neg hne, pending]
  | opened | quoted =>
    unfold IsAfter at h
    omega

/-- A pattern that ends outside a quoted text, and one that does not begin with the last character of it, are read one after the other. -/
theorem ofLetters_append (hcount : p.count '\x27' % 2 = 0) (hnext : ∀ c, p.getLast? = some c → q.head? ≠ some c) :
    ofLetters (p ++ q) = ofLetters p ++ ofLetters q := by
  have hafter : (p.foldl PatternState.after .outside).IsAfter p := IsAfter.foldl (s := .outside) (p := []) rfl p
  have hfirst : ofLetters p = completedBy .outside p ++ (p.foldl PatternState.after .outside).pending := by
    have happend := ofLettersFrom_append .outside p []
    rwa [List.append_nil, ofLettersFrom] at happend
  rw [hfirst, ofLetters, ofLettersFrom_append, ofLettersFrom_eq_pending_append hafter hcount hnext, List.append_assoc]

theorem code_append (l m : Layout) : Layout.code (l ++ m) = l.code ++ m.code := by
  rw [code, List.map_append, String.join_append]
  rfl

end Layout

namespace Instant

variable (d : Instant)

theorem format_nil : d.format [] = [] := List.flatMap_nil

theorem format_append (l m : Layout) : d.format (l ++ m) = d.format l ++ d.format m := List.flatMap_append

theorem format_field (f : Field) (l : Layout) : d.format (.field f :: l) = d.fieldText f ++ d.format l := List.flatMap_cons

theorem format_literal (c : Char) (l : Layout) : d.format (.literal c :: l) = c :: d.format l := List.flatMap_cons

theorem format_literals (t : List Char) : d.format (t.map .literal) = t := by
  rw [format, List.flatMap_map]
  exact List.flatMap_singleton' t

end Instant

/-! ## Quoted texts -/

/-- The characters of a text in which every quote is doubled. -/
def doubled (t : List Char) : List Char := t.flatMap fun c => if c = '\x27' then [c, c] else [c]

/-- A text between two quotes, with every quote in it doubled. -/
def quotedPattern (t : List Char) : List Char := '\x27' :: (doubled t ++ ['\x27'])

/-- What is shown of a text in quotes: after a quote (`opened`) all characters, after another one no quote. Quotes at the end are shown
as one more than there are left. -/
def shownFrom : (opened : Bool) → List Char → List Char
  | true, [] => ['\x27']
  | false, [] => []
  | true, c :: t => c :: shownFrom (c = '\x27') t
  | false, c :: t => if c = '\x27' then shownFrom true t else c :: shownFrom false t

theorem ofLettersFrom_doubled (opened : Bool) (t : List Char) :
    Layout.ofLettersFrom (if opened then .opened else .quoted) (doubled t ++ ['\x27']) = (shownFrom opened t).map .literal := by
  induction t generalizing opened with
  | nil => cases opened <;> rfl
  | cons c t ih =>
    by_cases hc : c = '\x27'
    · subst hc
      have hopened : Layout.ofLettersFrom .opened (doubled t ++ ['\x27']) = (shownFrom true t).map .literal := ih true
      cases opened with
      | true => exact congrArg (Piece.literal '\x27' :: ·) hopened
      | false => exact hopened
    · have hquoted : Layout.ofLettersFrom .quoted (doubled t ++ ['\x27']) = (shownFrom false t).map .literal := ih false
      have hdoubled : doubled (c :: t) ++ ['\x27'] = c :: (doubled t ++ ['\x27']) := by
        rw [doubled, List.flatMap_cons, if_neg hc]
        rfl
      rw [hdoubled]
      cases opened with
      | true => rw [if_pos rfl, Layout.ofLettersFrom, if_neg hc, hquoted, shownFrom, decide_eq_false hc, List.map_cons]
      | false => rw [if_neg Bool.false_ne_true, Layout.ofLettersFrom, if_neg hc, hquoted, shownFrom, if_neg hc, List.map_cons]

theorem ofLetters_quotedPattern (t : List Char) : Layout.ofLetters (quotedPattern t) = (shownFrom true t).map .literal :=
  ofLettersFrom_doubled true t

theorem cons_eq_replicate_iff {d : Char} : (∃ k, c :: t = List.replicate k d) ↔ c = d ∧ ∃ k, t = List.replicate k d := by
  constructor
  · rintro ⟨_ | k, h⟩
    · cases h
    · obtain ⟨rfl, rfl⟩ := List.cons.inj h
      exact ⟨rfl, k, rfl⟩
  · rintro ⟨rfl, k, rfl⟩
    exact ⟨k + 1, rfl⟩

theorem shownFrom_true_eq_cons_iff : shownFrom true t = '\x27' :: t ↔ ∃ k, t = List.replicate k '\x27' := by
  induction t with
  | nil => exact ⟨fun _ => ⟨0, rfl⟩, fun _ => rfl⟩
  | cons c t ih =>
    rw [cons_eq_replicate_iff, shownFrom, List.cons.injEq]
    refine and_congr_right fun hc => ?_
    rw [decide_eq_true hc, hc, ih]

theorem shownFrom_false_eq_self_iff :
    shownFrom false t = t ↔ ∃ m k, '\x27' ∉ m ∧ t = m ++ List.replicate k '\x27' := by
  induction t with
  | nil => exact ⟨fun _ => ⟨[], 0, List.not_mem_nil, rfl⟩, fun _ => rfl⟩
  | cons c t ih =>
    rw [shownFrom]
    by_cases hc : c = '\x27'
    · subst hc
      rw [if_pos rfl, shownFrom_true_eq_cons_iff]
      constructor
      · rintro ⟨k, rfl⟩
        exact ⟨[], k + 1, List.not_mem_nil, rfl⟩
      · rintro ⟨_ | ⟨a, m⟩, k, hm, h⟩
        · exact (cons_eq_replicate_iff.1 ⟨k, h⟩).2
        · exact absurd ((List.cons.inj h).1 ▸ List.mem_cons_self) hm
    · rw [if_neg hc, List.cons.injEq, and_iff_right rfl, ih]
      constructor
      · rintro ⟨m, k, hm, rfl⟩
        exact ⟨c :: m, k, List.not_mem_cons_of_ne_of_not_mem (Ne.symm hc) hm, rfl⟩
      · rintro ⟨_ | ⟨a, m⟩, k, hm, h⟩
        · exact absurd (cons_eq_replicate_iff.1 ⟨k, h⟩).1 hc
        · exact ⟨m, k, List.not_mem_of_not_mem_cons hm, (List.cons.inj h).2⟩

/-- A text is shown as it is if and only if there is something other than quotes in it, and no quote in between. -/
theorem shownFrom_true_eq_self_iff :
    shownFrom true t = t ↔ ∃ j m k, m ≠ [] ∧ '\x27' ∉ m ∧ t = List.replicate j '\x27' ++ m ++ List.replicate k '\x27' := by
  induction t with
  | nil =>
    refine ⟨nofun, ?_⟩
    rintro ⟨j, m, k, hm, -, h⟩
    exact absurd (List.append_eq_nil_iff.1 (List.append_eq_nil_iff.1 h.symm).1).2 hm
  | cons c t ih =>
    rw [shownFrom, List.cons.injEq, and_iff_right rfl]
    by_cases hc : c = '\x27'
    · subst hc
      rw [decide_eq_true rfl, ih]
      constructor
      · rintro ⟨j, m, k, hne, hm, rfl⟩
        exact ⟨j + 1, m, k, hne, hm, rfl⟩
      · rintro ⟨_ | j, m, k, hne, hm, h⟩
        · obtain ⟨a, m, rfl⟩ := List.exists_cons_of_ne_nil hne
          exact absurd ((List.cons.inj h).1 ▸ List.mem_cons_self) hm
        · exact ⟨j, m, k, hne, hm, (List.cons.inj h).2⟩
    · rw [decide_eq_false hc, shownFrom_false_eq_self_iff]
      constructor
      · rintro ⟨m, k, hm, rfl⟩
        exact ⟨0, c :: m, k, List.cons_ne_nil _ _, List.not_mem_cons_of_ne_of_not_mem (Ne.symm hc) hm, rfl⟩
      · rintro ⟨_ | j, m, k, hne, hm, h⟩
        · obtain ⟨a, m, rfl⟩ := List.exists_cons_of_ne_nil hne
          exact ⟨m, k, List.not_mem_of_not_mem_cons hm, (List.cons.inj h).2⟩
        · exact absurd (List.cons.inj h).1 hc

end CellExpr.Calendar
