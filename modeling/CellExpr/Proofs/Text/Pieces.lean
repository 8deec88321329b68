import CellExpr.Proofs.Text.Occurrences
import CellExpr.Text.Editing

/-!
# Pieces of a text

A text is cut at the leftmost occurrences of a needle that do not overlap, or at each character of a kind. In the first way the pieces
are what lies around the occurrences (`splitAtEach_eq`): there is one more of them, none of them contains the needle, and with the
needle between them they make up the text. In the second way they are told by what they consist of (`cutAt_iff`). For a needle of one
character both ways come to the same.
-/

namespace CellExpr.Text

variable {needle s rest : List Char} {c : Char} {p : Char → Bool}

/-! ## Occurrences of a needle -/

/-- What lies between occurrences of some length, from a position on. -/
def piecesAround (s : List Char) (length : Nat) : (start : Nat) → (places : List Nat) → List (List Char)
  | start, [] => [s.drop start]
  | start, i :: places => (s.drop start).take (i - start) :: piecesAround s length (i + length) places

/-- What lies before a position and what follows it. -/
theorem drop_eq_of_le {start i : Nat} (hle : start ≤ i) : s.drop start = (s.drop start).take (i - start) ++ s.drop i := by
  rw [← Nat.add_sub_cancel' hle, ← List.drop_drop, Nat.add_sub_cancel_left, List.take_append_drop]

theorem splitAux_skip (needle s : List Char) (skip : Nat) : splitAux needle skip s = splitAux needle 0 (s.drop skip) := by
  induction s generalizing skip with
  | nil => rw [List.drop_nil]; cases skip <;> rfl
  | cons c s ih =>
    cases skip with
    | zero => rfl
    | succ skip => exact ih skip

/-- A text that does not contain the needle is one piece. -/
theorem splitAtEach_of_none (h : ∀ i, ¬StandsAt needle s i) : splitAtEach needle s = [s] := by
  induction s with
  | nil => rfl
  | cons c s ih =>
    have hrest : splitAux needle 0 s = [s] := ih fun i hi => h (i + 1) (standsAt_succ.2 hi)
    rw [splitAtEach, splitAux, if_neg fun hbegins => h 0 (standsAt_zero.2 (beginsWith_iff.1 hbegins)), hrest]

/-- What precedes the first occurrence is the first piece. -/
theorem splitAtEach_append (hneedle : needle ≠ []) {front : List Char} (hrest : needle <+: rest)
    (hfront : ∀ i < front.length, ¬StandsAt needle (front ++ rest) i) :
    splitAtEach needle (front ++ rest) = front :: splitAtEach needle (rest.drop needle.length) := by
  induction front with
  | nil =>
    obtain ⟨a, needle, rfl⟩ := List.exists_cons_of_ne_nil hneedle
    obtain ⟨back, rfl⟩ := hrest
    have hbegins : beginsWith (a :: needle) (a :: (needle ++ back)) = true := beginsWith_iff.2 ⟨back, rfl⟩
    rw [List.nil_append, splitAtEach, List.cons_append, splitAux, if_pos hbegins, splitAux_skip]
    rfl
  | cons c front ih =>
    have hpieces : splitAux needle 0 (front ++ rest) = _ :=
      ih fun i hi hstands => hfront (i + 1) (Nat.succ_lt_succ hi) (standsAt_succ.2 hstands)
    have hbegins : ¬beginsWith needle (c :: (front ++ rest)) = true := fun hbegins =>
      hfront 0 (Nat.succ_pos _) (standsAt_zero.2 (beginsWith_iff.1 hbegins))
    rw [splitAtEach, List.cons_append, splitAux, if_neg hbegins, hpieces]

/-- Splitting gives what lies around the leftmost occurrences. -/
theorem splitAtEach_eq (hneedle : needle ≠ []) {start : Nat} {places : List Nat} (hstart : start ≤ s.length)
    (h : Occurrences needle s start places) : splitAtEach needle (s.drop start) = piecesAround s needle.length start places := by
  induction h with
  | none hnone => exact splitAtEach_of_none fun i hi => hnone _ (Nat.le_add_right _ _) ((standsAt_drop hstart).1 hi)
  | @next start i places hi _ ih =>
    obtain ⟨⟨hle, hstands⟩, hleast⟩ := hi
    have hsplit : s.drop start = (s.drop start).take (i - start) ++ s.drop i := drop_eq_of_le hle
    have hfront : ∀ j < ((s.drop start).take (i - start)).length,
        ¬StandsAt needle ((s.drop start).take (i - start) ++ s.drop i) j := by
      intro j hj hstands'
      rw [← hsplit] at hstands'
      have hle' : i ≤ start + j := hleast ⟨Nat.le_add_right _ _, (standsAt_drop hstart).1 hstands'⟩
      rw [List.length_take] at hj
      omega
    rw [hsplit, splitAtEach_append hneedle hstands.2 hfront, List.drop_drop, ih hstands.le, piecesAround]

theorem length_piecesAround (s : List Char) (length start : Nat) (places : List Nat) :
    (piecesAround s length start places).length = places.length + 1 := by
  induction places generalizing start with
  | nil => rfl
  | cons i places ih => rw [piecesAround, List.length_cons, ih, List.length_cons]

theorem joinWith_cons {separator piece : List Char} {pieces : List (List Char)} (h : pieces ≠ []) :
    joinWith separator (piece :: pieces) = piece ++ (separator ++ joinWith separator pieces) := by
  obtain ⟨next, pieces, rfl⟩ := List.exists_cons_of_ne_nil h
  rfl

/-- The needle put between the pieces makes up the text. -/
theorem joinWith_piecesAround {start : Nat} {places : List Nat} (h : Occurrences needle s start places) :
    joinWith needle (piecesAround s needle.length start places) = s.drop start := by
  induction h with
  | none => exact List.append_nil _
  | @next start i places hi _ ih =>
    obtain ⟨⟨hle, hstands⟩, -⟩ := hi
    obtain ⟨back, hback⟩ := hstands.2
    have hne : piecesAround s needle.length (i + needle.length) places ≠ [] := by
      rw [← List.length_pos_iff, length_piecesAround]
      exact Nat.succ_pos _
    have hrest : s.drop (i + needle.length) = back := by rw [← List.drop_drop, ← hback, List.drop_left]
    rw [piecesAround, joinWith_cons hne, ih, hrest, hback, ← drop_eq_of_le hle]

/-- The needle stands nowhere in a piece. -/
theorem not_isInfix_of_mem_piecesAround (hneedle : needle ≠ []) {start : Nat} {places : List Nat} (hstart : start ≤ s.length)
    (h : Occurrences needle s start places) {piece : List Char} (hpiece : piece ∈ piecesAround s needle.length start places) :
    ¬needle <:+: piece := by
  have hpos := List.length_pos_iff.2 hneedle
  induction h with
  | none hnone =>
    obtain rfl := List.mem_singleton.1 hpiece
    intro hinfix
    obtain ⟨j, hj⟩ := isInfix_iff.1 hinfix
    exact hnone _ (Nat.le_add_right _ _) ((standsAt_drop hstart).1 hj)
  | @next start i places hi _ ih =>
    obtain ⟨⟨hle, hstands⟩, hleast⟩ := hi
    rcases List.mem_cons.1 hpiece with rfl | hpiece
    · intro hinfix
      obtain ⟨j, hj⟩ := isInfix_iff.1 hinfix
      have hroom := hj.le
      rw [List.length_take] at hroom
      have hwhole : StandsAt needle (s.drop start) j := by
        refine ⟨by omega, hj.2.trans ?_⟩
        rw [List.drop_take]
        exact List.take_prefix _ _
      have hle' : i ≤ start + j := hleast ⟨Nat.le_add_right _ _, (standsAt_drop hstart).1 hwhole⟩
      omega
    · exact ih hstands.le hpiece

/-! ## Characters of a kind -/

/-- Pieces without characters of a kind make up a text, with one character of this kind after each but the last. -/
inductive CutAt (p : Char → Bool) : (s : List Char) → (pieces : List (List Char)) → Prop
  | last {piece : List Char} (h : ∀ c ∈ piece, p c = false) : CutAt p piece [piece]
  | next {piece rest : List Char} {c : Char} {pieces : List (List Char)} (h : ∀ c ∈ piece, p c = false) (hc : p c = true)
      (hrest : CutAt p rest pieces) : CutAt p (piece ++ c :: rest) (piece :: pieces)

theorem piecesBetween_eq_splitOnP (p : Char → Bool) (s : List Char) : piecesBetween p s = s.splitOnP p := by
  induction s with
  | nil => exact List.splitOnP_nil.symm
  | cons c s ih =>
    rw [piecesBetween, List.splitOnP_cons_eq_if_modifyHead, ih]
    obtain ⟨piece, pieces, hpieces⟩ := List.exists_cons_of_ne_nil (List.splitOnP_ne_nil p s)
    rw [hpieces]
    rfl

theorem cutAt_piecesBetween (p : Char → Bool) (s : List Char) : CutAt p s (piecesBetween p s) := by
  induction s with
  | nil => exact .last nofun
  | cons c s ih =>
    rw [piecesBetween]
    split
    · rename_i hc
      exact @CutAt.next p [] s c _ nofun hc ih
    · rename_i hc
      generalize piecesBetween p s = pieces at ih ⊢
      cases ih with
      | last h => exact .last (List.forall_mem_cons.2 ⟨Bool.eq_false_iff.2 hc, h⟩)
      | next h hc' hrest => exact .next (List.forall_mem_cons.2 ⟨Bool.eq_false_iff.2 hc, h⟩) hc' hrest

/-- There is one way to cut a text at the characters of a kind. -/
theorem cutAt_iff {pieces : List (List Char)} : CutAt p s pieces ↔ pieces = piecesBetween p s := by
  refine ⟨fun h => ?_, fun h => h ▸ cutAt_piecesBetween p s⟩
  rw [piecesBetween_eq_splitOnP]
  induction h with
  | last h => exact (List.splitOnP_eq_singleton h).symm
  | next h hc _ ih => rw [List.splitOnP_append_cons_of_forall_mem h _ hc, ih]

theorem CutAt.eq_false_of_mem {pieces : List (List Char)} (h : CutAt p s pieces) : ∀ piece ∈ pieces, ∀ c ∈ piece, p c = false := by
  induction h with
  | last h => exact List.forall_mem_singleton.2 h
  | next h _ _ ih => exact List.forall_mem_cons.2 ⟨h, ih⟩

/-! ## One character -/

/-- A single character is a needle just as it is a kind of characters. -/
theorem splitAtEach_singleton (c : Char) (s : List Char) : splitAtEach [c] s = piecesBetween (· == c) s := by
  induction s with
  | nil => rfl
  | cons a s ih =>
    have hbegins : beginsWith [c] (a :: s) = (a == c) := by
      rw [Bool.eq_iff_iff, beginsWith_iff, List.cons_prefix_cons, beq_iff_eq, and_iff_left (List.nil_prefix), eq_comm]
    have hrest : splitAux [c] 0 s = _ := ih
    rw [splitAtEach, splitAux, hbegins, List.length_singleton, hrest]
    rfl

/-- Pieces without a character are what is cut out of the text that they make up with this character between them. -/
theorem splitAtEach_joinWith {c : Char} {pieces : List (List Char)} (h : ∀ piece ∈ pieces, c ∉ piece) (hne : pieces ≠ []) :
    splitAtEach [c] (joinWith [c] pieces) = pieces := by
  rw [splitAtEach_singleton, piecesBetween_eq_splitOnP, ← List.splitOn_eq_splitOnP]
  exact List.splitOn_intercalate c h hne

/-! ## Separators -/

theorem splitLiteral_of_ne_nil (hs : s ≠ []) (separator : List Char) : splitLiteral separator true s =
    if separator.isEmpty then piecesBetween isBlank s else splitAtEach separator s := by
  rw [splitLiteral, if_neg (by rwa [List.isEmpty_iff])]
  exact List.filter_eq_self.2 fun _ _ => rfl

/-- All tokens of a text are what lies around the leftmost occurrences of the separator. -/
theorem splitLiteral_eq_piecesAround {separator : List Char} {places : List Nat} (hs : s ≠ []) (hseparator : separator ≠ [])
    (h : Occurrences separator s 0 places) : splitLiteral separator true s = piecesAround s separator.length 0 places := by
  rw [splitLiteral_of_ne_nil hs, if_neg (by rwa [List.isEmpty_iff])]
  exact splitAtEach_eq hseparator (Nat.zero_le _) h

/-- All tokens of a text at the empty separator are what lies between its blank characters. -/
theorem cutAt_splitLiteral_nil (hs : s ≠ []) : CutAt isBlank s (splitLiteral [] true s) := by
  rw [splitLiteral_of_ne_nil hs]
  exact cutAt_piecesBetween isBlank s

/-- Without the flag the empty tokens are dropped. -/
theorem splitLiteral_false (separator s : List Char) :
    splitLiteral separator false s = (splitLiteral separator true s).filter (!·.isEmpty) := by
  by_cases hs : s = []
  · subst hs
    rfl
  · rw [splitLiteral_of_ne_nil hs, splitLiteral, if_neg (by rwa [List.isEmpty_iff])]
    rfl

/-- Pieces that are not empty and do not contain a character are the tokens of the text that they make up with it between them. -/
theorem splitLiteral_joinWith {pieces : List (List Char)} (h : ∀ piece ∈ pieces, piece ≠ [] ∧ c ∉ piece) :
    splitLiteral [c] false (joinWith [c] pieces) = pieces := by
  by_cases hne : pieces = []
  · subst hne
    rfl
  · have hpieces := splitAtEach_joinWith (fun piece hpiece => (h piece hpiece).2) hne
    have hs : joinWith [c] pieces ≠ [] := by
      intro hs
      rw [hs] at hpieces
      exact (h [] (hpieces ▸ .head _)).1 rfl
    rw [splitLiteral_false, splitLiteral_of_ne_nil hs, if_neg (show ¬[c].isEmpty = true from Bool.false_ne_true), hpieces,
      List.filter_eq_self]
    intro piece hpiece
    rw [Bool.not_eq_true', List.isEmpty_eq_false_iff]
    exact (h piece hpiece).1

end CellExpr.Text
