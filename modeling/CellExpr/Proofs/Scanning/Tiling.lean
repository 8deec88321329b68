import CellExpr.Proofs.Scanning.Scan

/-!
# Tokens cover their text

The tokens of a text stand in it in order, none over another, and what stands between them is gaps: nothing of the text is lost, and
nothing in it belongs to two tokens. `Tiles` carries this along a scan from one token to the next; `tokenize_tiles` states it for
the tokens of a text.
-/

namespace CellExpr

open CellExpr.Text TokenCursor

/-- The characters of a text from one place up to another. -/
def charsBetween (text : List Char) (start stop : Nat) : List Char := (text.drop start).take (stop - start)

/-- From a place on, what stands before each token and then its lexeme. -/
def assembled (text : List Char) : Nat → List Token → List Char
  | _, [] => []
  | start, t :: tokens => charsBetween text start t.position ++ t.lexeme ++ assembled text t.stop tokens

/-- From a place on there are gaps and tokens in turn up to the end of the text. -/
inductive Tiles (text : List Char) : Nat → List Token → Prop where
  | ending {start : Nat} (hle : start ≤ text.length) (hgap : GapBefore [] (text.drop start)) :
      Tiles text start [.ending text.length]
  | token {start : Nat} {t : Token} {tokens : List Token} (hle : start ≤ t.position)
      (hgap : GapBefore (text.drop t.position) (charsBetween text start t.position)) (hkind : t.kind ≠ .finish)
      (hne : t.lexeme ≠ []) (hlexeme : (text.drop t.position).take t.lexeme.length = t.lexeme) (h : Tiles text t.stop tokens) :
      Tiles text start (t :: tokens)

variable {text rest : List Char} {start : Nat} {before tokens : List Token} {afterOperand : Bool} {position : Nat}

/-- A scan from a place in a text tiles the text from this place on. -/
theorem Scans.tiles {t : Token} (h : Scans afterOperand position rest before (.ok t)) (passed : List Char)
    (hposition : position = passed.length) : Tiles (passed ++ rest) position (before ++ [t]) := by
  generalize hlast : Except.ok t = last at h
  induction h generalizing passed with
  | error => cases hlast
  | @finish afterOperand position stop gap hgap hstop =>
    obtain rfl := Except.ok.inj hlast
    rw [hstop, hposition, ← List.length_append]
    exact .ending (by rw [List.length_append]; exact Nat.le_add_right ..) (by rwa [List.drop_left])
  | @token afterOperand position start gap word rest c k tokens last hgap hc hstart hrun h ih =>
    have hdrop : (passed ++ (gap ++ c :: (word ++ rest))).drop start = c :: (word ++ rest) := by
      rw [hstart, hposition, ← List.append_assoc, ← List.length_append, List.drop_left]
    have hbetween : charsBetween (passed ++ (gap ++ c :: (word ++ rest))) position start = gap := by
      rw [charsBetween, hstart, hposition, List.drop_left, Nat.add_sub_cancel_left, List.take_left]
    have hstop : Token.stop ⟨k, c :: word, start⟩ = start + 1 + word.length := by
      simp only [Token.stop, List.length_cons]
      omega
    have htiles := ih (passed ++ gap ++ c :: word) (by simp only [List.length_append, List.length_cons]; omega) hlast
    simp only [List.append_assoc, List.cons_append] at htiles
    refine .token (hstart ▸ Nat.le_add_right ..) ?_ hrun.canBeRead.2 (List.cons_ne_nil c word) ?_ ?_
    · rwa [hdrop, hbetween]
    · rw [hdrop, ← List.cons_append, List.take_left]
    · rwa [hstop]

namespace Tiles

/-- Every token stands at the start of the tiling or after it. -/
theorem le_position (h : Tiles text start tokens) : ∀ t ∈ tokens, start ≤ t.position := by
  induction h with
  | ending hle =>
    intro t ht
    rw [List.mem_singleton.1 ht]
    exact hle
  | token hle _ _ _ _ _ ih =>
    intro u hu
    rcases List.mem_cons.1 hu with rfl | hu
    · exact hle
    · exact Nat.le_trans (Nat.le_trans hle (Nat.le_add_right ..)) (ih u hu)

/-- No token stands over another, and a token that is not the end takes up some characters. -/
theorem pairwise (h : Tiles text start tokens) : tokens.Pairwise fun t u => t.position < u.position ∧ t.stop ≤ u.position := by
  induction h with
  | ending => exact List.pairwise_singleton ..
  | token _ _ _ hne _ h ih =>
    refine List.pairwise_cons.2 ⟨fun u hu => ?_, ih⟩
    have hle := h.le_position u hu
    have hlength := List.length_pos_iff.2 hne
    refine ⟨?_, hle⟩
    rw [Token.stop] at hle
    omega

theorem lexeme_eq (h : Tiles text start tokens) : ∀ t ∈ tokens, (text.drop t.position).take t.lexeme.length = t.lexeme := by
  induction h with
  | ending =>
    intro t ht
    rw [List.mem_singleton.1 ht]
    rfl
  | token _ _ _ _ hlexeme _ ih =>
    intro u hu
    rcases List.mem_cons.1 hu with rfl | hu
    · exact hlexeme
    · exact ih u hu

/-- Before the first token there is a gap. -/
theorem gapBefore_head (h : Tiles text start tokens) :
    ∀ t ∈ tokens.head?, GapBefore (text.drop t.position) (charsBetween text start t.position) := by
  intro t ht
  cases h with
  | ending hle hgap =>
    obtain rfl := Option.some.inj ht
    have hall : (text.drop start).length ≤ text.length - start := Nat.le_of_eq List.length_drop
    rw [Token.ending, charsBetween, List.drop_length, List.take_of_length_le hall]
    exact hgap
  | token _ hgap =>
    obtain rfl := Option.some.inj ht
    exact hgap

/-- Between a token and the next one there is a gap. -/
theorem gaps (h : Tiles text start tokens) :
    tokens.IsChain fun t u => GapBefore (text.drop u.position) (charsBetween text t.stop u.position) := by
  induction h with
  | ending => exact List.isChain_singleton _
  | token _ _ _ _ _ h ih => exact List.isChain_cons.2 ⟨h.gapBefore_head, ih⟩

theorem exists_ending (h : Tiles text start tokens) :
    ∃ before, tokens = before ++ [.ending text.length] ∧ ∀ t ∈ before, t.kind ≠ .finish := by
  induction h with
  | ending => exact ⟨[], rfl, nofun⟩
  | @token _ t _ _ _ hkind _ _ _ ih =>
    obtain ⟨before, rfl, hbefore⟩ := ih
    refine ⟨t :: before, rfl, fun u hu => ?_⟩
    rcases List.mem_cons.1 hu with rfl | hu
    · exact hkind
    · exact hbefore u hu

/-- Gaps and lexemes make up the text from the start of the tiling on. -/
theorem assembled_eq (h : Tiles text start tokens) : assembled text start tokens = text.drop start := by
  induction h with
  | @ending start hle hgap =>
    rw [assembled, assembled, charsBetween, Token.ending, List.append_nil, List.append_nil]
    exact List.take_of_length_le (Nat.le_of_eq List.length_drop)
  | @token start t tokens hle hgap hkind hne hlexeme h ih =>
    -- the text from the start on is a gap, a lexeme and what follows it
    have hgap : text.drop start = charsBetween text start t.position ++ text.drop t.position := by
      rw [charsBetween]
      conv_lhs => rw [← List.take_append_drop (t.position - start) (text.drop start), List.drop_drop, Nat.add_sub_cancel' hle]
    have htoken : text.drop t.position = t.lexeme ++ text.drop t.stop := by
      conv_lhs => rw [← List.take_append_drop t.lexeme.length (text.drop t.position), hlexeme, List.drop_drop]
      rfl
    rw [assembled, ih, hgap, htoken, List.append_assoc]

end Tiles

/-- The tokens of a text stand in it one after another and none over another, each at its lexeme. Before them and between them there
are gaps, and after them the end of the text; with the gaps they make up the whole text. -/
theorem tokenize_tiles (h : tokenize text = .ok tokens) :
    (tokens.Pairwise fun t u => t.position < u.position ∧ t.stop ≤ u.position) ∧
      (∀ t ∈ tokens, (text.drop t.position).take t.lexeme.length = t.lexeme) ∧
      (∀ t ∈ tokens.head?, GapBefore (text.drop t.position) (charsBetween text 0 t.position)) ∧
      (tokens.IsChain fun t u => GapBefore (text.drop u.position) (charsBetween text t.stop u.position)) ∧
      (∃ before, tokens = before ++ [.ending text.length] ∧ ∀ t ∈ before, t.kind ≠ .finish) ∧
      assembled text 0 tokens = text := by
  obtain ⟨before, rfl, hscans⟩ := tokenize_eq_ok_iff.1 h
  have htiles : Tiles text 0 (before ++ [.ending text.length]) := hscans.tiles [] rfl
  exact ⟨htiles.pairwise, htiles.lexeme_eq, htiles.gapBefore_head, htiles.gaps, htiles.exists_ending, htiles.assembled_eq⟩

/-- A division with a blank character in its text and a comment after it. -/
def quotient : List Char := ['a', ' ', '/', 'b', '#', 'c']

theorem tokenize_tiles_quotient :
    ∃ tokens, tokenize quotient = .ok tokens ∧
      tokens.map (fun t => (t.lexeme, t.position)) = [(['a'], 0), (['/'], 2), (['b'], 3), ([], 6)] ∧
      (tokens.IsChain fun t u => GapBefore (quotient.drop u.position) (charsBetween quotient t.stop u.position)) ∧
      assembled quotient 0 tokens = quotient := by
  have hread : (tokenize quotient).toOption.map (·.map fun t => (t.lexeme, t.position)) =
      some [(['a'], 0), (['/'], 2), (['b'], 3), ([], 6)] := by decide +kernel
  cases h : tokenize quotient with
  | error =>
    rw [h] at hread
    cases hread
  | ok tokens =>
    rw [h] at hread
    obtain ⟨_, _, _, hgaps, _, hassembled⟩ := tokenize_tiles h
    exact ⟨tokens, rfl, Option.some.inj hread, hgaps, hassembled⟩

end CellExpr
