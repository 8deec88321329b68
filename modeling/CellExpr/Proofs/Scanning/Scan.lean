import CellExpr.Proofs.Scanning.Extent
import CellExpr.Proofs.Writing.Tokens

/-!
# Scans of a text

`Scans a p text before last` says what the reader of tokens makes of a text that goes on from a position: gaps and tokens in turn,
and at the end the end of the text or an error. Every text has a scan (`exists_scans`), and the stream of its tokens holds it
(`Scans.ofText_eq`). So a text is accepted if its scan comes to the end (`tokenize_eq_ok_iff`), and else the scan ends in the error
that is reported, which shows after every token before it (`Scans.position_lt`).
-/

namespace CellExpr

open CellExpr.Text TokenCursor

/-- What comes of a text from a position on: the tokens, and after them the end of the text or an error. A token comes after a gap,
takes characters up to a place where the next gap or token begins, and settles whether an operand ends there. -/
inductive Scans :
    (afterOperand : Bool) → (position : Nat) → (text : List Char) → List Token → Except SyntaxError Token → Prop where
  | finish {afterOperand : Bool} {position stop : Nat} {gap : List Char} (hgap : GapBefore [] gap)
      (hstop : stop = position + gap.length) : Scans afterOperand position gap [] (.ok (.ending stop))
  | error {afterOperand : Bool} {position start : Nat} {gap rest : List Char} {c : Char} {e : SyntaxError} {length : Nat}
      (hgap : GapBefore (c :: rest) gap) (hc : ¬BeginsGap c) (hstart : start = position + gap.length)
      (hrun : tokenRun afterOperand start c rest = (.error e, length)) :
      Scans afterOperand position (gap ++ c :: rest) [] (.error e)
  | token {afterOperand : Bool} {position start : Nat} {gap word rest : List Char} {c : Char} {k : TokenKind} {ts : List Token}
      {last : Except SyntaxError Token} (hgap : GapBefore (c :: (word ++ rest)) gap) (hc : ¬BeginsGap c)
      (hstart : start = position + gap.length) (hrun : TokenAt afterOperand c (word ++ rest) k word.length)
      (h : Scans k.endsOperand (start + 1 + word.length) rest ts last) :
      Scans afterOperand position (gap ++ c :: (word ++ rest)) (⟨k, c :: word, start⟩ :: ts) last

variable {afterOperand : Bool} {position : Nat} {text gap word rest : List Char} {c : Char} {k : TokenKind} {e : SyntaxError}
  {before tokens : List Token} {last : Except SyntaxError Token}

/-! ## The scan of a text -/

/-- Every text has a scan. -/
theorem exists_scans (afterOperand : Bool) (position : Nat) (text : List Char) :
    ∃ before last, Scans afterOperand position text before last := by
  induction hlength : text.length using Nat.strong_induction_on generalizing afterOperand position text with
  | _ length ih =>
    subst hlength
    have hgap := gapBefore_take text
    have hsplit := List.take_append_drop (gapLength false text) text
    generalize text.take (gapLength false text) = gap at hgap hsplit
    cases hdrop : text.drop (gapLength false text) with
    | nil =>
      rw [hdrop] at hgap hsplit
      rw [← hsplit, List.append_nil]
      exact ⟨[], _, .finish hgap rfl⟩
    | cons c s =>
      have hc := not_beginsGap_of_drop false hdrop
      rw [hdrop] at hgap hsplit
      rw [← hsplit]
      have hle := tokenRun_le afterOperand (position + gap.length) c s
      cases hrun : tokenRun afterOperand (position + gap.length) c s with
      | mk kind n =>
        cases kind with
        | error e => exact ⟨[], _, .error hgap hc rfl hrun⟩
        | ok k =>
          rw [hrun] at hle
          have hlt : (s.drop n).length < text.length := by
            rw [← hsplit, List.length_append, List.length_cons, List.length_drop]
            omega
          obtain ⟨before, last, h⟩ := ih _ hlt k.endsOperand (position + gap.length + 1 + (s.take n).length) (s.drop n) rfl
          have hword : (s.take n).length = n := List.length_take_of_le hle
          rw [← List.take_append_drop n s] at hgap hrun ⊢
          refine ⟨_, last, .token hgap hc rfl ?_ h⟩
          rw [hword]
          exact tokenRun_eq_ok_iff.1 hrun

/-- No token of a scan but the last one is the end of the text. -/
theorem Scans.kind_ne_finish (h : Scans afterOperand position text before last) : ∀ t ∈ before, t.kind ≠ .finish := by
  induction h with
  | finish | error => exact nofun
  | token _ _ _ hrun _ ih =>
    intro t ht
    rcases List.mem_cons.1 ht with rfl | ht
    · exact hrun.canBeRead.2
    · exact ih t ht

/-- The last of a scan that is no error is the end of the text. -/
theorem Scans.last_eq {t : Token} (h : Scans afterOperand position text before (.ok t)) :
    t = .ending (position + text.length) := by
  generalize hlast : Except.ok t = last at h
  induction h with
  | finish _ hstop =>
    subst hstop
    exact Except.ok.inj hlast
  | error => cases hlast
  | token _ _ hstart _ _ ih =>
    rw [ih hlast]
    simp only [List.length_append, List.length_cons]
    congr 1
    omega

/-- The tokens that come of a scan stand at its position or after it. -/
theorem Scans.le_position_of_mem {u : Token} (h : Scans afterOperand position text before last)
    (hu : .ok u ∈ TokenStream.ofTokens before ++ [last]) : position ≤ u.position := by
  induction h with
  | finish _ hstop =>
    obtain rfl := Except.ok.inj (List.mem_singleton.1 hu)
    exact hstop ▸ Nat.le_add_right ..
  | error => cases List.mem_singleton.1 hu
  | token _ _ hstart _ _ ih =>
    rcases List.mem_cons.1 hu with heq | hu
    · obtain rfl := Except.ok.inj heq
      exact hstart ▸ Nat.le_add_right ..
    · have := ih hu
      omega

/-- A scan goes on from its position. -/
theorem Scans.le_position {t : Token} (h : Scans afterOperand position text before (.ok t)) :
    ∀ u ∈ before ++ [t], position ≤ u.position := by
  intro u hu
  have hmem : (Except.ok u : Except SyntaxError Token) ∈ TokenStream.ofTokens (before ++ [t]) := List.mem_map_of_mem hu
  rw [TokenStream.ofTokens, List.map_append] at hmem
  exact h.le_position_of_mem hmem

/-- Where a token of a scan stands there is no other one. -/
theorem Scans.eq_of_position {t u : Token} (h : Scans afterOperand position text before last)
    (ht : .ok t ∈ TokenStream.ofTokens before ++ [last]) (hu : .ok u ∈ TokenStream.ofTokens before ++ [last])
    (hposition : t.position = u.position) : t = u := by
  induction h with
  | finish | error => exact Except.ok.inj ((List.mem_singleton.1 ht).trans (List.mem_singleton.1 hu).symm)
  | token _ _ _ _ h ih =>
    rcases List.mem_cons.1 ht with heq | ht <;> rcases List.mem_cons.1 hu with heq' | hu
    · exact Except.ok.inj (heq.trans heq'.symm)
    · obtain rfl := Except.ok.inj heq
      have := h.le_position_of_mem hu
      dsimp only at hposition
      omega
    · obtain rfl := Except.ok.inj heq'
      have := h.le_position_of_mem ht
      dsimp only at hposition
      omega
    · exact ih ht hu

/-- A scan that ends in an error goes on from its position, and the error shows after the tokens before it. -/
theorem Scans.position_lt (h : Scans afterOperand position text before (.error e)) :
    position ≤ e.position ∧ ∀ t ∈ before, t.position < e.position := by
  generalize hlast : Except.error e = last at h
  induction h with
  | finish => cases hlast
  | error _ _ hstart hrun =>
    obtain rfl := Except.error.inj hlast
    have := le_position_of_tokenRun hrun
    exact ⟨by omega, nofun⟩
  | token _ _ hstart _ _ ih =>
    obtain ⟨hle, hlt⟩ := ih hlast
    refine ⟨by omega, fun t ht => ?_⟩
    rcases List.mem_cons.1 ht with rfl | ht
    · dsimp only
      omega
    · exact hlt t ht

/-! ## Streams -/

/-- The stream from a cursor on holds the scan of the text. -/
theorem Scans.fromCursor_eq (h : Scans afterOperand position text before last) {fuel : Nat} (hfuel : text.length < fuel) :
    TokenStream.fromCursor fuel ⟨text, position, afterOperand⟩ = .ofTokens before ++ [last] := by
  induction h generalizing fuel with
  | finish hgap hstop =>
    subst hstop
    obtain ⟨fuel, rfl⟩ := Nat.exists_eq_succ_of_ne_zero (Nat.ne_zero_of_lt hfuel)
    rw [TokenStream.fromCursor, next_finish hgap]
    rfl
  | error hgap hc hstart hrun =>
    subst hstart
    obtain ⟨fuel, rfl⟩ := Nat.exists_eq_succ_of_ne_zero (Nat.ne_zero_of_lt hfuel)
    rw [TokenStream.fromCursor]
    obtain ⟨after, hnext⟩ := next_error hgap hc hrun
    rw [hnext]
    rfl
  | token hgap hc hstart hrun h ih =>
    subst hstart
    obtain ⟨fuel, rfl⟩ := Nat.exists_eq_succ_of_ne_zero (Nat.ne_zero_of_lt hfuel)
    have hkind := hrun.canBeRead.2
    simp only [List.length_append, List.length_cons] at hfuel
    rw [TokenStream.fromCursor, next_token hgap hc hrun]
    dsimp only
    split
    · exact absurd rfl hkind
    · rw [ih (by omega)]
      rfl

theorem Scans.ofText_eq (h : Scans false 0 text before last) : TokenStream.ofText text = .ofTokens before ++ [last] :=
  h.fromCursor_eq (Nat.lt_succ_self _)

theorem mapM_ofTokens (before : List Token) (last : Except SyntaxError Token) :
    (TokenStream.ofTokens before ++ [last]).mapM id = last.map (before ++ [·]) := by
  induction before with
  | nil => cases last <;> rfl
  | cons t before ih =>
    rw [TokenStream.ofTokens, List.map_cons, List.cons_append, List.mapM_cons]
    rw [TokenStream.ofTokens] at ih
    rw [ih]
    cases last <;> rfl

theorem Scans.tokenize_eq (h : Scans false 0 text before last) : tokenize text = last.map (before ++ [·]) := by
  rw [tokenize, h.ofText_eq, mapM_ofTokens]

/-- A text is accepted if its scan comes to the end of the text. -/
theorem tokenize_eq_ok_iff : tokenize text = .ok tokens ↔
    ∃ before, tokens = before ++ [.ending text.length] ∧ Scans false 0 text before (.ok (.ending text.length)) := by
  constructor
  · intro h
    obtain ⟨before, last, hscans⟩ := exists_scans false 0 text
    rw [hscans.tokenize_eq] at h
    cases last with
    | error => cases h
    | ok t =>
      obtain rfl := hscans.last_eq
      rw [Nat.zero_add] at h hscans
      exact ⟨before, (Except.ok.inj h).symm, hscans⟩
  · rintro ⟨before, rfl, hscans⟩
    exact hscans.tokenize_eq

/-- The stream of an accepted text holds its tokens. -/
theorem ofText_of_tokenize (h : tokenize text = .ok tokens) : TokenStream.ofText text = .ofTokens tokens := by
  obtain ⟨before, rfl, hscans⟩ := tokenize_eq_ok_iff.1 h
  rw [hscans.ofText_eq, TokenStream.ofTokens, TokenStream.ofTokens, List.map_append]
  rfl

/-- A text is wrong if its scan ends in an error, and this error is reported. -/
theorem tokenize_eq_error_iff : tokenize text = .error e ↔ ∃ before, Scans false 0 text before (.error e) := by
  constructor
  · intro h
    obtain ⟨before, last, hscans⟩ := exists_scans false 0 text
    rw [hscans.tokenize_eq] at h
    cases last with
    | error => exact ⟨before, Except.error.inj h ▸ hscans⟩
    | ok => cases h
  · rintro ⟨before, hscans⟩
    exact hscans.tokenize_eq

end CellExpr
