import CellExpr.Proofs.Grammar.Placement
import CellExpr.Proofs.Scanning.Scan

/-!
# Slashes at their places

The reader of tokens tells a division from the start of a regular expression by the token before the slash alone; the grammar knows
whether an operand has to begin or has ended. The two agree wherever the grammar can come (`Placement.admits_guarded`). For the
token before settles the place (`Settled`), and a reader of operands is at that place when it looks at the next token. So a slash is
never reported where an operand is missing, and a regular expression never where something else is missing after an operand
(`Expr.slash_places`).
-/

namespace CellExpr

open TokenCursor TokenReader

/-- Whether a kind of token fits a place: a slash divides after an operand only, and a regular expression stands where an operand
has to begin only. -/
def TokenKind.fits (afterOperand : Bool) : TokenKind → Bool
  | .mark .slash => afterOperand
  | .regex .. => !afterOperand
  | _ => true

namespace TokenReader

/-- Stops if a token is in sight that does not fit the place. -/
def checkPlace (alarm : SyntaxError) (afterOperand : Bool) : TokenReader Unit := do
  if !(← peek).fits afterOperand then throw alarm

/-- An operand with what follows it, with an alarm for a slash in sight at the start and for a regular expression in sight after
it. -/
def guarded (alarm : SyntaxError) (operand : TokenReader Expr) : TokenReader Expr := do
  checkPlace alarm false
  let e ← operand
  checkPlace alarm true
  return e

theorem run_checkPlace {alarm : SyntaxError} {b : Bool} {v : TokenView} (h : v.current.kind.fits b = true) :
    (checkPlace alarm b).run v = .ok ((), v) := by
  rw [checkPlace, run_peek_bind, h]
  rfl

end TokenReader

/-! ## Tokens that fit -/

/-- The tokens from a place on fit where they stand, which the token before each settles. There is more after each of them, up to
the end of the text or an error of a token. -/
inductive Settled : (afterOperand : Bool) → TokenStream → Prop where
  | finish {afterOperand : Bool} {t : Token} (hk : t.kind = .finish) : Settled afterOperand [.ok t]
  | error {afterOperand : Bool} {e : SyntaxError} (he : e.fault.afterOperand? = none) : Settled afterOperand [.error e]
  | token {afterOperand : Bool} {t : Token} {rest : TokenStream} (hfits : t.kind.fits afterOperand = true)
      (h : Settled t.kind.endsOperand rest) : Settled afterOperand (.ok t :: rest)

variable {afterOperand : Bool} {position start n : Nat} {c : Char} {s text : List Char} {k : TokenKind} {e alarm : SyntaxError}
  {before : List Token} {last : Except SyntaxError Token} {stream : TokenStream}

theorem Settled.fits {t : Token} (h : Settled afterOperand (.ok t :: stream)) : t.kind.fits afterOperand = true := by
  cases h with
  | finish hk => rw [hk]; rfl
  | token hfits => exact hfits

/-- Only the character of a slash is read as one. -/
theorem TokenCursor.eq_slash_of_markRun (h : markRun c s = some (.slash, n)) : c = '/' := by
  unfold markRun at h
  split at h
  · rename_i m hm
    obtain ⟨d, _, hdouble⟩ := Option.bind_eq_some_iff.1 hm
    obtain ⟨rfl, _⟩ := Prod.mk.inj (Option.some.inj h)
    unfold doubleMark? at hdouble
    split at hdouble <;> cases hdouble
  · obtain ⟨m, hm, heq⟩ := Option.map_eq_some_iff.1 h
    obtain ⟨rfl, _⟩ := Prod.mk.inj heq
    unfold singleMark? at hm
    split at hm <;> first | rfl | cases hm

/-- A token that is read fits where it is read. -/
theorem TokenCursor.TokenAt.fits (h : TokenAt afterOperand c s k n) : k.fits afterOperand = true := by
  cases h with
  | number | string => rfl
  | word =>
    unfold wordKind
    split <;> rfl
  | regex _ _ _ hc => exact hc.2
  | @mark m _ _ _ _ hregex hrun =>
    by_cases hslash : m = .slash
    · subst hslash
      obtain rfl := eq_slash_of_markRun hrun
      cases afterOperand with
      | true => rfl
      | false => exact absurd ⟨rfl, rfl⟩ hregex
    · cases m <;> first | rfl | exact absurd rfl hslash

/-- A wrong token is no fault of the grammar. -/
theorem TokenCursor.afterOperand?_of_tokenRun (h : tokenRun afterOperand start c s = (.error e, n)) :
    e.fault.afterOperand? = none := by
  unfold tokenRun at h
  split at h
  · dsimp only at h
    split at h <;> cases h
    rfl
  · split at h
    · cases h
    · split at h
      · split at h <;> cases h <;> rfl
      · split at h
        · split at h <;> cases h
          rfl
        · split at h <;> cases h
          rfl

/-- What comes of a text fits. -/
theorem Scans.settled (h : Scans afterOperand position text before last) :
    Settled afterOperand (TokenStream.ofTokens before ++ [last]) := by
  induction h with
  | finish => exact .finish rfl
  | error _ _ _ hrun => exact .error (afterOperand?_of_tokenRun hrun)
  | token _ _ _ hrun _ ih => exact .token hrun.fits ih

/-! ## The grammar -/

/-- A reading beside itself, of tokens of a stream that fit where they stand. An error at a place shows a token that fits there. -/
def Placement.fitting (stream : TokenStream) : Placement where
  view b n v w := w = v ∧ .ok v.current :: v.rest <:+ stream ∧ Settled b (.ok v.current :: v.rest) ∧ v.rest.length ≤ n
  token b t u := u = t ∧ .ok t ∈ stream ∧ t.kind.fits b = true
  error e e' := e' = e ∧ ∀ b, e.fault.afterOperand? = some b →
    ∃ t, .ok t ∈ stream ∧ t.position = e.position ∧ t.kind.fits b = true
  mono := by
    rintro b n m v w ⟨heq, hsuffix, hsettled, hn⟩ hle
    exact ⟨heq, hsuffix, hsettled, Nat.le_trans hn hle⟩
  sight := by
    rintro b n v _ ⟨rfl, hsuffix, hsettled, _⟩
    exact ⟨rfl, hsuffix.subset List.mem_cons_self, hsettled.fits⟩
  same := by
    rintro b t _ ⟨rfl, _⟩
    exact ⟨rfl, rfl⟩
  report := by
    rintro b _ t fault found ⟨rfl, hmem, hfits⟩ _ hplace
    refine ⟨rfl, fun b' hb' => ⟨t, hmem, rfl, ?_⟩⟩
    rcases hplace with hnone | hsome
    · exact absurd (hnone.symm.trans hb') nofun
    · obtain rfl := Option.some.inj (hsome.symm.trans hb')
      exact hfits
  next := by
    rintro b n ⟨current, rest⟩ _ ⟨rfl, hsuffix, hsettled, hn⟩ hk
    cases hsettled with
    | finish hfinish => exact absurd hfinish hk
    | token _ h =>
      have hrest := (List.suffix_cons _ _).trans hsuffix
      cases h with
      | error he =>
        refine .error ⟨rfl, fun b' hb' => ?_⟩
        exact absurd (he.symm.trans hb') nofun
      | finish hfinish => exact .ok ⟨0, hn, rfl, hrest, .finish hfinish, Nat.le_refl _⟩
      | @token _ t rest hfits h =>
        have hlength : rest.length < n := Nat.lt_of_succ_le hn
        exact .ok ⟨rest.length, hlength, rfl, hrest, .token hfits h, Nat.le_refl _⟩

/-- Where tokens fit the alarm does not go off. -/
theorem Placement.admits_guarded (stream : TokenStream) (alarm : SyntaxError) :
    (Placement.fitting stream).Admits (guarded alarm) := by
  intro n v w p q h hagrees
  have hbefore : w.current.kind.fits false = true := by
    obtain ⟨rfl, _, hsettled, _⟩ := h
    exact hsettled.fits
  have hafter : (Placement.fitting stream).Agrees true n v w (p >>= pure)
      (q >>= fun e => checkPlace alarm true >>= fun _ => pure e) := by
    refine hagrees.bind fun e v w h => ?_
    unfold Agrees
    obtain ⟨rfl, hview⟩ := h
    rw [StateT.run_bind, run_checkPlace hview.2.1.fits]
    exact .ok ⟨rfl, rfl, hview⟩
  unfold Agrees at hafter ⊢
  rw [bind_pure] at hafter
  rw [guarded, StateT.run_bind, run_checkPlace hbefore]
  exact hafter

namespace Expr

/-- The reading of a text is the same with and without an alarm, and an error at a place shows a token that fits there. -/
theorem alike_guarded (alarm : SyntaxError) (text : List Char) :
    Alike Eq (Placement.fitting (.ofText text)).error (ofChars text) (ofStreamOver (guarded alarm) (.ofText text)) := by
  obtain ⟨before, last, hscans⟩ := exists_scans false 0 text
  have hsettled := hscans.settled
  rw [← hscans.ofText_eq] at hsettled
  unfold ofChars
  generalize TokenStream.ofText text = stream at hsettled
  have hpull : Alike ((Placement.fitting stream).view false stream.length) (Placement.fitting stream).error (pull 0 stream)
      (pull 0 stream) := by
    cases hsettled with
    | error he =>
      refine .error ⟨rfl, fun b hb => ?_⟩
      exact absurd (he.symm.trans hb) nofun
    | finish hk => exact .ok ⟨rfl, List.suffix_refl _, .finish hk, Nat.zero_le _⟩
    | token hfits h => exact .ok ⟨rfl, List.suffix_refl _, .token hfits h, Nat.le_succ _⟩
  exact (Placement.ofStream (Placement.admits_guarded stream alarm) rfl hpull).mono fun _ _ _ h => h.1

/-- Whatever alarm is set off by a slash in sight where an operand begins, or by a regular expression in sight after an operand with
what follows it, makes no difference to the reading of a text: it never goes off. If an operand is missing, or if something else is
missing after an operand, then there is one token at the position of the error; in the first case it is no slash, and in the second
one no regular expression. What is missing after a point or after the word `if` is not missing after an operand. -/
theorem slash_places (text : List Char) :
    (∀ alarm, ofStreamOver (guarded alarm) (.ofText text) = ofChars text) ∧
      ∀ e b, ofChars text = .error e → e.fault.afterOperand? = some b →
        ∃ t, .ok t ∈ TokenStream.ofText text ∧ t.position = e.position ∧
          (∀ u, .ok u ∈ TokenStream.ofText text → u.position = e.position → u = t) ∧
          (e.fault = .missingOperand → t.kind ≠ .mark .slash) ∧
          (b = true → ∀ source ignoreCase, t.kind ≠ .regex source ignoreCase) := by
  refine ⟨fun alarm => ?_, fun e b he hplace => ?_⟩
  · have halike := alike_guarded alarm text
    generalize ofChars text = x at halike ⊢
    generalize ofStreamOver _ _ = y at halike ⊢
    cases halike with
    | ok h => exact congrArg Except.ok h.symm
    | error h => exact congrArg Except.error h.1
  · have halike := alike_guarded e text
    rw [he] at halike
    generalize ofStreamOver _ _ = y at halike
    cases halike with
    | error h =>
      obtain ⟨t, ht, hposition, hfits⟩ := h.2 b hplace
      refine ⟨t, ht, hposition, fun u hu heq => ?_, fun hfault hslash => ?_, fun hb source ignoreCase hregex => ?_⟩
      · obtain ⟨before, last, hscans⟩ := exists_scans false 0 text
        rw [hscans.ofText_eq] at ht hu
        exact hscans.eq_of_position hu ht (heq.trans hposition.symm)
      · rw [hfault] at hplace
        obtain rfl := Option.some.inj hplace
        rw [hslash] at hfits
        cases hfits
      · subst hb
        rw [hregex] at hfits
        cases hfits

/-- A slash between two operands divides, also the second one here, and the parenthesis is not closed where `d` stands. -/
def crowded : List Char := ['(', 'a', '/', 'b', '/', ' ', 'c', ' ', 'd']

theorem slash_places_crowded :
    ∃ e, ofChars crowded = .error e ∧ e.fault = .missingClosingParen ∧ e.position = 8 ∧
      ∃ t, .ok t ∈ TokenStream.ofText crowded ∧ t.position = 8 ∧
        ∀ source ignoreCase, t.kind ≠ .regex source ignoreCase := by
  have hread : ((ofChars crowded).map fun _ => ()) = .error ⟨.missingClosingParen, 8, some "d"⟩ := by decide +kernel
  cases he : ofChars crowded with
  | ok => rw [he] at hread; cases hread
  | error e =>
    rw [he] at hread
    obtain rfl := Except.error.inj hread
    obtain ⟨t, ht, htposition, _, _, hregex⟩ := (slash_places crowded).2 _ true he rfl
    exact ⟨_, rfl, rfl, rfl, t, ht, htposition, hregex rfl⟩

/-- Tokens of no text, a slash where an operand has to begin, set the alarm off. -/
example (alarm : SyntaxError) :
    ofStreamOver (guarded alarm) (.ofTokens [⟨.mark .slash, ['/'], 0⟩, .ending 1]) = .error alarm := rfl

end Expr

end CellExpr
