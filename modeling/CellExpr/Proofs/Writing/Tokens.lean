import CellExpr.Proofs.Grammar.Formed
import CellExpr.Proofs.Writing.Lexing

/-!
# The tokens of a text

Every token that is read from a text takes at least one character of it, and its names and regular expressions are such as can
be written again. So the tree of a text is no larger than the text, and it can be printed if its numbers can.
-/

namespace CellExpr

open CellExpr.Text CellExpr.Number TokenCursor TokenReader

/-- The kinds of tokens that the reader of tokens gives: numbers of all sorts, and else what has a spelling. -/
def TokenKind.CanBeRead : TokenKind → Prop
  | number _ | finish => True
  | k => k.HasSpelling

/-- Whether a number can be written, as far as the token is one. -/
def TokenKind.IsPlain : TokenKind → Prop
  | number x => IsPlainNumber x ∧ ReadsBack x
  | finish => False
  | _ => True

variable {s : TokenCursor} {text : List Char}

theorem isName_of_wordKind {word name : String} (h : wordKind word = .name name)
    (hword : ∃ c rest, word.toList = c :: rest ∧ (isAlphabetic c = true ∨ c = '_') ∧ rest.all isNamePart = true) :
    IsName name := by
  have hname : word = name := by
    unfold wordKind at h
    split at h <;> cases h
    rfl
  subst hname
  exact ⟨hword, h⟩

theorem isRegexSource_of_regexRun {source : List Char} {length : Nat} (h : regexRun text = .ok (source, length)) :
    IsRegexSource source := by
  induction text using regexRun.induct generalizing source length with
  | case1 => cases h
  | case2 =>
    obtain ⟨rfl, _⟩ := Prod.mk.inj (Except.ok.inj h)
    exact .nil
  | case3 => cases h
  | case4 c rest source' length' hrun ih =>
    rw [regexRun, hrun] at h
    dsimp only at h
    obtain ⟨rfl, _⟩ := Prod.mk.inj (Except.ok.inj h)
    split
    · exact .char '/' (by decide) (ih hrun)
    · rename_i hc
      exact .escaped c hc (ih hrun)
  | case5 c rest length' hrun =>
    rw [regexRun, hrun] at h
    cases h
  | case6 c rest hslash hlast hescape source' length' hrun ih =>
    rw [regexRun, hrun] at h
    · obtain ⟨rfl, _⟩ := Prod.mk.inj (Except.ok.inj h)
      refine .char c ?_ (ih hrun)
      rintro rfl
      cases rest with
      | nil => exact hlast rfl rfl
      | cons d rest => exact hescape d rest rfl rfl
    all_goals assumption
  | case7 c rest hslash hlast hescape length' hrun =>
    rw [regexRun, hrun] at h
    · cases h
    all_goals assumption

/-- What is read is a token of a kind that can be read. -/
theorem TokenCursor.TokenAt.canBeRead {afterOperand : Bool} {c : Char} {rest : List Char} {k : TokenKind} {length : Nat}
    (h : TokenAt afterOperand c rest k length) : k.CanBeRead ∧ k ≠ .finish := by
  cases h with
  | number | string | mark => exact ⟨trivial, nofun⟩
  | word _ hc =>
    cases hword : wordKind (String.ofList (c :: rest.takeWhile isNamePart)) with
    | name name => exact ⟨isName_of_wordKind hword ⟨c, _, String.toList_ofList, hc, List.all_takeWhile⟩, nofun⟩
    | keyword => exact ⟨trivial, nofun⟩
    | _ =>
      unfold wordKind at hword
      split at hword <;> cases hword
  | regex _ _ _ _ hrun =>
    refine ⟨?_, nofun⟩
    have hsource := isRegexSource_of_regexRun hrun
    simpa [TokenKind.CanBeRead, TokenKind.HasSpelling] using hsource

/-- A token of a text that is not its end can be read, and takes at least one character. -/
theorem next_canBeRead {t : Token} {after : TokenCursor} (h : s.next = (.ok t, after)) (ht : t.kind ≠ .finish) :
    t.kind.CanBeRead ∧ after.rest.length < s.rest.length := by
  have hskip : s.skipGap.rest.length ≤ s.rest.length := by
    simp only [skipGap, List.length_drop]
    omega
  unfold next at h
  dsimp only at h
  split at h
  · obtain ⟨hkind, _⟩ := Prod.mk.inj h
    obtain rfl := Except.ok.inj hkind
    exact absurd rfl ht
  · rename_i c rest hrest
    split at h
    · rename_i k hk
      obtain ⟨hkind, rfl⟩ := Prod.mk.inj h
      obtain rfl := Except.ok.inj hkind
      refine ⟨(tokenRun_eq_ok_iff.1 (Prod.ext hk rfl)).canBeRead.1, ?_⟩
      rw [hrest] at hskip
      simp only [List.length_drop, List.length_cons] at hskip ⊢
      omega
    · cases h

/-- The tokens that are passed in a text are such as can be read, and not more than the characters of the text. -/
theorem passes_text {fuel stop : Nat} {v w : TokenView} {ts : List TokenKind}
    (hpull : pull stop (TokenStream.fromCursor fuel s) = .ok v) (hpasses : v.Passes ts w) :
    (∀ k ∈ ts, k.CanBeRead) ∧ ts.length ≤ s.rest.length := by
  induction fuel generalizing s stop v ts with
  | zero =>
    obtain rfl := Except.ok.inj hpull
    cases hpasses with
    | refl => exact ⟨nofun, Nat.zero_le _⟩
    | step hk => exact absurd rfl hk
  | succ fuel ih =>
    cases hpasses with
    | refl => exact ⟨nofun, Nat.zero_le _⟩
    | step hk hu hpasses =>
      rw [TokenStream.fromCursor] at hpull
      split at hpull
      · cases hpull
      · rename_i t after hnext
        split at hpull
        · rename_i hfinish
          obtain rfl := Except.ok.inj hpull
          exact absurd hfinish hk
        · obtain rfl := Except.ok.inj hpull
          obtain ⟨hread, hlt⟩ := next_canBeRead hnext hk
          obtain ⟨hts, hlength⟩ := ih hu hpasses
          refine ⟨fun k hk => ?_, by rw [List.length_cons]; omega⟩
          rcases List.mem_cons.1 hk with rfl | hk
          · exact hread
          · exact hts k hk

/-! ## Accepted texts -/

/-- The text that is read as an expression is the given one, or what follows the mark of the language in it. -/
theorem ofChars_of_parse {text : String} {e : Expr} (h : Expr.parse text = .ok e) :
    ∃ chars : List Char, Expr.ofChars chars = .ok e ∧ chars.length ≤ text.toList.length := by
  unfold Expr.parse at h
  split at h
  · rename_i rest hrest
    refine ⟨rest, ?_, ?_⟩
    · cases hchars : Expr.ofChars rest with
      | error => rw [hchars] at h; cases h
      | ok e' => rw [hchars] at h; exact h
    · unfold Expr.dropLanguageMark? at hrest
      dsimp only at hrest
      split at hrest
      · obtain rfl := Option.some.inj hrest
        have htrim : (trimStart text.toList).length ≤ text.toList.length := (List.dropWhile_suffix _).length_le
        rw [List.length_drop]
        omega
      · cases hrest
  · exact ⟨text.toList, h, Nat.le_refl _⟩

/-- The tree of an accepted text is derived from no more tokens than the text has characters, each of which can be read. -/
theorem derives_of_parse {text : String} {e : Expr} (h : Expr.parse text = .ok e) :
    ∃ ts, Derives .expr maxNesting ts e ∧ (∀ k ∈ ts, k.CanBeRead) ∧ ts.length ≤ text.toList.length := by
  obtain ⟨chars, hchars, hlength⟩ := ofChars_of_parse h
  obtain ⟨v, w, ts, hpull, hpasses, _, hderives⟩ := derives_of_ofStream hchars
  obtain ⟨hread, hcount⟩ := passes_text hpull hpasses
  exact ⟨ts, hderives, hread, Nat.le_trans hcount hlength⟩

end CellExpr
