import CellExpr.Proofs.Grammar.Placement
import CellExpr.Proofs.Scanning.Scan

/-!
# Two ways to read a text

A text is read as an expression with its tokens handed out one at a time, or all its tokens are read first and then the expression.
Both ways accept the same texts and give the same tree or the same error, unless the text has a wrong token in it
(`ofChars_of_tokenize`). Then both fail; the first way may find fault with what stands before the wrong token.
-/

namespace CellExpr

open TokenReader TokenCursor

/-- The tokens and errors that a source hands out one after another, up to where there is no more. -/
inductive TokenSource.HandsOut : TokenSource → TokenStream → Prop where
  | nil {s after : TokenSource} (h : s.next? = (none, after)) : HandsOut s []
  | cons {s after : TokenSource} {item : Except SyntaxError Token} {items : TokenStream} (h : s.next? = (some item, after))
      (hrest : HandsOut after items) : HandsOut s (item :: items)

variable {text : List Char} {before : List Token} {last : Except SyntaxError Token} {afterOperand : Bool} {position : Nat}

/-! ## Tokens handed out one at a time -/

/-- After the end of the text or an error nothing is handed out. -/
theorem TokenSource.HandsOut.ended (cursor : TokenCursor) : HandsOut ⟨cursor, true⟩ [] := .nil rfl

theorem isEnd_eq_false {k : TokenKind} (h : k ≠ .finish) (lexeme : List Char) (position : Nat) :
    TokenSource.isEnd (.ok ⟨k, lexeme, position⟩) = false := by
  cases k <;> first | rfl | exact absurd rfl h

/-- A source hands out the scan of its text. -/
theorem Scans.handsOut (h : Scans afterOperand position text before last) :
    TokenSource.HandsOut ⟨⟨text, position, afterOperand⟩, false⟩ (.ofTokens before ++ [last]) := by
  induction h with
  | @finish afterOperand position _ gap hgap hstop =>
    subst hstop
    refine .cons ?_ (.ended ⟨[], position + gap.length, afterOperand⟩)
    rw [TokenSource.next?, TokenSource.read, next_finish hgap]
    rfl
  | error hgap hc hstart hrun =>
    subst hstart
    obtain ⟨after, hnext⟩ := next_error hgap hc hrun
    refine .cons ?_ (.ended after)
    rw [TokenSource.next?, TokenSource.read, hnext]
    rfl
  | token hgap hc hstart hrun h ih =>
    subst hstart
    refine .cons ?_ ih
    rw [TokenSource.next?, TokenSource.read, next_token hgap hc hrun]
    simp only [isEnd_eq_false hrun.canBeRead.2]
    rfl

theorem handsOut_ofText (text : List Char) : (TokenSource.ofText text).HandsOut (.ofText text) := by
  obtain ⟨before, last, hscans⟩ := exists_scans false 0 text
  rw [hscans.ofText_eq]
  exact hscans.handsOut

/-! ## Texts with a wrong token -/

/-- A reading beside itself, of tokens that all stand before an error. -/
def Alignment.upTo (wrong : SyntaxError) : Alignment where
  view v w := w = v ∧ ∃ ts, v.rest = TokenStream.ofTokens ts ++ [.error wrong] ∧
    ∀ t ∈ v.current :: ts, t.kind ≠ .finish ∧ t.position < wrong.position
  token t u := u = t ∧ t.position < wrong.position
  error e e' := e' = e ∧ (e = wrong ∨ e.position < wrong.position)
  sight := by
    rintro v _ ⟨rfl, ts, _, hts⟩
    exact ⟨rfl, (hts _ List.mem_cons_self).2⟩
  same := by
    rintro t _ ⟨rfl, _⟩
    exact ⟨rfl, rfl⟩
  report := by
    rintro t _ fault found ⟨rfl, hlt⟩ _
    exact ⟨rfl, .inr hlt⟩
  next := by
    rintro v _ ⟨rfl, ts, hrest, hts⟩ _
    rw [hrest]
    cases ts with
    | nil => exact .error ⟨rfl, .inl rfl⟩
    | cons t ts => exact .ok ⟨rfl, ts, rfl, fun u hu => hts u (List.mem_cons_of_mem _ hu)⟩

theorem Alignment.goesOn_upTo (wrong : SyntaxError) : (Alignment.upTo wrong).GoesOn := by
  rintro v w ⟨_, ts, hrest, _⟩ _
  rw [hrest]
  exact List.append_ne_nil_of_right_ne_nil _ (List.cons_ne_nil _ _)

/-- A stream of tokens that ends in an error is no expression. It is reported, or one of the tokens before it is. -/
theorem ofStream_eq_error {wrong : SyntaxError} (h : ∀ t ∈ before, t.kind ≠ .finish ∧ t.position < wrong.position) :
    ∃ e, Expr.ofStream (TokenStream.ofTokens before ++ [.error wrong]) = .error e ∧
      (e = wrong ∨ e.position < wrong.position) := by
  have hpull : Alike (Alignment.upTo wrong).view (Alignment.upTo wrong).error
      (pull 0 (TokenStream.ofTokens before ++ [.error wrong])) (pull 0 (TokenStream.ofTokens before ++ [.error wrong])) := by
    cases before with
    | nil => exact .error ⟨rfl, .inl rfl⟩
    | cons t ts => exact .ok ⟨rfl, ts, rfl, h⟩
  have halike := Alignment.ofStream (Alignment.goesOn_upTo wrong) rfl hpull
  cases hread : Expr.ofStream (TokenStream.ofTokens before ++ [.error wrong]) with
  | error e =>
    rw [hread] at halike
    cases halike with
    | error h => exact ⟨e, rfl, h.2⟩
  | ok e =>
    rw [hread] at halike
    cases halike with
    | ok h =>
      -- the end of the text does not come in sight
      obtain ⟨_, v, _, ⟨_, ts, _, hts⟩, hfinish⟩ := h
      exact absurd hfinish (hts _ List.mem_cons_self).1

/-- A text with its tokens handed out one at a time is read as its tokens are, if all of them can be read. If one is wrong, the text
is wrong: it is reported, or a fault that stands before it. -/
theorem ofChars_of_tokenize (text : List Char) :
    (TokenSource.ofText text).HandsOut (.ofText text) ∧
      match tokenize text with
      | .ok tokens => Expr.ofChars text = Expr.ofTokens tokens
      | .error wrong => ∃ e, Expr.ofChars text = .error e ∧ (e = wrong ∨ e.position < wrong.position) := by
  refine ⟨handsOut_ofText text, ?_⟩
  split
  · rename_i tokens htokens
    rw [Expr.ofChars, Expr.ofTokens, ofText_of_tokenize htokens]
  · rename_i wrong hwrong
    obtain ⟨before, hscans⟩ := tokenize_eq_error_iff.1 hwrong
    rw [Expr.ofChars, hscans.ofText_eq]
    exact ofStream_eq_error fun t ht => ⟨hscans.kind_ne_finish t ht, hscans.position_lt.2 t ht⟩

end CellExpr
