import CellExpr.Proofs.Grammar.Completeness

/-!
# Recognition

The tokens that are read as an expression are those from which the grammar derives one, and the tree that is given is the
only one derived from them (`ofTokens_recognizes`).
-/

namespace CellExpr

open TokenReader

variable {u v w : TokenView} {s : TokenStream} {ts : List TokenKind} {e : Expr} {stop : Nat}

/-! ## Streams -/

/-- After a view there are at least as many tokens as are passed from it on. -/
theorem TokenView.Passes.length_le (h : v.Passes ts w) : ts.length ≤ v.rest.length + 1 := by
  induction h with
  | refl => exact Nat.zero_le _
  | @step v _ _ _ _ hu h ih =>
    cases hrest : v.rest with
    | nil =>
      rw [hrest] at hu
      obtain rfl := Except.ok.inj hu
      cases h with
      | refl => exact Nat.le_refl _
      | step hk => exact absurd rfl hk
    | cons t rest =>
      rw [hrest] at hu
      cases t with
      | error => cases hu
      | ok t =>
        obtain rfl := Except.ok.inj hu
        simp only [List.length_cons] at ih ⊢
        omega

theorem length_rest_le (h : pull stop s = .ok v) : v.rest.length ≤ s.length := by
  match s, h with
  | [], h => cases h; exact Nat.le_refl _
  | .ok t :: rest, h => cases h; exact Nat.le_succ _

/-- What a stream is read as is derived from its tokens up to the end. -/
theorem derives_of_ofStream (h : Expr.ofStream s = .ok e) :
    ∃ v w ts, pull 0 s = .ok v ∧ v.Passes ts w ∧ w.current.kind = .finish ∧ Derives .expr maxNesting ts e := by
  unfold Expr.ofStream at h
  cases hv : pull 0 s with
  | error => rw [hv] at h; cases h
  | ok v =>
    rw [hv] at h
    cases hr : (whole (s.length + 1)).run v with
    | error => simp [bind, Except.bind, hr] at h
    | ok r =>
      simp only [bind, Except.bind, hr] at h
      obtain rfl := Except.ok.inj h
      obtain ⟨ts, hpasses, hfinish, hderives⟩ := whole_sound hr
      exact ⟨v, r.2, ts, rfl, hpasses, hfinish, hderives⟩

/-- A stream whose tokens up to the end derive a tree is read as that tree. -/
theorem ofStream_of_derives (hv : pull 0 s = .ok v) (hpasses : v.Passes ts w) (hfinish : w.current.kind = .finish)
    (h : Derives .expr maxNesting ts e) : Expr.ofStream s = .ok e := by
  have hlength : ts.length ≤ s.length + 1 :=
    Nat.le_trans hpasses.length_le (Nat.succ_le_succ (length_rest_le hv))
  unfold Expr.ofStream
  simp only [bind, Except.bind, hv, whole_reads h hlength hpasses hfinish]
  rfl

/-! ## Lists of tokens -/

/-- Whether a token is the end of the text. -/
def Token.isEnd (t : Token) : Bool :=
  match t.kind with
  | .finish => true
  | _ => false

/-- The kinds of the tokens before the end of the text, which need not be among them. -/
def Token.sentence (tokens : List Token) : List TokenKind := (tokens.takeWhile fun t => !t.isEnd).map (·.kind)

/-- The tokens of a list are passed one after another up to the end of the text. -/
theorem passes_sentence (tokens : List Token) (stop : Nat) :
    ∃ v w, pull stop (.ofTokens tokens) = .ok v ∧ v.Passes (Token.sentence tokens) w ∧ w.current.kind = .finish := by
  induction tokens generalizing stop with
  | nil => exact ⟨_, _, rfl, .refl _, rfl⟩
  | cons t tokens ih =>
    cases hend : t.isEnd with
    | true =>
      have hkind : t.kind = .finish := by
        unfold Token.isEnd at hend
        split at hend
        · assumption
        · cases hend
      refine ⟨⟨t, .ofTokens tokens⟩, ⟨t, .ofTokens tokens⟩, rfl, ?_, hkind⟩
      simp only [Token.sentence, List.takeWhile, hend, Bool.not_true, List.map_nil]
      exact .refl _
    | false =>
      have hkind : t.kind ≠ .finish := fun hk => by simp [Token.isEnd, hk] at hend
      obtain ⟨v, w, hv, hpasses, hfinish⟩ := ih t.stop
      refine ⟨⟨t, .ofTokens tokens⟩, w, rfl, ?_, hfinish⟩
      simp only [Token.sentence, List.takeWhile, hend, Bool.not_false, List.map_cons]
      exact .step hkind hv hpasses

/-- Tokens are read as an expression exactly if the grammar derives it from those before the end of the text, and it derives
no other one from them. -/
theorem ofTokens_recognizes (tokens : List Token) (e : Expr) :
    (Expr.ofTokens tokens = .ok e ↔ Derives .expr maxNesting (Token.sentence tokens) e) ∧
      (Derives .expr maxNesting (Token.sentence tokens) e →
        ∀ e', Derives .expr maxNesting (Token.sentence tokens) e' → e' = e) := by
  obtain ⟨v, w, hv, hpasses, hfinish⟩ := passes_sentence tokens 0
  have hread : ∀ {e}, Derives .expr maxNesting (Token.sentence tokens) e → Expr.ofTokens tokens = .ok e :=
    ofStream_of_derives hv hpasses hfinish
  refine ⟨⟨fun h => ?_, hread⟩, fun h e' h' => Except.ok.inj ((hread h').symm.trans (hread h))⟩
  obtain ⟨v', w', ts, hv', hpasses', hfinish', hderives⟩ := derives_of_ofStream h
  obtain rfl := Except.ok.inj (hv.symm.trans hv')
  obtain ⟨rfl, _⟩ := hpasses.unique hfinish hpasses' hfinish'
  exact hderives

end CellExpr
