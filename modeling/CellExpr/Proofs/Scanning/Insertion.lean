import CellExpr.Proofs.Grammar.Placement
import CellExpr.Proofs.Scanning.Scan

/-!
# Blank text put in between tokens

Blank characters and comments may be put in where a token begins or ends: the tokens stay the same, and those after that place
move on (`Scans.insert`). None is split or joined with another, and no slash or point is read in another way. So the text is the
same expression as before, or has the same error, which moves on with its token (`tokenize_insert`).
-/

namespace CellExpr

open CellExpr.Text TokenCursor TokenReader

/-- The token if so many characters are put in at a place. -/
def Token.movedFrom (place count : Nat) (t : Token) : Token :=
  { t with position := if place ≤ t.position then t.position + count else t.position }

/-- The error if so many characters are put in at a place. -/
def SyntaxError.movedFrom (place count : Nat) (e : SyntaxError) : SyntaxError :=
  { e with position := if place ≤ e.position then e.position + count else e.position }

variable {text u v word filler : List Char} {before tokens : List Token} {afterOperand : Bool} {position place count : Nat}
  {c : Char} {k : TokenKind} {t : Token}

theorem Token.movedFrom_of_le (h : place ≤ t.position) : t.movedFrom place count = { t with position := t.position + count } := by
  rw [movedFrom, if_pos h]

theorem Token.movedFrom_of_lt (h : t.position < place) : t.movedFrom place count = t := by
  rw [movedFrom, if_neg (Nat.not_le.2 h)]

theorem Token.movedFrom_ending_of_le {stop : Nat} (h : place ≤ stop) :
    (Token.ending stop).movedFrom place count = .ending (stop + count) :=
  movedFrom_of_le h

/-- A scan after the place where characters are put in. -/
theorem Scans.movedFrom (h : Scans afterOperand position text before (.ok t)) (hplace : place ≤ position) (count : Nat) :
    Scans afterOperand (position + count) text (before.map (·.movedFrom place count)) (.ok (t.movedFrom place count)) := by
  generalize hlast : Except.ok t = last at h
  induction h with
  | error => cases hlast
  | finish hgap hstop =>
    obtain rfl := Except.ok.inj hlast
    rw [Token.movedFrom_ending_of_le (by omega)]
    exact .finish hgap (by omega)
  | @token afterOperand position start gap word rest c k tokens last hgap hc hstart hrun h ih =>
    have htail := ih (by omega) hlast
    rw [show start + 1 + word.length + count = start + count + 1 + word.length by omega] at htail
    rw [List.map_cons, Token.movedFrom_of_le (by dsimp only; omega)]
    exact .token hgap hc (by dsimp only; omega) hrun htail

/-- Filling may be put in before a scan. -/
theorem Scans.prepend (h : Scans afterOperand position text before (.ok t)) (hplace : place ≤ position)
    (hfiller : IsFiller filler) :
    Scans afterOperand position (filler ++ text) (before.map (·.movedFrom place filler.length))
      (.ok (t.movedFrom place filler.length)) := by
  cases h with
  | finish hgap hstop =>
    rw [Token.movedFrom_ending_of_le (by omega)]
    exact .finish (hgap.prepend hfiller) (by rw [List.length_append]; omega)
  | @token _ _ start gap word rest c k tokens _ hgap hc hstart hrun h =>
    have hle : place ≤ start + 1 + word.length := by omega
    have htail := h.movedFrom hle filler.length
    rw [show start + 1 + word.length + filler.length = start + filler.length + 1 + word.length by omega] at htail
    rw [List.map_cons, Token.movedFrom_of_le (by dsimp only; omega), ← List.append_assoc]
    exact .token (hgap.prepend hfiller) hc (by dsimp only; rw [List.length_append]; omega) hrun htail

/-- A token stays what it is if filling is put in after it. -/
theorem TokenCursor.TokenAt.insert (h : TokenAt afterOperand c (word ++ (u ++ v)) k word.length) (hfiller : IsFiller filler) :
    TokenAt afterOperand c (word ++ (u ++ filler ++ v)) k word.length := by
  cases filler with
  | nil => rwa [List.append_nil]
  | cons d filler =>
    rw [← List.append_assoc] at h
    have hmore := h.interrupted hfiller.beginsGap (by rw [List.length_append]; omega) (filler ++ v)
    simpa only [List.append_assoc, List.cons_append] using hmore

/-- Filling may be put in where a token of a scan begins or ends. -/
theorem Scans.insert {j : Nat} (h : Scans afterOperand position text before (.ok t)) (hfiller : IsFiller filler)
    (hplace : place = position + j) (hj : ∃ u ∈ before ++ [t], place = u.position ∨ place = u.stop) :
    Scans afterOperand position (text.take j ++ filler ++ text.drop j) (before.map (·.movedFrom place filler.length))
      (.ok (t.movedFrom place filler.length)) := by
  generalize hlast : Except.ok t = last at h
  induction h generalizing j with
  | error => cases hlast
  | @finish afterOperand position stop gap hgap hstop =>
    obtain rfl := Except.ok.inj hlast
    have hj : place = stop := by
      obtain ⟨u, hu, hplace⟩ := hj
      rw [List.mem_singleton.1 hu] at hplace
      rcases hplace with hplace | hplace <;> exact hplace
    obtain rfl : j = gap.length := by omega
    rw [List.take_length, List.drop_length, List.append_nil, Token.movedFrom_ending_of_le (by omega)]
    exact .finish (hgap.append nofun hfiller) (by rw [List.length_append]; omega)
  | @token afterOperand position start gap word rest c k tokens last hgap hc hstart hrun h ih =>
    subst hlast
    by_cases hhead : place = start
    · -- before the first token
      obtain rfl : j = gap.length := by omega
      have hle : place ≤ start + 1 + word.length := by omega
      have htail := h.movedFrom hle filler.length
      rw [show start + 1 + word.length + filler.length = start + filler.length + 1 + word.length by omega] at htail
      rw [List.take_left, List.drop_left, List.map_cons, Token.movedFrom_of_le (by dsimp only; omega)]
      refine .token (hgap.append (fun d hd => Option.some.inj hd ▸ hc) hfiller) hc ?_ hrun htail
      dsimp only
      rw [List.length_append]
      omega
    · -- after its first character; then the scan after the token has the filling before it or within it
      have hafter : place = start + 1 + word.length ∨ ∃ u ∈ tokens ++ [t], place = u.position ∨ place = u.stop := by
        obtain ⟨u, hu, hu'⟩ := hj
        rcases List.mem_cons.1 hu with rfl | hu
        · refine .inl (hu'.elim (fun h => absurd h hhead) fun h => ?_)
          rw [h, Token.stop, List.length_cons]
          dsimp only
          omega
        · exact .inr ⟨u, hu, hu'⟩
      have hle : start + 1 + word.length ≤ place := by
        rcases hafter with heq | ⟨u, hu, hu'⟩
        · exact Nat.le_of_eq heq.symm
        · have hposition := h.le_position u hu
          have hstop : u.position ≤ u.stop := Nat.le_add_right ..
          omega
      obtain ⟨i, hi⟩ := Nat.exists_eq_add_of_le hle
      have htail : Scans k.endsOperand (start + 1 + word.length) (rest.take i ++ filler ++ rest.drop i)
          (tokens.map (·.movedFrom place filler.length)) (.ok (t.movedFrom place filler.length)) := by
        rcases hafter with heq | hin
        · obtain rfl : i = 0 := by omega
          exact h.prepend (Nat.le_of_eq heq) hfiller
        · exact ih hi hin rfl
      obtain rfl : j = (gap ++ c :: word).length + i := by
        rw [List.length_append, List.length_cons]
        omega
      have hsplit : gap ++ c :: (word ++ rest) = (gap ++ c :: word) ++ rest := by
        rw [List.append_assoc, List.cons_append]
      have hnext : (gap ++ c :: word) ++ rest.take i ++ filler ++ rest.drop i =
          gap ++ c :: (word ++ (rest.take i ++ filler ++ rest.drop i)) := by
        simp only [List.append_assoc, List.cons_append]
      rw [hsplit, List.take_length_add_append, List.drop_length_add_append, hnext, List.map_cons,
        Token.movedFrom_of_lt (by dsimp only; omega)]
      rw [← List.take_append_drop i rest] at hrun
      exact .token (hgap.of_head rfl) hc hstart (hrun.insert hfiller) htail

/-! ## The expression -/

/-- A reading of tokens up to the end of a text beside one of the same tokens moved on. -/
def Alignment.moved (place count : Nat) : Alignment where
  view v w := ∃ ts, v.rest = TokenStream.ofTokens ts ∧ (∃ t ∈ (v.current :: ts).getLast?, t.kind = .finish) ∧
    w = ⟨v.current.movedFrom place count, .ofTokens (ts.map (·.movedFrom place count))⟩
  token t u := u = t.movedFrom place count
  error e e' := e' = e.movedFrom place count
  sight := by
    rintro v _ ⟨ts, _, _, rfl⟩
    rfl
  same := by
    rintro t _ rfl
    exact ⟨rfl, rfl⟩
  report := by
    rintro t _ fault found rfl _
    rfl
  next := by
    rintro ⟨current, _⟩ _ ⟨ts, rfl, ⟨last, hlast, hfinish⟩, rfl⟩ hk
    cases ts with
    | nil =>
      obtain rfl := Option.some.inj hlast
      exact absurd hfinish hk
    | cons t ts => exact .ok ⟨ts, rfl, ⟨last, hlast, hfinish⟩, rfl⟩

theorem Alignment.goesOn_moved (place count : Nat) : (Alignment.moved place count).GoesOn := by
  rintro ⟨current, _⟩ w ⟨ts, rfl, ⟨last, hlast, hfinish⟩, _⟩ hk
  cases ts with
  | nil =>
    obtain rfl := Option.some.inj hlast
    exact absurd hfinish hk
  | cons t ts => exact List.cons_ne_nil _ _

/-- Tokens of a text that are moved on are the same expression, or have the same error moved on. -/
theorem ofTokens_movedFrom (stop place count : Nat) (before : List Token) :
    Expr.ofTokens ((before ++ [Token.ending stop]).map (Token.movedFrom place count)) =
      (Expr.ofTokens (before ++ [.ending stop])).mapError (·.movedFrom place count) := by
  have hpull : Alike (Alignment.moved place count).view (Alignment.moved place count).error
      (pull 0 (.ofTokens (before ++ [Token.ending stop])))
      (pull 0 (.ofTokens ((before ++ [Token.ending stop]).map (Token.movedFrom place count)))) := by
    cases before with
    | nil => exact .ok ⟨[], rfl, ⟨.ending stop, rfl, rfl⟩, rfl⟩
    | cons t ts =>
      have hlast : (t :: (ts ++ [Token.ending stop])).getLast? = some (.ending stop) := List.getLast?_concat (l := t :: ts)
      exact .ok ⟨ts ++ [.ending stop], rfl, ⟨.ending stop, hlast, rfl⟩, rfl⟩
  have hlength : (TokenStream.ofTokens ((before ++ [Token.ending stop]).map (Token.movedFrom place count))).length =
      (TokenStream.ofTokens (before ++ [Token.ending stop])).length := by simp only [TokenStream.ofTokens, List.length_map]
  have halike := Alignment.ofStream (Alignment.goesOn_moved place count) hlength hpull
  rw [Expr.ofTokens, Expr.ofTokens]
  generalize Expr.ofStream _ = x at halike ⊢
  generalize Expr.ofStream _ = y at halike ⊢
  cases halike with
  | error h => exact congrArg Except.error h
  | ok h => exact congrArg Except.ok h.1.symm

/-- Blank characters and comments put in where a token begins or ends leave the tokens as they are and move on those after them. The
tree stays the same, or the error moves on with its token. -/
theorem tokenize_insert (h : tokenize text = .ok tokens) (hplace : ∃ t ∈ tokens, place = t.position ∨ place = t.stop)
    (hfiller : IsFiller filler) :
    tokenize (text.take place ++ filler ++ text.drop place) = .ok (tokens.map (·.movedFrom place filler.length)) ∧
      Expr.ofChars (text.take place ++ filler ++ text.drop place) =
        (Expr.ofChars text).mapError (·.movedFrom place filler.length) := by
  obtain ⟨before, rfl, hscans⟩ := tokenize_eq_ok_iff.1 h
  have htokens : tokenize (text.take place ++ filler ++ text.drop place) =
      .ok ((before ++ [Token.ending text.length]).map (Token.movedFrom place filler.length)) := by
    rw [(hscans.insert hfiller (Nat.zero_add place).symm hplace).tokenize_eq, List.map_append]
    rfl
  refine ⟨htokens, ?_⟩
  rw [Expr.ofChars, Expr.ofChars, ofText_of_tokenize htokens, ofText_of_tokenize h]
  exact ofTokens_movedFrom ..

/-- A comment put in before the slash of a division does not make a regular expression of what follows. -/
theorem tokenize_insert_division :
    ∃ tokens, tokenize ['a', '/', 'b'] = .ok tokens ∧
      tokenize ['a', '#', 'c', '\n', '/', 'b'] = .ok (tokens.map (·.movedFrom 1 3)) ∧
      Expr.ofChars ['a', '#', 'c', '\n', '/', 'b'] = (Expr.ofChars ['a', '/', 'b']).mapError (·.movedFrom 1 3) := by
  have hread : (tokenize ['a', '/', 'b']).toOption.map (·.map (·.position)) = some [0, 1, 2, 3] := by decide +kernel
  cases h : tokenize ['a', '/', 'b'] with
  | error =>
    rw [h] at hread
    cases hread
  | ok tokens =>
    rw [h] at hread
    have hpositions : tokens.map (·.position) = [0, 1, 2, 3] := Option.some.inj hread
    have hslash : 1 ∈ tokens.map (·.position) := by
      rw [hpositions]
      decide
    obtain ⟨t, ht, hposition⟩ := List.mem_map.1 hslash
    have hfiller : IsFiller ['#', 'c', '\n'] := .comment ['c'] (by decide) .nil
    have htext : ['a', '/', 'b'].take 1 ++ ['#', 'c', '\n'] ++ ['a', '/', 'b'].drop 1 = ['a', '#', 'c', '\n', '/', 'b'] := rfl
    have hinsert := tokenize_insert h ⟨t, ht, .inl hposition.symm⟩ hfiller
    rw [htext] at hinsert
    exact ⟨tokens, rfl, hinsert⟩

end CellExpr
