import CellExpr.Proofs.Grammar.Recognition
import CellExpr.Proofs.Scanning.Extent

/-!
# Written tokens

The tokens of an expression written one after another, with any blank characters between them or none, are read back as they
were (`fromCursor_written`). So the text of what the grammar derives is read as the tree that is derived (`parse_written`).
-/

namespace CellExpr

open CellExpr.Text CellExpr.Number TokenCursor TokenReader

/-- Tokens written one after another; before each of them and after the last one there is a gap, the `i`-th being `gap i`. -/
def written (gap : Nat → List Char) : List TokenKind → List Char
  | [] => gap 0
  | k :: ts => gap 0 ++ (k.spelling ++ written (fun i => gap (i + 1)) ts)

/-- Whether all gaps are blank. They may be empty. -/
def IsGap (gap : Nat → List Char) : Prop := ∀ i, ∀ c ∈ gap i, isBlank c = true

variable {gap : Nat → List Char} {ts : List TokenKind} {k : TokenKind} {g rest : List Char} {c : Char}

theorem IsGap.next (h : IsGap gap) : IsGap fun i => gap (i + 1) := fun i => h (i + 1)

/-! ## Gaps -/

/-- In front of a gap and a token the token is read, and the reader stands after it. -/
theorem next_spelling {s : TokenCursor} (hs : s.rest = g ++ (k.spelling ++ rest)) (hg : ∀ c ∈ g, isBlank c = true)
    (hk : k.HasSpelling) (hafter : s.afterOperand = true → k.isMark = true)
    (hbefore : s.afterOperand = false → k ≠ .mark .slash ∧ k ≠ .mark .dot) (hstop : k.StopsBefore rest) :
    ∃ t after, s.next = (.ok t, after) ∧ t.kind = k ∧ after.rest = rest ∧ after.afterOperand = k.endsOperand ∧
      rest.length < s.rest.length := by
  obtain ⟨c, word, hword, hblank, hcomment, _⟩ := spelling_cons hk
  have hrun := tokenRun_eq_ok_iff.1 (tokenRun_spelling hk hword 0 hafter hbefore hstop)
  have hc : ¬BeginsGap c := not_or.2 ⟨Bool.eq_false_iff.1 hblank, hcomment⟩
  obtain ⟨text, position, afterOperand⟩ := s
  rw [hword, List.cons_append] at hs
  obtain rfl : text = g ++ c :: (word ++ rest) := hs
  refine ⟨_, _, next_token (gapBefore_of_blank hg) hc hrun, rfl, rfl, rfl, ?_⟩
  simp only [List.length_append, List.length_cons]
  omega

/-- After a gap the text ends. -/
theorem next_gap {s : TokenCursor} (hg : ∀ c ∈ s.rest, isBlank c = true) : ∃ t after, s.next = (.ok t, after) ∧
    t.kind = .finish :=
  ⟨_, _, next_finish (gapBefore_of_blank hg), rfl⟩

/-! ## What comes after a token -/

/-- A written text begins with a blank character or with its first token. -/
theorem written_cons (h : written gap ts = c :: rest) (hgap : IsGap gap) :
    isBlank c = true ∨ ∃ k us, ts = k :: us ∧ k.spelling ++ written (fun i => gap (i + 1)) us = c :: rest := by
  cases hg : gap 0 with
  | cons d g =>
    left
    have hd : d = c := by
      cases ts with
      | nil =>
        rw [written, hg] at h
        exact (List.cons.inj h).1
      | cons k ts =>
        rw [written, hg] at h
        exact (List.cons.inj h).1
    exact hd ▸ hgap 0 d (by rw [hg]; exact List.mem_cons_self)
  | nil =>
    right
    cases ts with
    | nil =>
      rw [written, hg] at h
      cases h
    | cons k ts =>
      rw [written, hg] at h
      exact ⟨k, ts, rfl, h⟩

/-- A spelling that begins as no word, string or regular expression does is that of a mark. -/
theorem exists_mark_of_spelling (hk : k.HasSpelling) (hs : k.spelling = c :: rest) (hname : isNamePart c = false)
    (hquote : c ≠ '"') (hslash : c ≠ '/') : ∃ m, k = .mark m ∧ m.chars = c :: rest := by
  obtain ⟨c', rest', hs', _, _, hc⟩ := spelling_cons hk
  obtain ⟨rfl, rfl⟩ := List.cons.inj (hs.symm.trans hs')
  rw [hname] at hc
  cases k with
  | mark m => exact ⟨m, rfl, hs⟩
  | _ => simp [hquote, hslash, TokenKind.isMark] at hc

/-- After the point of a field there is no digit. -/
theorem digitRun_written (hgap : IsGap gap) (hts : ∀ k ∈ ts, k.HasSpelling)
    (hchain : (TokenKind.mark .dot :: ts).IsChain TokenKind.Meets) : digitRun (written gap ts) = 0 := by
  cases hw : written gap ts with
  | nil => rfl
  | cons c rest =>
    have hc : isDigit c = false := by
      rcases written_cons hw hgap with hblank | ⟨k, us, rfl, hs⟩
      · exact not_digit_of_not_namePart (isNamePart_of_isBlank hblank)
      · obtain ⟨name, rfl⟩ := (List.isChain_cons_cons.1 hchain).1.field rfl
        obtain ⟨⟨d, tail, hname, hd, _⟩, _⟩ := hts _ List.mem_cons_self
        rw [TokenKind.spelling, hname] at hs
        obtain rfl := (List.cons.inj hs).1
        rcases hd with hd | rfl
        · exact isDigit_of_isAlphabetic hd
        · decide
    rw [digitRun, List.takeWhile_cons, hc]
    rfl

/-- What is written after a token does not go on with it. -/
theorem stopsBefore_written (hgap : IsGap gap) (hts : ∀ k ∈ ts, k.HasSpelling)
    (hchain : (k :: ts).IsChain TokenKind.Meets) : k.StopsBefore (written gap ts) := by
  unfold TokenKind.StopsBefore
  split
  · intro hk hequal
    obtain ⟨rest, hw⟩ := List.head?_eq_some_iff.1 hequal
    rcases written_cons hw hgap with hblank | ⟨k', us, rfl, hs⟩
    · exact absurd hblank (by decide)
    · have hk' := hts k' List.mem_cons_self
      obtain ⟨d, tail, hspelling, _⟩ := spelling_cons hk'
      rw [hspelling] at hs
      obtain rfl := (List.cons.inj hs).1
      obtain ⟨m, rfl, hm⟩ := exists_mark_of_spelling hk' hspelling (by decide +kernel) (by decide) (by decide)
      obtain ⟨_, _, hm', _, _, _, _, _, _, _, hequal⟩ := m.chars_head
      obtain rfl := hequal (List.cons.inj (hm.symm.trans hm')).1.symm
      exact ((List.isChain_cons_cons.1 hchain).1.operand hk).2.2 rfl
  · rename_i hk
    intro c rest hw
    rcases written_cons hw hgap with hblank | ⟨k', us, rfl, hs⟩
    · refine ⟨isNamePart_of_isBlank hblank, ?_⟩
      rintro rfl
      exact absurd hblank (by decide)
    · obtain ⟨hmeets, hchain⟩ := List.isChain_cons_cons.1 hchain
      have hmark := hmeets.mark (.inl (Bool.eq_false_iff.2 hk))
      cases k' with
      | mark m =>
        obtain ⟨d, tail, hm, hname, _, _, _, _, _, hdot, _⟩ := m.chars_head
        rw [TokenKind.spelling, hm] at hs
        obtain ⟨rfl, htext⟩ := List.cons.inj hs
        refine ⟨hname, fun hd => ?_⟩
        obtain rfl := hdot hd
        obtain rfl := (List.cons.inj hm).2
        rw [← htext]
        exact digitRun_written hgap.next (fun k hk => hts k (List.mem_cons_of_mem _ hk)) hchain
      | _ => cases hmark

/-! ## Written texts -/

/-- Written tokens that keep apart are read back one after another. -/
theorem fromCursor_written {s : TokenCursor} {fuel : Nat} (hs : s.rest = written gap ts) (hgap : IsGap gap)
    (hts : ∀ k ∈ ts, k.HasSpelling) (hchain : ts.IsChain TokenKind.Meets)
    (hafter : ∀ k rest, ts = k :: rest → s.afterOperand = true → k.isMark = true)
    (hbefore : ∀ k rest, ts = k :: rest → s.afterOperand = false → k ≠ .mark .slash ∧ k ≠ .mark .dot)
    (hfuel : s.rest.length < fuel) :
    ∃ v w, (∀ stop, pull stop (TokenStream.fromCursor fuel s) = .ok v) ∧ v.Passes ts w ∧ w.current.kind = .finish := by
  induction ts generalizing s gap fuel with
  | nil =>
    obtain ⟨fuel, rfl⟩ : ∃ n, fuel = n + 1 := ⟨fuel - 1, by omega⟩
    obtain ⟨t, after, hnext, hkind⟩ := next_gap (s := s) (by rw [hs]; exact hgap 0)
    refine ⟨⟨t, []⟩, ⟨t, []⟩, fun stop => ?_, .refl _, hkind⟩
    rw [TokenStream.fromCursor, hnext]
    simp only [hkind]
    rfl
  | cons k ts ih =>
    obtain ⟨fuel, rfl⟩ : ∃ n, fuel = n + 1 := ⟨fuel - 1, by omega⟩
    have hrest : ∀ k ∈ ts, k.HasSpelling := fun k hk => hts k (List.mem_cons_of_mem _ hk)
    have hspelling := hts k List.mem_cons_self
    have hstop := stopsBefore_written hgap.next hrest hchain
    obtain ⟨t, after, hnext, hkind, hremaining, hoperand, hlt⟩ :=
      next_spelling hs (hgap 0) hspelling (hafter k ts rfl) (hbefore k ts rfl) hstop
    have hmeets : ∀ k' rest, ts = k' :: rest → TokenKind.Meets k k' := by
      rintro k' rest rfl
      exact (List.isChain_cons_cons.1 hchain).1
    obtain ⟨v, w, hpull, hpasses, hfinish⟩ := ih hremaining hgap.next hrest hchain.tail
      (fun k' rest h ha => (hmeets k' rest h).mark (.inr (hoperand ▸ ha)))
      (fun k' rest h ha => ⟨((hmeets k' rest h).operand (hoperand ▸ ha)).1, ((hmeets k' rest h).operand (hoperand ▸ ha)).2.1⟩)
      (by rw [hremaining]; omega : after.rest.length < fuel)
    have hne : t.kind ≠ .finish := by
      rw [hkind]
      rintro rfl
      exact hspelling
    refine ⟨⟨t, TokenStream.fromCursor fuel after⟩, w, fun stop => ?_, ?_, hfinish⟩
    · rw [TokenStream.fromCursor, hnext]
      dsimp only
      split
      · rename_i hf
        exact absurd hf hne
      · rfl
    · rw [← hkind]
      exact .step hne (hpull _) hpasses

/-! ## The mark of the language -/

/-- Where a word begins with a letter, it goes on with letters and numerals. -/
theorem namePart_of_spelling (hk : k.HasSpelling) (hs : k.spelling = c :: rest) (hc : isAlphabetic c = true) :
    k.isMark = false ∧ rest.all isNamePart = true := by
  cases k with
  | number x =>
    obtain ⟨c', whole, fraction, hc', _, _, hs'⟩ := isPositional_text hk.1
    have hdigit := isDigit_of_isAlphabetic hc
    rcases hs' with hs' | ⟨_, hs'⟩ <;>
      · obtain rfl := (List.cons.inj (hs.symm.trans hs')).1
        rw [hc'] at hdigit
        cases hdigit
  | name s =>
    obtain ⟨⟨c', rest', hs', _, hrest⟩, _⟩ := hk
    obtain ⟨rfl, rfl⟩ := List.cons.inj (hs.symm.trans hs')
    exact ⟨rfl, hrest⟩
  | keyword w =>
    obtain ⟨c', rest', hs', _, hrest⟩ := w.word_cons
    obtain ⟨rfl, rfl⟩ := List.cons.inj (hs.symm.trans hs')
    exact ⟨rfl, hrest⟩
  | string s =>
    obtain rfl := (List.cons.inj hs).1
    exact absurd hc (by decide +kernel)
  | regex =>
    obtain rfl := (List.cons.inj hs).1
    exact absurd hc (by decide +kernel)
  | mark m =>
    obtain ⟨c', rest', hm, hname, _⟩ := m.chars_head
    obtain rfl := (List.cons.inj (hs.symm.trans hm)).1
    rw [isNamePart_of_begins (.inl hc)] at hname
    cases hname
  | finish => exact hk.elim

theorem trimStart_append (hg : ∀ c ∈ g, isBlank c = true) (hc : isBlank c = false) :
    trimStart (g ++ c :: rest) = c :: rest := by
  rw [trimStart, List.dropWhile_append_of_pos hg, List.dropWhile_cons, hc]
  rfl

/-- Before a written expression there is no mark of the language: its colon would have to be the second token. -/
theorem dropLanguageMark?_written (hgap : IsGap gap) (hts : ∀ k ∈ ts, k.HasSpelling)
    (hchain : ts.IsChain TokenKind.Meets) (hsecond : ts[1]? ≠ some (.mark .colon)) (hne : ts ≠ []) :
    Expr.dropLanguageMark? (written gap ts) = none := by
  obtain ⟨k, us, rfl⟩ := List.exists_cons_of_ne_nil hne
  have hk := hts k List.mem_cons_self
  obtain ⟨c, rest, hs, hblank, _⟩ := spelling_cons hk
  have htrim : trimStart (written gap (k :: us)) = c :: (rest ++ written (fun i => gap (i + 1)) us) := by
    rw [written, hs, List.cons_append, trimStart_append (hgap 0) hblank]
  unfold Expr.dropLanguageMark?
  rw [htrim]
  dsimp only
  refine if_neg fun hmark => ?_
  obtain ⟨tail, htail⟩ := List.isPrefixOf_iff_prefix.1 hmark
  obtain ⟨rfl, hrel⟩ := List.cons.inj htail
  obtain ⟨hword, hrest⟩ := namePart_of_spelling hk hs (by decide +kernel)
  have hus : ∀ k ∈ us, k.HasSpelling := fun k hk => hts k (List.mem_cons_of_mem _ hk)
  have hapart : IsApart (written (fun i => gap (i + 1)) us) := by
    have hstop := stopsBefore_written hgap.next hus hchain
    rwa [TokenKind.StopsBefore, if_neg (by rw [hword]; nofun)] at hstop
  -- what goes on with a name is the same on both sides, so the first token is the name before the colon
  have htake := takeWhile_append_stop (List.all_eq_true.1 hrest) fun d rest hd => (hapart d rest hd).1
  rw [← hrel] at htake
  have htake' : (['r', 'e', 'l'] ++ ':' :: tail).takeWhile isNamePart = ['r', 'e', 'l'] := by
    refine takeWhile_append_stop (List.all_eq_true.1 (by decide +kernel)) fun d rest hd => ?_
    rw [← (List.cons.inj hd).1]
    decide +kernel
  obtain rfl := htake.symm.trans htake'
  have hcolon : written (fun i => gap (i + 1)) us = ':' :: tail := by
    have happend : ['r', 'e', 'l'] ++ ':' :: tail = ['r', 'e', 'l'] ++ written (fun i => gap (i + 1)) us := hrel
    exact (List.append_cancel_left happend).symm
  rcases written_cons hcolon hgap.next with hblank | ⟨k', us', rfl, hs'⟩
  · exact absurd hblank (by decide)
  · have hk' := hus k' List.mem_cons_self
    obtain ⟨d, rest', hspelling, _⟩ := spelling_cons hk'
    rw [hspelling] at hs'
    obtain rfl := (List.cons.inj hs').1
    obtain ⟨m, rfl, hm⟩ := exists_mark_of_spelling hk' hspelling (by decide +kernel) (by decide) (by decide)
    cases m <;> first | exact hsecond rfl | cases hm

/-- The text of what the grammar derives is read as the tree that is derived, however its tokens are set apart. -/
theorem parse_written {e : Expr} (h : Derives .expr maxNesting ts e) (hts : ∀ k ∈ ts, k.HasSpelling) (hgap : IsGap gap) :
    Expr.parse (String.ofList (written gap ts)) = .ok e := by
  have hsolid := h.solid
  obtain ⟨k, rest, rfl, hk⟩ := hsolid.head
  have hbefore : k ≠ .mark .slash ∧ k ≠ .mark .dot := by
    constructor <;> (rintro rfl; cases hk)
  obtain ⟨v, w, hpull, hpasses, hfinish⟩ := fromCursor_written (s := { rest := written gap (k :: rest) }) rfl hgap hts
    hsolid.chain nofun (fun k' rest' heq _ => (List.cons.inj heq).1 ▸ hbefore) (Nat.lt_succ_self _)
  rw [Expr.parse, String.toList_ofList, dropLanguageMark?_written hgap hts hsolid.chain h.second_ne_colon nofun]
  exact ofStream_of_derives (hpull 0) hpasses hfinish h

end CellExpr
