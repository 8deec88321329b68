import CellExpr.Proofs.Scanning.Gaps
import CellExpr.Proofs.Writing.Spelling

/-!
# How far a token goes

A token takes no more characters than there are (`tokenRun_le`). `TokenAt` says which tokens there are, rule by rule, and so what a
cursor reads next (`next_token`). Where a token ends is decided by the characters that it takes and by the few that it would go on
with: it stays what it is if a gap is put in at its end, or anywhere after it (`TokenAt.interrupted`). A string or a regular
expression is decided by what it takes alone; the other tokens stop at any character that a gap can begin with.
-/

namespace CellExpr.TokenCursor

open CellExpr.Text CellExpr.Number

variable {quote c d : Char} {s u v w content source : List Char} {n : Nat}

/-! ## Lengths -/

theorem digitRun_le (s : List Char) : digitRun s ≤ s.length := (List.takeWhile_prefix _).length_le

theorem fractionRun_le (s : List Char) : fractionRun s ≤ s.length := by
  unfold fractionRun
  split
  · rename_i rest
    have := digitRun_le rest
    rw [List.length_cons]
    split <;> omega
  · exact Nat.zero_le _

theorem exponentRun_le (s : List Char) : exponentRun s ≤ s.length := by
  unfold exponentRun
  split
  · rename_i c rest
    have hrest := digitRun_le rest
    split
    · split
      · rename_i sign digits
        have hdigits := digitRun_le digits
        simp only [List.length_cons] at hrest ⊢
        split <;> split <;> omega
      · exact Nat.zero_le _
    · exact Nat.zero_le _
  · exact Nat.zero_le _

theorem numberRun_le (s : List Char) : numberRun s ≤ s.length := by
  have hwhole := digitRun_le s
  have hfraction := fractionRun_le (s.drop (digitRun s))
  have hexponent := exponentRun_le (s.drop (digitRun s + fractionRun (s.drop (digitRun s))))
  rw [List.length_drop] at hfraction hexponent
  unfold numberRun
  dsimp only
  omega

/-- How many characters a string takes after its opening quote, at fault or not. -/
def StringRun.length : StringRun → Nat
  | closed _ length | badEscape _ _ length | unclosed length => length

theorem StringRun.length_push (c : Char) (places : Nat) (run : StringRun) :
    (run.push c places).length = run.length + places := by
  cases run <;> rfl

theorem StringRun.length_afterCode_le (code : List Char) (run : StringRun) :
    (run.afterCode code).length ≤ run.length + (code.length + 2) := by
  unfold afterCode
  split
  · rw [length_push]
  · exact Nat.le_add_left ..

theorem stringRun_le (quote : Char) (s : List Char) : (stringRun quote s).length ≤ s.length := by
  fun_induction stringRun quote s with
  | case1 => exact Nat.le_refl _
  | case2 => exact Nat.le_refl _
  | case3 a b c d rest ih =>
    have := StringRun.length_afterCode_le [a, b, c, d] (stringRun quote rest)
    simp only [List.length_cons, List.length_nil] at this ⊢
    omega
  | case4 code => exact Nat.le_trans (StringRun.length_afterCode_le ..) (by simp [StringRun.length])
  | case5 c rest _ _ ih =>
    rw [StringRun.length_push]
    simp only [List.length_cons]
    omega
  | case6 rest => exact Nat.succ_le_succ (Nat.zero_le _)
  | case7 c rest _ _ _ _ _ ih =>
    rw [StringRun.length_push]
    exact Nat.succ_le_succ ih

/-- How many characters the source of a regular expression takes, at fault or not. -/
def takenByRegex : Except Nat (List Char × Nat) → Nat
  | .ok (_, length) | .error length => length

theorem regexRun_le (s : List Char) : takenByRegex (regexRun s) ≤ s.length := by
  fun_induction regexRun s <;> simp_all [takenByRegex]

theorem markRun_le {m : Mark} (h : markRun c s = some (m, n)) : n ≤ s.length := by
  unfold markRun at h
  cases s with
  | nil =>
    obtain ⟨_, _, hm⟩ := Option.map_eq_some_iff.1 h
    exact Nat.le_of_eq (Prod.mk.inj hm).2.symm
  | cons d s =>
    split at h
    · cases h
      exact Nat.succ_le_succ (Nat.zero_le _)
    · obtain ⟨_, _, hm⟩ := Option.map_eq_some_iff.1 h
      exact (Prod.mk.inj hm).2 ▸ Nat.zero_le _

/-- A token takes no more characters than there are. -/
theorem tokenRun_le (afterOperand : Bool) (start : Nat) (c : Char) (s : List Char) :
    (tokenRun afterOperand start c s).2 ≤ s.length := by
  unfold tokenRun
  split
  · dsimp only
    split <;> exact numberRun_le s
  · split
    · exact (List.takeWhile_prefix _).length_le
    · split
      · have hrun := stringRun_le c s
        split <;> (rename_i heq; rw [heq] at hrun; exact hrun)
      · split
        · have hrun := regexRun_le s
          split
          · rename_i source length heq
            rw [heq] at hrun
            have hrun : length ≤ s.length := hrun
            dsimp only
            split
            · rename_i hi
              cases hdrop : s.drop length with
              | nil =>
                rw [hdrop] at hi
                cases hi
              | cons e rest =>
                have := congrArg List.length hdrop
                rw [List.length_drop, List.length_cons] at this
                omega
            · exact hrun
          · rename_i heq
            rw [heq] at hrun
            exact hrun
        · split
          · rename_i heq
            exact markRun_le heq
          · exact Nat.zero_le _

/-- An error shows at the beginning of its token, or within it. -/
theorem le_position_of_tokenRun {afterOperand : Bool} {start : Nat} {e : SyntaxError}
    (h : tokenRun afterOperand start c s = (.error e, n)) : start ≤ e.position := by
  unfold tokenRun at h
  split at h
  · dsimp only at h
    split at h <;> cases h
    exact Nat.le_refl _
  · split at h
    · cases h
    · split at h
      · split at h <;> cases h
        · exact Nat.le_trans (Nat.le_add_right ..) (Nat.le_add_right ..)
        · exact Nat.le_refl _
      · split at h
        · split at h <;> cases h
          exact Nat.le_refl _
        · split at h <;> cases h
          exact Nat.le_refl _

/-! ## Interruption -/

/-- A character that a gap can begin with goes on with no name. -/
theorem isNamePart_of_beginsGap (hd : BeginsGap d) : isNamePart d = false := by
  rcases hd with hd | rfl
  · exact isNamePart_of_isBlank hd
  · exact (isNamePart_of_ascii (by decide)).trans (by decide)

theorem isDigit_of_beginsGap (hd : BeginsGap d) : isDigit d = false := not_digit_of_not_namePart (isNamePart_of_beginsGap hd)

/-- What a text begins with as long as a condition holds, if the text is interrupted after it. -/
theorem takeWhile_interrupted {p : Char → Bool} (hp : p d = false) (h : ((u ++ v).takeWhile p).length ≤ u.length) :
    (u ++ d :: w).takeWhile p = (u ++ v).takeWhile p := by
  induction u with
  | nil =>
    rw [List.nil_append, List.nil_append, List.takeWhile_cons, hp]
    exact (List.length_eq_zero_iff.1 (Nat.le_zero.1 h)).symm
  | cons c u ih =>
    rw [List.cons_append, List.takeWhile_cons] at h ⊢
    rw [List.cons_append, List.takeWhile_cons]
    split
    · rename_i hc
      rw [if_pos hc, List.length_cons] at h
      rw [ih (Nat.le_of_succ_le_succ h)]
    · rfl

theorem digitRun_interrupted (hd : BeginsGap d) (h : digitRun (u ++ v) ≤ u.length) :
    digitRun (u ++ d :: w) = digitRun (u ++ v) :=
  congrArg List.length (takeWhile_interrupted (isDigit_of_beginsGap hd) h)

theorem fractionRun_interrupted (hd : BeginsGap d) (h : fractionRun (u ++ v) ≤ u.length) :
    fractionRun (u ++ d :: w) = fractionRun (u ++ v) := by
  cases u with
  | nil =>
    rw [List.nil_append] at h
    rw [List.nil_append, List.nil_append, Nat.le_zero.1 h, fractionRun]
    exact fun rest heq => hd.ne (by decide) (List.cons.inj heq).1
  | cons c u =>
    by_cases hc : c = '.'
    · subst hc
      rw [List.cons_append, fractionRun] at h ⊢
      have hdigits : digitRun (u ++ v) ≤ u.length := by
        rw [List.length_cons] at h
        split at h <;> omega
      rw [List.cons_append, fractionRun, digitRun_interrupted hd hdigits]
    · rw [List.cons_append, fractionRun, List.cons_append, fractionRun]
      all_goals exact fun rest heq => hc (List.cons.inj heq).1

theorem exponentRun_ne_one (s : List Char) : exponentRun s ≠ 1 := by
  unfold exponentRun
  repeat' split
  all_goals omega

theorem exponentRun_interrupted (hd : BeginsGap d) (h : exponentRun (u ++ v) ≤ u.length) :
    exponentRun (u ++ d :: w) = exponentRun (u ++ v) := by
  match u with
  | [] =>
    rw [List.nil_append] at h
    rw [List.nil_append, List.nil_append, Nat.le_zero.1 h]
    exact if_neg (not_or.2 ⟨hd.ne (by decide), hd.ne (by decide)⟩)
  | [c] =>
    -- one character is no exponent, and with what interrupts it it is none either
    have hone : exponentRun ([c] ++ v) ≤ 1 := h
    have hnone := exponentRun_ne_one ([c] ++ v)
    have hdigits : digitRun (d :: w) = 0 := by
      rw [digitRun, List.takeWhile_cons, isDigit_of_beginsGap hd]
      rfl
    rw [show exponentRun ([c] ++ v) = 0 by omega, List.singleton_append, exponentRun, hdigits,
      if_neg (not_or.2 ⟨hd.ne (by decide), hd.ne (by decide)⟩), if_pos rfl, ite_self]
  | c :: sign :: u =>
    simp only [List.cons_append, exponentRun, List.length_cons] at h ⊢
    split
    · rename_i hc
      rw [if_pos hc] at h
      split
      · rename_i hsign
        rw [if_pos hsign] at h
        have hdigits : digitRun (u ++ v) ≤ u.length := by split at h <;> omega
        rw [digitRun_interrupted hd hdigits]
      · rename_i hsign
        rw [if_neg hsign] at h
        have hdigits : digitRun (sign :: u ++ v) ≤ (sign :: u).length := by
          rw [List.cons_append, List.length_cons]
          split at h <;> omega
        have hsame := digitRun_interrupted (w := w) hd hdigits
        rw [List.cons_append, List.cons_append] at hsame
        rw [hsame]
    · rfl

theorem numberRun_interrupted (hd : BeginsGap d) (h : numberRun (u ++ v) ≤ u.length) :
    numberRun (u ++ d :: w) = numberRun (u ++ v) := by
  unfold numberRun at h ⊢
  dsimp only at h ⊢
  have hwhole : digitRun (u ++ v) ≤ u.length := by omega
  rw [List.drop_append_of_le_length hwhole] at h ⊢
  have hfraction : fractionRun (u.drop (digitRun (u ++ v)) ++ v) ≤ (u.drop (digitRun (u ++ v))).length := by
    rw [List.length_drop]
    omega
  have hsum : digitRun (u ++ v) + fractionRun (u.drop (digitRun (u ++ v)) ++ v) ≤ u.length := by omega
  rw [List.drop_append_of_le_length hsum] at h ⊢
  rw [digitRun_interrupted hd hwhole, List.drop_append_of_le_length hwhole, fractionRun_interrupted hd hfraction,
    List.drop_append_of_le_length hsum, exponentRun_interrupted hd]
  rw [List.length_drop]
  omega

theorem StringRun.push_eq_closed {run : StringRun} {places : Nat} :
    run.push c places = closed content n ↔
      ∃ tail length, run = closed tail length ∧ content = c :: tail ∧ n = length + places := by
  cases run <;> simp [push, eq_comm]

/-- A backslash is at the end of a text or has a character after it. -/
theorem ne_backslash (hlast : c = '\\' → s = [] → False) (hmore : ∀ d rest, c = '\\' → s = d :: rest → False) :
    c ≠ '\\' := by
  intro hc
  cases s with
  | nil => exact hlast hc rfl
  | cons d rest => exact hmore d rest hc rfl

theorem stringRun_cons (hc : c ≠ '\\') (rest : List Char) :
    stringRun quote (c :: rest) = if c = quote then .closed [] 1 else (stringRun quote rest).push c 1 := by
  rw [stringRun] <;> intros <;> contradiction

/-- A string is decided by the characters up to its closing quote. -/
theorem stringRun_closed (h : stringRun quote s = .closed content n) (w : List Char) :
    stringRun quote (s.take n ++ w) = .closed content n := by
  fun_induction stringRun quote s generalizing content n with
  | case1 => cases h
  | case2 => cases h
  | case3 a b c d rest ih =>
    unfold StringRun.afterCode at h
    split at h
    · rename_i e hcode
      obtain ⟨tail, length, hrun, rfl, rfl⟩ := StringRun.push_eq_closed.1 h
      change stringRun quote ('\\' :: 'u' :: a :: b :: c :: d :: (rest.take length ++ w)) = _
      rw [stringRun, ih hrun, StringRun.afterCode, hcode]
      rfl
    · cases h
  | case4 code =>
    unfold StringRun.afterCode at h
    split at h <;> cases h
  | case5 c rest _ hescape ih =>
    obtain ⟨tail, length, hrun, rfl, rfl⟩ := StringRun.push_eq_closed.1 h
    rw [List.take_succ_cons, List.take_succ_cons, List.cons_append, List.cons_append, stringRun, ih hrun]
    · rfl
    · exact fun _ _ _ _ _ hc _ => hescape hc
    · exact hescape
  | case6 rest hlast _ _ hmore =>
    obtain ⟨rfl, rfl⟩ := StringRun.closed.inj h
    exact (stringRun_cons (ne_backslash hlast hmore) w).trans (if_pos rfl)
  | case7 c rest hlast _ _ hmore hquote ih =>
    obtain ⟨tail, length, hrun, rfl, rfl⟩ := StringRun.push_eq_closed.1 h
    rw [List.take_succ_cons, List.cons_append, stringRun_cons (ne_backslash hlast hmore), if_neg hquote, ih hrun]
    rfl

theorem regexRun_cons (hslash : c ≠ '/') (hc : c ≠ '\\') (h : regexRun s = .ok (source, n)) :
    regexRun (c :: s) = .ok (c :: source, n + 1) := by
  rw [regexRun, h] <;> intros <;> contradiction

/-- The source of a regular expression is decided by the characters up to its closing slash. -/
theorem regexRun_closed (h : regexRun s = .ok (source, n)) (w : List Char) : regexRun (s.take n ++ w) = .ok (source, n) := by
  fun_induction regexRun s generalizing source n with
  | case1 => cases h
  | case2 =>
    obtain ⟨rfl, rfl⟩ := Prod.mk.inj (Except.ok.inj h)
    rfl
  | case3 => cases h
  | case4 c rest source' length hrun ih =>
    obtain ⟨rfl, rfl⟩ := Prod.mk.inj (Except.ok.inj h)
    rw [List.take_succ_cons, List.take_succ_cons, List.cons_append, List.cons_append, regexRun, ih hrun]
  | case5 => cases h
  | case6 c rest hslash hlast hmore source' length hrun ih =>
    obtain ⟨rfl, rfl⟩ := Prod.mk.inj (Except.ok.inj h)
    exact regexRun_cons hslash (ne_backslash hlast hmore) (ih hrun)
  | case7 => cases h

/-- What comes after the first characters of a text may be exchanged. -/
theorem take_append_exchange (hn : n ≤ u.length) : (u ++ v).take n ++ (u.drop n ++ w) = u ++ w := by
  rw [List.take_append_of_le_length hn, ← List.append_assoc, List.take_append_drop]

theorem stringRun_exchange (h : stringRun quote (u ++ v) = .closed content n) (hn : n ≤ u.length) :
    stringRun quote (u ++ w) = .closed content n := by
  have hclosed := stringRun_closed h (u.drop n ++ w)
  rwa [take_append_exchange hn] at hclosed

theorem regexRun_exchange (h : regexRun (u ++ v) = .ok (source, n)) (hn : n ≤ u.length) :
    regexRun (u ++ w) = .ok (source, n) := by
  have hclosed := regexRun_closed h (u.drop n ++ w)
  rwa [take_append_exchange hn] at hclosed

theorem doubleMark?_beginsGap (c : Char) (hd : BeginsGap d) : doubleMark? c d = none := by
  unfold doubleMark?
  split <;> first | rfl | (rcases hd with hd | hd <;> exact absurd hd (by decide))

theorem markRun_interrupted {m : Mark} (hd : BeginsGap d) (h : markRun c (u ++ v) = some (m, n)) (hn : n ≤ u.length) :
    markRun c (u ++ d :: w) = some (m, n) := by
  cases u with
  | cons e u => exact h
  | nil =>
    obtain rfl := Nat.le_zero.1 hn
    rw [List.nil_append, markRun, List.head?_cons, Option.bind_some, doubleMark?_beginsGap c hd]
    unfold markRun at h
    split at h
    · cases h
    · exact h

/-! ## Tokens -/

/-- Whether a character begins a number: a digit, or a point between no operand and a digit. -/
def BeginsNumber (afterOperand : Bool) (c : Char) (s : List Char) : Prop :=
  isDigit c = true ∨ (c = '.' ∧ (!afterOperand) = true ∧ digitRun s ≠ 0)

/-- `TokenAt a c s k n`: the character `c` and the first `n` of the characters `s` are a token of kind `k`. -/
inductive TokenAt (afterOperand : Bool) (c : Char) (s : List Char) : TokenKind → Nat → Prop where
  | number {x : Float} (hc : BeginsNumber afterOperand c s) (hx : Number.read? (c :: s.take (numberRun s)) = some x) :
      TokenAt afterOperand c s (.number x) (numberRun s)
  | word (hnumber : ¬BeginsNumber afterOperand c s) (hc : isAlphabetic c = true ∨ c = '_') :
      TokenAt afterOperand c s (wordKind (String.ofList (c :: s.takeWhile isNamePart))) (s.takeWhile isNamePart).length
  | string {content : List Char} {n : Nat} (hnumber : ¬BeginsNumber afterOperand c s)
      (hword : ¬(isAlphabetic c = true ∨ c = '_')) (hc : c = '"' ∨ c = '\x27') (hrun : stringRun c s = .closed content n) :
      TokenAt afterOperand c s (.string (String.ofList content)) n
  | regex {source : List Char} {n : Nat} (hnumber : ¬BeginsNumber afterOperand c s)
      (hword : ¬(isAlphabetic c = true ∨ c = '_')) (hquote : ¬(c = '"' ∨ c = '\x27'))
      (hc : c = '/' ∧ (!afterOperand) = true) (hrun : regexRun s = .ok (source, n)) :
      TokenAt afterOperand c s (.regex (String.ofList source) ((s.drop n).head? == some 'i'))
        (if (s.drop n).head? == some 'i' then n + 1 else n)
  | mark {m : Mark} {n : Nat} (hnumber : ¬BeginsNumber afterOperand c s) (hword : ¬(isAlphabetic c = true ∨ c = '_'))
      (hquote : ¬(c = '"' ∨ c = '\x27')) (hregex : ¬(c = '/' ∧ (!afterOperand) = true)) (hrun : markRun c s = some (m, n)) :
      TokenAt afterOperand c s (.mark m) n

variable {afterOperand : Bool} {start position : Nat} {k : TokenKind} {gap word rest : List Char} {e : SyntaxError}

/-- A token that is read is the same one wherever it begins. -/
theorem tokenRun_eq_ok_iff : tokenRun afterOperand start c s = (.ok k, n) ↔ TokenAt afterOperand c s k n := by
  constructor
  · intro h
    unfold tokenRun at h
    split at h
    · rename_i hnumber
      dsimp only at h
      split at h
      · rename_i hx
        cases h
        exact .number hnumber hx
      · cases h
    · rename_i hnumber
      split at h
      · rename_i hword
        cases h
        exact .word hnumber hword
      · rename_i hword
        split at h
        · rename_i hquote
          split at h
          · rename_i hrun
            cases h
            exact .string hnumber hword hquote hrun
          · cases h
          · cases h
        · rename_i hquote
          split at h
          · rename_i hregex
            split at h
            · rename_i hrun
              cases h
              exact .regex hnumber hword hquote hregex hrun
            · cases h
          · rename_i hregex
            split at h
            · rename_i hrun
              cases h
              exact .mark hnumber hword hquote hregex hrun
            · cases h
  · intro h
    cases h with
    | number hc hx =>
      unfold BeginsNumber at hc
      rw [tokenRun, if_pos hc]
      simp only [hx]
    | word hnumber hc =>
      unfold BeginsNumber at hnumber
      rw [tokenRun, if_neg hnumber, if_pos hc]
    | string hnumber hword hc hrun =>
      unfold BeginsNumber at hnumber
      rw [tokenRun, if_neg hnumber, if_neg hword, if_pos hc, hrun]
    | regex hnumber hword hquote hc hrun =>
      unfold BeginsNumber at hnumber
      rw [tokenRun, if_neg hnumber, if_neg hword, if_neg hquote, if_pos hc, hrun]
    | mark hnumber hword hquote hregex hrun =>
      unfold BeginsNumber at hnumber
      rw [tokenRun, if_neg hnumber, if_neg hword, if_neg hquote, if_neg hregex, hrun]

/-- What begins no number begins none if a gap comes in later. -/
theorem not_beginsNumber_interrupted (hd : BeginsGap d) (h : ¬BeginsNumber afterOperand c (u ++ v)) :
    ¬BeginsNumber afterOperand c (u ++ d :: w) := by
  rintro (hdigit | ⟨hdot, hafter, hdigits⟩)
  · exact h (.inl hdigit)
  · have hzero : digitRun (u ++ v) = 0 := by
      by_contra hne
      exact h (.inr ⟨hdot, hafter, hne⟩)
    rw [digitRun_interrupted hd (hzero ▸ Nat.zero_le _)] at hdigits
    exact hdigits hzero

/-- A token that a gap interrupts, at its end or later, is the same token. -/
theorem TokenAt.interrupted (hd : BeginsGap d) (h : TokenAt afterOperand c (u ++ v) k n) (hn : n ≤ u.length) (w : List Char) :
    TokenAt afterOperand c (u ++ d :: w) k n := by
  cases h with
  | number hc hx =>
    have hrun := numberRun_interrupted (w := w) hd hn
    have hdigits : digitRun (u ++ d :: w) = digitRun (u ++ v) :=
      digitRun_interrupted hd (Nat.le_trans (Nat.le_add_right_of_le (Nat.le_add_right ..)) hn)
    have hc' : BeginsNumber afterOperand c (u ++ d :: w) := by
      unfold BeginsNumber
      rwa [hdigits]
    rw [List.take_append_of_le_length hn] at hx
    rw [← hrun] at hn hx ⊢
    exact .number hc' (by rwa [List.take_append_of_le_length hn])
  | word hnumber hc =>
    have htake := takeWhile_interrupted (w := w) (isNamePart_of_beginsGap hd) hn
    rw [← htake]
    exact .word (not_beginsNumber_interrupted hd hnumber) hc
  | string hnumber hword hc hrun =>
    exact .string (not_beginsNumber_interrupted hd hnumber) hword hc (stringRun_exchange hrun hn)
  | @regex source n hnumber hword hquote hc hrun =>
    have hle : n ≤ u.length := by split at hn <;> omega
    -- whether a letter comes after the closing slash is seen before the gap or at it
    have hflag : (((u ++ d :: w).drop n).head? == some 'i') = (((u ++ v).drop n).head? == some 'i') := by
      cases hdrop : u.drop n with
      | cons e rest =>
        rw [List.drop_append_of_le_length hle, List.drop_append_of_le_length hle, hdrop]
        rfl
      | nil =>
        have hlength := List.drop_eq_nil_iff.1 hdrop
        have hi : ¬(((u ++ v).drop n).head? == some 'i') = true := by
          intro hi
          rw [if_pos hi] at hn
          omega
        rw [Bool.eq_false_iff.2 hi, List.drop_append_of_le_length hle, hdrop]
        simpa using hd.ne (by decide)
    rw [← hflag]
    exact .regex (not_beginsNumber_interrupted hd hnumber) hword hquote hc (regexRun_exchange hrun hle)
  | mark hnumber hword hquote hregex hrun =>
    exact .mark (not_beginsNumber_interrupted hd hnumber) hword hquote hregex (markRun_interrupted hd hrun hn)

/-! ## The next token -/

/-- The gap at which a cursor stands is passed over. -/
theorem skipGap_append {next : List Char} (hgap : GapBefore next gap) (hnext : ∀ c ∈ next.head?, ¬BeginsGap c) :
    skipGap ⟨gap ++ next, position, afterOperand⟩ = ⟨next, position + gap.length, afterOperand⟩ := by
  rw [skipGap]
  simp only [gapLength_append hgap hnext, List.drop_left]

theorem next_finish (hgap : GapBefore [] gap) :
    next ⟨gap, position, afterOperand⟩ =
      (.ok (.ending (position + gap.length)), ⟨[], position + gap.length, afterOperand⟩) := by
  have hskip : skipGap ⟨gap ++ [], position, afterOperand⟩ = ⟨[], position + gap.length, afterOperand⟩ :=
    skipGap_append hgap nofun
  rw [List.append_nil] at hskip
  rw [next, hskip]

/-- After a gap a token is read, and the cursor stands after it. -/
theorem next_token (hgap : GapBefore (c :: (word ++ rest)) gap) (hc : ¬BeginsGap c)
    (hrun : TokenAt afterOperand c (word ++ rest) k word.length) :
    next ⟨gap ++ c :: (word ++ rest), position, afterOperand⟩ =
      (.ok ⟨k, c :: word, position + gap.length⟩, ⟨rest, position + gap.length + 1 + word.length, k.endsOperand⟩) := by
  rw [next, skipGap_append hgap fun d hd => Option.some.inj hd ▸ hc]
  simp only [tokenRun_eq_ok_iff.2 hrun, List.take_left, List.drop_left]

theorem next_error {length : Nat} (hgap : GapBefore (c :: rest) gap) (hc : ¬BeginsGap c)
    (hrun : tokenRun afterOperand (position + gap.length) c rest = (.error e, length)) :
    ∃ after, next ⟨gap ++ c :: rest, position, afterOperand⟩ = (.error e, after) := by
  rw [next, skipGap_append hgap fun d hd => Option.some.inj hd ▸ hc]
  simp only [hrun]
  exact ⟨_, rfl⟩

end CellExpr.TokenCursor
