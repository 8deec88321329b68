import CellExpr.Proofs.Evaluation.NumericTexts
import CellExpr.Proofs.Scanning.Extent
import CellExpr.Proofs.Text.Words

/-!
# Numbers in a text

A number goes as far as it can: digits, a point only before a digit, a power of ten only with a digit (`IsStretch`, `isLongest_number`).
Where a point begins it, its digits may have a second point after them; it is then no number, and only then (`IsStretch.read?`). What a
source of tokens gives is settled by the text after the place where it stands (`Reached.rest_eq`), so all this holds of every source that
comes of a text (`reads_numbers`).
-/

namespace CellExpr

open CellExpr.Text CellExpr.Number TokenCursor

variable {s t rest digits exponent fraction word ahead gap text lexeme : List Char} {c d : Char} {e : Int} {n start position : Nat}
  {afterOperand : Bool} {x : Float}

/-! ## The longest stretch -/

/-- A point and digits. -/
def IsFraction (s : List Char) : Prop := ∃ digits, IsDigits digits ∧ s = '.' :: digits

/-- Digits, then perhaps a point and digits, and then perhaps a power of ten. -/
inductive IsUnpointed : List Char → Prop where
  | mk {whole fraction exponent : List Char} {e : Int} (hwhole : IsDigits whole) (hfraction : fraction = [] ∨ IsFraction fraction)
      (hexponent : SpellsExponent exponent e) : IsUnpointed (whole ++ (fraction ++ exponent))

/-- How a number may go on: from a digit, or from a point before a digit. -/
inductive IsStretch : List Char → Prop where
  | unpointed {s : List Char} (h : IsUnpointed s) : IsStretch s
  | pointed {s : List Char} (h : IsUnpointed s) : IsStretch ('.' :: s)

/-- The longest of the texts of a kind with which a text begins. -/
structure IsLongest (p : List Char → Prop) (text word : List Char) : Prop where
  begins : word <+: text
  isOne : p word
  longest : ∀ other, other <+: text → p other → other.length ≤ word.length

namespace TokenCursor

/-! ## Runs are of the kind that they count -/

theorem take_digitRun (s : List Char) : s.take (digitRun s) = s.takeWhile isDigit :=
  (List.prefix_iff_eq_take.1 (List.takeWhile_prefix isDigit)).symm

theorem isDigits_take_digitRun (h : digitRun s ≠ 0) : IsDigits (s.take (digitRun s)) := by
  rw [take_digitRun]
  exact ⟨List.length_pos_iff.1 (Nat.pos_of_ne_zero h), fun _ => isDigit_of_mem_takeWhile⟩

theorem isFraction_take_fractionRun (s : List Char) : s.take (fractionRun s) = [] ∨ IsFraction (s.take (fractionRun s)) := by
  unfold fractionRun
  split
  · rename_i rest
    split
    · exact .inl rfl
    · exact .inr ⟨_, isDigits_take_digitRun ‹_›, rfl⟩
  · exact .inl rfl

theorem spellsExponent_take_exponentRun (s : List Char) : ∃ e, SpellsExponent (s.take (exponentRun s)) e := by
  unfold exponentRun
  split
  · rename_i c rest
    split
    · rename_i hc
      split
      · rename_i sign digits
        split
        · rename_i hsign
          split
          · exact ⟨0, .absent⟩
          · rename_i hdigits
            rcases hsign with rfl | rfl
            · exact ⟨_, .given hc .plus (isDigits_take_digitRun hdigits)⟩
            · exact ⟨_, .given hc .minus (isDigits_take_digitRun hdigits)⟩
        · split
          · exact ⟨0, .absent⟩
          · exact ⟨_, .given hc .absent (isDigits_take_digitRun ‹_›)⟩
      · exact ⟨0, .absent⟩
    · exact ⟨0, .absent⟩
  · exact ⟨0, .absent⟩

/-- A run that begins with a digit is a stretch. -/
theorem isUnpointed_take_numberRun (h : digitRun s ≠ 0) : IsUnpointed (s.take (numberRun s)) := by
  obtain ⟨e, he⟩ := spellsExponent_take_exponentRun (s.drop (digitRun s + fractionRun (s.drop (digitRun s))))
  have hfraction := isFraction_take_fractionRun (s.drop (digitRun s))
  have hparts := IsUnpointed.mk (isDigits_take_digitRun h) hfraction he
  rwa [← List.append_assoc, ← List.take_add, ← List.take_add] at hparts

/-! ## Nothing longer is -/

theorem digitRun_cons (hd : isDigit d = true) (s : List Char) : digitRun (d :: s) = digitRun s + 1 := by
  rw [digitRun, List.takeWhile_cons_of_pos hd]
  rfl

theorem digitRun_eq_zero (h : Undigited s) : digitRun s = 0 := by
  cases s with
  | nil => rfl
  | cons c s =>
    rw [digitRun, List.takeWhile_cons_of_neg (Bool.eq_false_iff.1 (h c rfl))]
    rfl

/-- Digits with which a text begins are all its digits, or nothing comes after them. -/
theorem digits_prefix (hdigits : ∀ c ∈ digits, isDigit c = true) (ht : Undigited t) (h : digits ++ t <+: s) :
    (digits.length = digitRun s ∧ t <+: s.drop (digitRun s)) ∨ (digits.length ≤ digitRun s ∧ t = []) := by
  induction digits generalizing s with
  | nil =>
    cases t with
    | nil => exact .inr ⟨Nat.zero_le _, rfl⟩
    | cons c t =>
      obtain ⟨more, rfl⟩ := h
      have hnone : digitRun (c :: (t ++ more)) = 0 := digitRun_eq_zero ht
      refine .inl ⟨hnone.symm, ?_⟩
      rw [List.nil_append, List.cons_append, hnone]
      exact List.prefix_append (c :: t) more
  | cons d digits ih =>
    obtain ⟨more, rfl⟩ := h
    have hrest : digits ++ t <+: digits ++ t ++ more := List.prefix_append ..
    have hrun := digitRun_cons (hdigits d (.head _)) (digits ++ t ++ more)
    rw [List.cons_append, List.cons_append, hrun, List.length_cons, List.drop_succ_cons]
    exact (ih (fun c hc => hdigits c (.tail _ hc)) hrest).imp (.imp_left (congrArg (· + 1))) (.imp_left Nat.succ_le_succ)

theorem length_le_digitRun (hdigits : IsDigits digits) (h : digits <+: s) : digits.length ≤ digitRun s := by
  rcases digits_prefix (t := []) hdigits.2 nofun ((List.append_nil digits).symm ▸ h) with ⟨heq, -⟩ | ⟨hle, -⟩
  · exact Nat.le_of_eq heq
  · exact hle

theorem length_le_exponentRun (hexponent : SpellsExponent exponent e) (h : exponent <+: s) : exponent.length ≤ exponentRun s := by
  cases hexponent with
  | absent => exact Nat.zero_le _
  | @given c sign digits negative hc hsign hdigits =>
    obtain ⟨more, rfl⟩ := h
    have hrun := length_le_digitRun hdigits (List.prefix_append digits more)
    have hpos := List.length_pos_iff.2 hdigits.1
    cases hsign with
    | plus | minus =>
      rw [exponentRun.eq_def]
      simp only [List.cons_append, List.nil_append, List.length_cons]
      rw [if_pos hc, if_pos (by decide), if_neg (by omega)]
      omega
    | absent =>
      obtain ⟨d, digits, rfl⟩ := List.exists_cons_of_ne_nil hdigits.1
      have hd : ¬(d = '+' ∨ d = '-') := not_or.2 (hdigits.unsigned [] d rfl)
      rw [exponentRun.eq_def]
      simp only [List.cons_append, List.nil_append, List.length_cons] at hrun ⊢
      rw [if_pos hc, if_neg hd, if_neg (by omega)]
      omega

theorem fractionRun_eq_zero (h : ∀ c ∈ s.head?, c ≠ '.') : fractionRun s = 0 := by
  unfold fractionRun
  split
  · exact absurd rfl (h '.' rfl)
  · rfl

/-- What a number may have after its digits goes no further than the runs. -/
theorem length_le_fractionRun (hfraction : fraction = [] ∨ IsFraction fraction) (hexponent : SpellsExponent exponent e)
    (h : fraction ++ exponent <+: s) : (fraction ++ exponent).length ≤ fractionRun s + exponentRun (s.drop (fractionRun s)) := by
  rcases hfraction with rfl | ⟨digits, hdigits, rfl⟩
  · cases exponent with
    | nil => exact Nat.zero_le _
    | cons c exponent =>
      have hpoint : fractionRun s = 0 := by
        obtain ⟨more, rfl⟩ := h
        exact fractionRun_eq_zero fun d hd => (hexponent.head d hd).2
      rw [hpoint, Nat.zero_add]
      exact length_le_exponentRun hexponent h
  · obtain ⟨more, rfl⟩ := h
    have hrest : digits ++ exponent <+: digits ++ exponent ++ more := List.prefix_append ..
    have hpos := List.length_pos_iff.2 hdigits.1
    simp only [List.cons_append, List.length_cons, List.length_append]
    rcases digits_prefix hdigits.2 hexponent.undigited hrest with ⟨hlength, hexp⟩ | ⟨hlength, rfl⟩
    · rw [fractionRun, if_neg (by omega), List.drop_succ_cons]
      have := length_le_exponentRun hexponent hexp
      omega
    · rw [fractionRun, if_neg (by omega)]
      simp only [List.length_nil]
      omega

/-- A stretch goes no further than the run. -/
theorem length_le_numberRun (hword : IsUnpointed word) (h : word <+: s) : word.length ≤ numberRun s := by
  cases hword with
  | @mk whole fraction exponent e hwhole hfraction hexponent =>
    have hafter : Undigited (fraction ++ exponent) := by
      rcases hfraction with rfl | ⟨digits, -, rfl⟩
      · exact hexponent.undigited
      · exact undigited_point _
    rw [List.length_append, numberRun]
    rcases digits_prefix hwhole.2 hafter h with ⟨hlength, hrest⟩ | ⟨hlength, hnone⟩
    · have := length_le_fractionRun hfraction hexponent hrest
      rw [List.drop_drop] at this
      omega
    · rw [hnone, List.length_nil]
      omega

/-- A text that begins with a digit begins with the run as the longest stretch without a point before it. -/
theorem isLongest_unpointed (h : digitRun s ≠ 0) : IsLongest IsUnpointed s (s.take (numberRun s)) where
  begins := List.take_prefix ..
  isOne := isUnpointed_take_numberRun h
  longest other hbegins hother := by
    rw [List.length_take_of_le (numberRun_le s)]
    exact length_le_numberRun hother hbegins

/-! ## Where a number begins -/

theorem digitRun_ne_zero_iff : digitRun s ≠ 0 ↔ ∃ d rest, s = d :: rest ∧ isDigit d = true := by
  constructor
  · intro h
    cases s with
    | nil => exact absurd rfl h
    | cons d s =>
      refine ⟨d, s, rfl, ?_⟩
      by_contra hd
      exact h (digitRun_eq_zero fun e he => Option.some.inj he ▸ Bool.eq_false_iff.2 hd)
  · rintro ⟨d, rest, rfl, hd⟩
    rw [digitRun_cons hd]
    exact Nat.succ_ne_zero _

theorem numberRun_cons (hd : isDigit d = true) (s : List Char) : numberRun (d :: s) = numberRun s + 1 := by
  simp only [numberRun, digitRun_cons hd, List.drop_succ_cons, Nat.add_right_comm _ 1]

end TokenCursor

theorem IsUnpointed.head (h : IsUnpointed s) : ∃ d rest, s = d :: rest ∧ isDigit d = true := by
  cases h with
  | mk hwhole =>
    obtain ⟨d, whole, rfl⟩ := List.exists_cons_of_ne_nil hwhole.1
    exact ⟨d, _, rfl, hwhole.2 d (.head _)⟩

/-- A number comes next: a digit, or a point before a digit where no operand has come before it. -/
inductive NumberAhead (afterOperand : Bool) : List Char → Prop where
  | digit {d : Char} {rest : List Char} (hd : isDigit d = true) : NumberAhead afterOperand (d :: rest)
  | point {d : Char} {rest : List Char} (hoperand : afterOperand = false) (hd : isDigit d = true) :
      NumberAhead afterOperand ('.' :: d :: rest)

theorem beginsNumber_iff : BeginsNumber afterOperand c s ↔ NumberAhead afterOperand (c :: s) := by
  constructor
  · rintro (hc | ⟨rfl, hoperand, hdigits⟩)
    · exact .digit hc
    · obtain ⟨d, rest, rfl, hd⟩ := digitRun_ne_zero_iff.1 hdigits
      exact .point (by simpa using hoperand) hd
  · intro h
    cases h with
    | digit hc => exact .inl hc
    | point hoperand hd => exact .inr ⟨rfl, by simpa using hoperand, digitRun_ne_zero_iff.2 ⟨_, _, rfl, hd⟩⟩

/-- A number takes the longest stretch that is there. -/
theorem isLongest_number (h : NumberAhead afterOperand (c :: s)) : IsLongest IsStretch (c :: s) (c :: s.take (numberRun s)) := by
  cases h with
  | digit hc =>
    have hlongest := isLongest_unpointed (s := c :: s) (digitRun_ne_zero_iff.2 ⟨c, s, rfl, hc⟩)
    rw [numberRun_cons hc, List.take_succ_cons] at hlongest
    refine ⟨hlongest.begins, .unpointed hlongest.isOne, fun other hbegins hother => ?_⟩
    cases hother with
    | unpointed hother => exact hlongest.longest other hbegins hother
    | pointed =>
      -- a stretch with a point before it does not begin with a digit
      obtain rfl := (List.cons_prefix_cons.1 hbegins).1
      cases hc
  | @point d rest hoperand hd =>
    have hlongest := isLongest_unpointed (s := d :: rest) (digitRun_ne_zero_iff.2 ⟨d, rest, rfl, hd⟩)
    refine ⟨List.cons_prefix_cons.2 ⟨rfl, hlongest.begins⟩, .pointed hlongest.isOne, fun other hbegins hother => ?_⟩
    cases hother with
    | unpointed hother =>
      obtain ⟨e, more, rfl, he⟩ := hother.head
      obtain rfl := (List.cons_prefix_cons.1 hbegins).1
      cases he
    | pointed hother => exact Nat.succ_le_succ (hlongest.longest _ (List.cons_prefix_cons.1 hbegins).2 hother)

/-- The point of a method call is no part of the number before it, and an exponent without a digit is none. -/
example : numberRun ['.', 't', 'o'] = 0 ∧ numberRun ['.', '5', 'e', '+', ')'] = 2 := by decide

/-! ## What a stretch is read as -/

/-- A point, digits, and a second point before a digit. -/
def HasSecondPoint (s : List Char) : Prop :=
  ∃ digits d rest, s = '.' :: (digits ++ '.' :: d :: rest) ∧ IsDigits digits ∧ isDigit d = true

/-- A number that begins with a point is none with a second point after its digits. -/
theorem read?_eq_none_of_secondPoint (h : HasSecondPoint s) : read? s = none := by
  obtain ⟨digits, d, rest, rfl, hdigits, -⟩ := h
  obtain ⟨htake, hdrop⟩ := takeWhile_append hdigits.2 (undigited_point (d :: rest))
  have hpoint : ('.' :: (digits ++ '.' :: d :: rest)).dropWhile isDigit = '.' :: (digits ++ '.' :: d :: rest) := rfl
  have hread : readDecimal ('.' :: (digits ++ '.' :: d :: rest)) = none := by
    rw [readDecimal_of_point hpoint, htake, hdrop, List.isEmpty_eq_false_iff.2 hdigits.1, Bool.and_false, if_neg Bool.false_ne_true]
    rfl
  have hsign : takeSign ('.' :: (digits ++ '.' :: d :: rest)) = (false, '.' :: (digits ++ '.' :: d :: rest)) := rfl
  rw [read?, hsign]
  simp only [hread, Option.map_none]

/-- A stretch spells a number, or has a second point. -/
theorem IsStretch.spells_or_hasSecondPoint (h : IsStretch s) : (∃ q, Spells s false q) ∨ HasSecondPoint s := by
  have hspells {mantissa digits exponent : List Char} {places : Nat} {e : Int} (hdigits : SpellsDigits mantissa digits places)
      (hexponent : SpellsExponent exponent e) : ∃ q, Spells (mantissa ++ exponent) false q := ⟨_, .mk .absent hdigits hexponent⟩
  cases h with
  | unpointed h =>
    cases h with
    | mk hwhole hfraction hexponent =>
      rcases hfraction with rfl | ⟨digits, hdigits, rfl⟩
      · exact .inl (hspells (.whole hwhole) hexponent)
      · rw [← List.append_assoc]
        exact .inl (hspells (.fraction hwhole hdigits) hexponent)
  | pointed h =>
    cases h with
    | mk hwhole hfraction hexponent =>
      rcases hfraction with rfl | ⟨digits, hdigits, rfl⟩
      · exact .inl (hspells (.onlyFraction hwhole) hexponent)
      · obtain ⟨d, digits, rfl⟩ := List.exists_cons_of_ne_nil hdigits.1
        exact .inr ⟨_, d, _, rfl, hwhole, hdigits.2 d (.head _)⟩

/-- A stretch is no number if and only if it has a second point. -/
theorem IsStretch.read?_eq_none_iff (h : IsStretch s) : read? s = none ↔ HasSecondPoint s := by
  refine ⟨fun hnone => h.spells_or_hasSecondPoint.resolve_left ?_, read?_eq_none_of_secondPoint⟩
  rintro ⟨q, hspells⟩
  obtain ⟨x, hx, -⟩ := hspells.read?
  rw [hnone] at hx
  cases hx

/-- The longest stretch has a second point if and only if the text has. -/
theorem IsLongest.hasSecondPoint_iff (h : IsLongest IsStretch text word) : HasSecondPoint word ↔ HasSecondPoint text := by
  obtain ⟨more, rfl⟩ := h.begins
  constructor
  · rintro ⟨digits, d, rest, rfl, hdigits, hd⟩
    exact ⟨digits, d, rest ++ more, by simp only [List.cons_append, List.append_assoc], hdigits, hd⟩
  · rintro ⟨digits, d, rest, htext, hdigits, hd⟩
    -- up to the digit after the second point the text is a stretch
    have hstretch : IsStretch ('.' :: (digits ++ ['.', d])) :=
      .pointed (.mk hdigits (.inr ⟨[d], ⟨nofun, fun c hc => List.mem_singleton.1 hc ▸ hd⟩, rfl⟩) .absent)
    have hbegins : '.' :: (digits ++ ['.', d]) <+: word ++ more :=
      htext ▸ ⟨rest, by simp only [List.cons_append, List.append_assoc, List.nil_append]⟩
    obtain ⟨tail, rfl⟩ := List.prefix_of_prefix_length_le hbegins (List.prefix_append ..) (h.longest _ hbegins hstretch)
    exact ⟨digits, d, tail, by simp only [List.cons_append, List.append_assoc, List.nil_append], hdigits, hd⟩

/-! ## The tokens that are numbers -/

/-- A text that is a number as it stands has no blank characters around it. -/
theorem parse?_of_read? (h : read? word = some x) : parse? (String.ofList word) = some x := by
  obtain ⟨negative, q, hspells, -⟩ := read?_eq_some_iff.1 h
  have hsolid : ∀ c ∈ word, isBlank c = false := by
    intro c hc
    rcases hspells.mem c hc with hdigit | hother
    · by_contra hblank
      rw [not_digit_of_not_namePart (isNamePart_of_isBlank (Bool.not_eq_false _ ▸ hblank))] at hdigit
      cases hdigit
    · simp only [List.mem_cons, List.not_mem_nil, or_false] at hother
      rcases hother with rfl | rfl | rfl | rfl | rfl <;> decide
  have htrim : trim word = word :=
    trim_eq_self (fun c hc => hsolid c (List.mem_of_mem_head? hc)) fun c hc => hsolid c (List.mem_of_getLast? hc)
  rw [parse?, String.toList_ofList, htrim, h]

namespace TokenCursor

theorem tokenRun_of_numberAhead (h : NumberAhead afterOperand (c :: s)) :
    tokenRun afterOperand start c s =
      (match read? (c :: s.take (numberRun s)) with
        | some x => .ok (.number x)
        | none => .error ⟨.invalidNumber, start, some (String.ofList (c :: s.take (numberRun s)))⟩, numberRun s) := by
  have hnumber := beginsNumber_iff.2 h
  unfold BeginsNumber at hnumber
  rw [tokenRun, if_pos hnumber]
  dsimp only
  cases read? (c :: s.take (numberRun s)) <;> rfl

theorem wordKind_ne_number (w : String) (x : Float) : wordKind w ≠ .number x := by
  unfold wordKind
  split <;> nofun

/-- A token is a number only where one comes next. -/
theorem numberAhead_of_tokenRun (h : tokenRun afterOperand start c s = (.ok (.number x), n)) : NumberAhead afterOperand (c :: s) := by
  have htoken := tokenRun_eq_ok_iff.1 h
  generalize hk : TokenKind.number x = k at htoken
  cases htoken with
  | number hc => exact beginsNumber_iff.1 hc
  | word => exact absurd hk.symm (wordKind_ne_number _ x)
  | _ => cases hk

/-- What may be at fault with a token that is no number. -/
theorem fault_of_not_numberAhead {e : SyntaxError} (h : ¬NumberAhead afterOperand (c :: s))
    (hrun : tokenRun afterOperand start c s = (.error e, n)) :
    e.fault ∈ [.unexpectedCharacter, .invalidEscape, .unterminatedString, .unterminatedRegex] := by
  have hnumber := mt beginsNumber_iff.1 h
  unfold BeginsNumber at hnumber
  rw [tokenRun, if_neg hnumber] at hrun
  split at hrun
  · cases hrun
  · split at hrun
    · split at hrun <;> cases hrun <;> simp
    · split at hrun
      · split at hrun <;> cases hrun
        simp
      · split at hrun <;> cases hrun
        simp

theorem message_of_not_numberAhead {e : SyntaxError} (h : ¬NumberAhead afterOperand (c :: s))
    (hrun : tokenRun afterOperand start c s = (.error e, n)) : e.message ≠ "Invalid number" := by
  have hothers : ∀ fault ∈ [SyntaxFault.unexpectedCharacter, .invalidEscape, .unterminatedString, .unterminatedRegex],
      fault.message ≠ "Invalid number" := by decide
  exact hothers _ (fault_of_not_numberAhead h hrun)

end TokenCursor

/-- What is given from a place on, before which there is an operand or not, and where that ends, as far as numbers go. -/
structure ReadsNumbers (afterOperand : Bool) (start : Nat) (ahead : List Char) (item : Except SyntaxError Token) (stop : Nat) :
    Prop where
  /-- A number takes the longest stretch, in the text and in the error. -/
  longest : NumberAhead afterOperand ahead →
    ∃ word, IsLongest IsStretch ahead word ∧ stop = start + word.length ∧
      ((∃ x, item = .ok ⟨.number x, word, start⟩) ∨ item = .error ⟨.invalidNumber, start, some (String.ofList word)⟩)
  /-- The value of a number is what its lexeme is as a text. -/
  value : ∀ x lexeme place, item = .ok ⟨.number x, lexeme, place⟩ →
    NumberAhead afterOperand ahead ∧ parse? (String.ofList lexeme) = some x ∧
      ∀ now scope, ((Registry.standard now).call "toNumber" [.string (String.ofList lexeme)] scope).value = .number x
  /-- It is no number if and only if there is a second point. -/
  invalid : (∃ e, item = .error e ∧ e.message = "Invalid number") ↔ afterOperand = false ∧ HasSecondPoint ahead

theorem HasSecondPoint.numberAhead (h : HasSecondPoint ahead) (hoperand : afterOperand = false) : NumberAhead afterOperand ahead := by
  obtain ⟨digits, d, rest, rfl, hdigits, -⟩ := h
  obtain ⟨first, digits, rfl⟩ := List.exists_cons_of_ne_nil hdigits.1
  exact .point hoperand (hdigits.2 first (.head _))

theorem NumberAhead.afterOperand_eq (h : NumberAhead afterOperand ahead) (hpoint : HasSecondPoint ahead) : afterOperand = false := by
  obtain ⟨digits, d, rest, rfl, -⟩ := hpoint
  generalize digits ++ '.' :: d :: rest = tail at h
  cases h with
  | digit hd => cases hd
  | point hoperand => exact hoperand

namespace TokenCursor

/-- What a cursor gives after the gap at which it stands. -/
theorem next_of_tokenRun (hgap : GapBefore (c :: rest) gap) (hc : ¬BeginsGap c) :
    next ⟨gap ++ c :: rest, position, afterOperand⟩ =
      match tokenRun afterOperand (position + gap.length) c rest with
      | (.ok k, n) =>
        (.ok ⟨k, c :: rest.take n, position + gap.length⟩, ⟨rest.drop n, position + gap.length + 1 + n, k.endsOperand⟩)
      | (.error e, n) => (.error e, ⟨rest.drop n, position + gap.length + 1 + n, afterOperand⟩) := by
  rw [next, skipGap_append hgap fun d hd => Option.some.inj hd ▸ hc]
  dsimp only
  obtain ⟨kind, n⟩ := tokenRun afterOperand (position + gap.length) c rest
  cases kind <;> rfl

/-- A cursor reads numbers as they are spelled. -/
theorem readsNumbers_next (afterOperand : Bool) (position : Nat) (hgap : GapBefore ahead gap)
    (hahead : ∀ c ∈ ahead.head?, ¬BeginsGap c) :
    ReadsNumbers afterOperand (position + gap.length) ahead (next ⟨gap ++ ahead, position, afterOperand⟩).1
      (next ⟨gap ++ ahead, position, afterOperand⟩).2.position := by
  cases ahead with
  | nil =>
    rw [List.append_nil, next_finish hgap]
    refine ⟨nofun, nofun, ⟨nofun, ?_⟩⟩
    rintro ⟨-, _, _, _, heq, -⟩
    cases heq
  | cons c rest =>
    rw [next_of_tokenRun hgap (hahead c rfl)]
    by_cases hnumber : NumberAhead afterOperand (c :: rest)
    · have hlongest := isLongest_number hnumber
      have hstop : position + gap.length + 1 + numberRun rest = position + gap.length + (c :: rest.take (numberRun rest)).length := by
        rw [List.length_cons, List.length_take_of_le (numberRun_le rest)]
        omega
      have hsecond : read? (c :: rest.take (numberRun rest)) = none ↔ afterOperand = false ∧ HasSecondPoint (c :: rest) := by
        rw [hlongest.isOne.read?_eq_none_iff, hlongest.hasSecondPoint_iff]
        exact ⟨fun h => ⟨hnumber.afterOperand_eq h, h⟩, And.right⟩
      rw [tokenRun_of_numberAhead hnumber]
      cases hread : read? (c :: rest.take (numberRun rest)) with
      | some x =>
        refine ⟨fun _ => ⟨_, hlongest, hstop, .inl ⟨x, rfl⟩⟩, ?_, ⟨nofun, fun hinvalid => ?_⟩⟩
        · rintro y lexeme place heq
          cases heq
          have hparse := parse?_of_read? hread
          refine ⟨hnumber, hparse, fun now scope => ?_⟩
          rw [value_call_toNumber, hparse]
        · rw [hsecond.2 hinvalid] at hread
          cases hread
      | none =>
        exact ⟨fun _ => ⟨_, hlongest, hstop, .inr rfl⟩, nofun, ⟨fun _ => hsecond.1 hread, fun _ => ⟨_, rfl, rfl⟩⟩⟩
    · cases hrun : tokenRun afterOperand (position + gap.length) c rest with
      | mk kind n =>
        have hnone : ¬(afterOperand = false ∧ HasSecondPoint (c :: rest)) := fun h => hnumber (h.2.numberAhead h.1)
        cases kind with
        | ok k =>
          refine ⟨fun h => absurd h hnumber, ?_, ⟨nofun, fun h => absurd h hnone⟩⟩
          rintro x lexeme place heq
          cases heq
          exact absurd (numberAhead_of_tokenRun hrun) hnumber
        | error e =>
          refine ⟨fun h => absurd h hnumber, nofun, ⟨?_, fun h => absurd h hnone⟩⟩
          rintro ⟨_, heq, hmessage⟩
          cases heq
          exact absurd hmessage (message_of_not_numberAhead hnumber hrun)

/-- A cursor goes on over so many characters. -/
theorem next_advances (s : TokenCursor) : ∃ n, s.next.2.rest = s.rest.drop n ∧ s.next.2.position = s.position + n := by
  obtain ⟨text, position, afterOperand⟩ := s
  obtain ⟨gap, ahead, rfl, hgap, hahead⟩ := exists_gap text
  cases ahead with
  | nil =>
    rw [List.append_nil, next_finish hgap]
    exact ⟨gap.length, List.drop_length.symm, rfl⟩
  | cons c rest =>
    rw [next_of_tokenRun hgap (hahead c rfl)]
    obtain ⟨kind, n⟩ := tokenRun afterOperand (position + gap.length) c rest
    have hdrop : rest.drop n = (gap ++ c :: rest).drop (gap.length + (n + 1)) := by
      rw [← List.drop_drop, List.drop_left, List.drop_succ_cons]
    have hposition : position + gap.length + 1 + n = position + (gap.length + (n + 1)) := by omega
    cases kind <;> exact ⟨_, hdrop, hposition⟩

end TokenCursor

/-! ## Every source -/

/-- A source gives an item and goes on as another source, asked for what there is next or for more after the end or an error. -/
inductive TokenSource.Gives (s : TokenSource) : Except SyntaxError Token → TokenSource → Prop where
  | read : Gives s s.read.1 s.read.2
  | next {item : Except SyntaxError Token} {after : TokenSource} (h : s.next? = (some item, after)) : Gives s item after

/-- The sources that come of a text, whatever they are asked for. -/
inductive Reached (text : List Char) : TokenSource → Prop where
  | start : Reached text (.ofText text)
  | step {s after : TokenSource} {item : Except SyntaxError Token} (h : Reached text s) (hgives : s.Gives item after) :
      Reached text after

theorem TokenSource.Gives.next_cursor {s after : TokenSource} {item : Except SyntaxError Token} (h : s.Gives item after) :
    s.cursor.next = (item, after.cursor) := by
  cases h with
  | read => rfl
  | next h =>
    unfold TokenSource.next? at h
    split at h
    · cases h
    · unfold TokenSource.read at h
      generalize s.cursor.next = given at h ⊢
      obtain ⟨token, cursor⟩ := given
      cases token <;> cases h <;> rfl

/-- A source stands in its text at its position. -/
theorem Reached.rest_eq {s : TokenSource} (h : Reached text s) : s.cursor.rest = text.drop s.cursor.position := by
  induction h with
  | start => rfl
  | @step s after item _ hgives ih =>
    obtain ⟨n, hrest, hposition⟩ := next_advances s.cursor
    rw [hgives.next_cursor] at hrest hposition
    rw [hrest, hposition, ih, List.drop_drop]

/-- Every source that comes of a text, whatever it was asked for before, reads numbers as they are spelled: after the gap at which it
stands, a digit, or a point before a digit where an operand is expected, begins the longest stretch that is there; the value of a number
is what its lexeme is as a text, in `toNumber` too; and it is no number only if it begins with a point and has a second one. -/
theorem reads_numbers {s after : TokenSource} {item : Except SyntaxError Token} (h : Reached text s) (hgives : s.Gives item after) :
    ∃ gap ahead, text.drop s.cursor.position = gap ++ ahead ∧ GapBefore ahead gap ∧ (∀ c ∈ ahead.head?, ¬BeginsGap c) ∧
      ReadsNumbers s.cursor.afterOperand (s.cursor.position + gap.length) ahead item after.cursor.position := by
  obtain ⟨gap, ahead, hsplit, hgap, hahead⟩ := exists_gap s.cursor.rest
  have hnext : next ⟨gap ++ ahead, s.cursor.position, s.cursor.afterOperand⟩ = (item, after.cursor) := by
    rw [← hsplit]
    exact hgives.next_cursor
  refine ⟨gap, ahead, h.rest_eq.symm.trans hsplit, hgap, hahead, ?_⟩
  have hreads := readsNumbers_next s.cursor.afterOperand s.cursor.position hgap hahead
  rwa [hnext] at hreads

/-- After the opening parenthesis of `(.5.25e3)` a number is begun that has a second point, and is taken up to the closing one. -/
theorem reads_numbers_secondPoint :
    let rest := ['.', '5', '.', '2', '5', 'e', '3', ')']
    let text := '(' :: rest
    let s := (TokenSource.ofText text).read.2
    Reached text s ∧ s.Gives s.read.1 s.read.2 ∧ (∃ e, s.read.1 = .error e ∧ e.message = "Invalid number") ∧
      ∃ word, IsLongest IsStretch rest word ∧ s.read.2.cursor.position = 1 + word.length := by
  intro rest text s
  have hreached : Reached text s := .step .start .read
  have hgives : s.Gives s.read.1 s.read.2 := .read
  have hposition : s.cursor.position = 1 := by decide +kernel
  have hoperand : s.cursor.afterOperand = false := by decide +kernel
  refine ⟨hreached, hgives, ?_⟩
  obtain ⟨gap, ahead, hsplit, hgap, -, hreads⟩ := reads_numbers hreached hgives
  rw [hposition] at hsplit hreads
  rw [hoperand] at hreads
  have hnone : gap = [] ∧ ahead = rest := by
    have hsplit : rest = gap ++ ahead := hsplit
    cases hgap with
    | nil => exact ⟨rfl, hsplit.symm⟩
    | blank c hc =>
      obtain rfl : '.' = c := (List.cons.inj hsplit).1
      exact absurd hc (by decide)
    | comment => exact absurd (List.cons.inj hsplit).1 (by decide)
  obtain ⟨rfl, rfl⟩ := hnone
  have hsecond : HasSecondPoint rest := ⟨['5'], '2', ['5', 'e', '3', ')'], rfl, ⟨nofun, fun c hc => List.mem_singleton.1 hc ▸ rfl⟩, rfl⟩
  obtain ⟨word, hword, hstop, -⟩ := hreads.longest (hsecond.numberAhead rfl)
  exact ⟨hreads.invalid.2 ⟨rfl, hsecond⟩, word, hword, hstop⟩

end CellExpr
