import CellExpr.Proofs.Number.Decimals

/-!
# How numbers are spelled

The texts that are numbers: a sign or none, digits with a point before, after or among them or without one, and a power of ten or none
(`Spells`). A text is read if and only if it is one of them, and then as the nearest double (`read?_eq_some_iff`). In such a text there are
digits, points, signs and the letter of the power only (`Spells.mem`), so the names of the infinities and of what is no number are none.
-/

namespace CellExpr.Number

/-! ## The grammar -/

/-- A text of digits, one at least. -/
def IsDigits (s : List Char) : Prop := s ≠ [] ∧ ∀ c ∈ s, isDigit c = true

/-- A sign or none, and whether it is a minus. -/
inductive SpellsSign : List Char → Bool → Prop where
  | absent : SpellsSign [] false
  | plus : SpellsSign ['+'] false
  | minus : SpellsSign ['-'] true

/-- Digits with a point or without one: the text, its digits, and how many of them stand after the point. -/
inductive SpellsDigits : List Char → List Char → Nat → Prop where
  | whole {whole : List Char} (hwhole : IsDigits whole) : SpellsDigits whole whole 0
  | point {whole : List Char} (hwhole : IsDigits whole) : SpellsDigits (whole ++ ['.']) whole 0
  | fraction {whole fraction : List Char} (hwhole : IsDigits whole) (hfraction : IsDigits fraction) :
      SpellsDigits (whole ++ '.' :: fraction) (whole ++ fraction) fraction.length
  | onlyFraction {fraction : List Char} (hfraction : IsDigits fraction) : SpellsDigits ('.' :: fraction) fraction fraction.length

/-- A power of ten or none, and its exponent. -/
inductive SpellsExponent : List Char → Int → Prop where
  | absent : SpellsExponent [] 0
  | given {c : Char} {sign digits : List Char} {negative : Bool} (hc : c = 'e' ∨ c = 'E') (hsign : SpellsSign sign negative)
      (hdigits : IsDigits digits) :
      SpellsExponent (c :: (sign ++ digits)) (if negative then -(digitsValue digits : Int) else digitsValue digits)

/-- A number: the text, whether it has a minus, and the number without it. -/
inductive Spells : List Char → Bool → ℚ → Prop where
  | mk {sign mantissa exponent digits : List Char} {negative : Bool} {places : Nat} {e : Int} (hsign : SpellsSign sign negative)
      (hdigits : SpellsDigits mantissa digits places) (hexponent : SpellsExponent exponent e) :
      Spells (sign ++ (mantissa ++ exponent)) negative (digitsValue digits * 10 ^ (e - places))

variable {s rest mantissa digits whole fraction : List Char} {c : Char} {negative : Bool} {places : Nat} {e : Int} {q : ℚ} {x : Float}
  {d : Decimal}

/-! ## Reading a sign -/

/-- The text does not begin with a sign. -/
def Unsigned (s : List Char) : Prop := ∀ c ∈ s.head?, c ≠ '+' ∧ c ≠ '-'

theorem takeSign_append (h : SpellsSign s negative) (hrest : Unsigned rest) : takeSign (s ++ rest) = (negative, rest) := by
  cases h with
  | plus => rfl
  | minus => rfl
  | absent =>
    rw [List.nil_append]
    unfold takeSign
    split
    · exact absurd rfl (hrest '-' rfl).2
    · exact absurd rfl (hrest '+' rfl).1
    · rfl

theorem exists_sign (s : List Char) :
    ∃ sign negative rest, s = sign ++ rest ∧ takeSign s = (negative, rest) ∧ SpellsSign sign negative := by
  unfold takeSign
  split
  · exact ⟨['-'], _, _, rfl, rfl, .minus⟩
  · exact ⟨['+'], _, _, rfl, rfl, .plus⟩
  · exact ⟨[], _, _, rfl, rfl, .absent⟩

theorem IsDigits.unsigned (h : IsDigits s) (rest : List Char) : Unsigned (s ++ rest) := by
  obtain ⟨c, s, rfl⟩ := List.exists_cons_of_ne_nil h.1
  intro d hd
  obtain rfl : c = d := Option.some.inj hd
  have hdigit := h.2 c (.head _)
  constructor <;> rintro rfl <;> exact absurd hdigit (by decide)

theorem SpellsDigits.unsigned (h : SpellsDigits mantissa digits places) (rest : List Char) : Unsigned (mantissa ++ rest) := by
  cases h with
  | whole hwhole => exact hwhole.unsigned rest
  | point hwhole =>
    rw [List.append_assoc]
    exact hwhole.unsigned _
  | fraction hwhole =>
    rw [List.append_assoc]
    exact hwhole.unsigned _
  | onlyFraction =>
    intro d hd
    obtain rfl : '.' = d := Option.some.inj hd
    decide

/-! ## Reading an exponent -/

theorem isDigits_iff : (!s.isEmpty && s.all isDigit) = true ↔ IsDigits s := by
  rw [Bool.and_eq_true, Bool.not_eq_true', List.isEmpty_eq_false_iff, List.all_eq_true]
  rfl

theorem readExponent_eq_some_iff : readExponent s = some e ↔ SpellsExponent s e := by
  constructor
  · intro h
    unfold readExponent at h
    split at h
    · exact Option.some.inj h ▸ .absent
    · rename_i c rest
      split at h
      · rename_i hc
        obtain ⟨sign, negative, digits, rfl, htake, hsign⟩ := exists_sign rest
        rw [htake] at h
        dsimp only at h
        split at h
        · rename_i hdigits
          exact Option.some.inj h ▸ .given hc hsign (isDigits_iff.1 hdigits)
        · cases h
      · cases h
  · intro h
    cases h with
    | absent => rfl
    | given hc hsign hdigits =>
      have hunsigned := hdigits.unsigned []
      rw [List.append_nil] at hunsigned
      rw [readExponent, if_pos hc, takeSign_append hsign hunsigned]
      exact if_pos (isDigits_iff.2 hdigits)

/-! ## Reading digits -/

theorem readDecimal_of_point (h : s.dropWhile isDigit = '.' :: rest) :
    readDecimal s =
      if (s.takeWhile isDigit).isEmpty && (rest.takeWhile isDigit).isEmpty then none
      else (readExponent (rest.dropWhile isDigit)).map fun e =>
        ⟨digitsValue (s.takeWhile isDigit ++ rest.takeWhile isDigit), e - (rest.takeWhile isDigit).length⟩ := by
  unfold readDecimal
  rw [h]
  rfl

theorem readDecimal_of_no_point (h : ∀ rest, s.dropWhile isDigit ≠ '.' :: rest) :
    readDecimal s =
      if (s.takeWhile isDigit).isEmpty then none
      else (readExponent (s.dropWhile isDigit)).map fun e => ⟨digitsValue (s.takeWhile isDigit), e⟩ := by
  unfold readDecimal
  split
  rename_i heq
  split at heq
  · rename_i hpoint
    exact absurd hpoint (h _)
  · obtain ⟨rfl, rfl⟩ := Prod.mk.inj heq
    simp only [List.isEmpty_nil, Bool.and_true, List.append_nil, List.length_nil, Nat.cast_zero, sub_zero]

theorem isDigit_of_mem_takeWhile (h : c ∈ s.takeWhile isDigit) : isDigit c = true := List.all_eq_true.1 List.all_takeWhile c h

theorem isDigits_takeWhile (h : (s.takeWhile isDigit).isEmpty = false) : IsDigits (s.takeWhile isDigit) :=
  ⟨List.isEmpty_eq_false_iff.1 h, fun _ => isDigit_of_mem_takeWhile⟩

/-- Digits with a point among them, before or after them. -/
theorem spellsDigits_of_point (hwhole : ∀ c ∈ whole, isDigit c = true) (hfraction : ∀ c ∈ fraction, isDigit c = true)
    (hne : (whole.isEmpty && fraction.isEmpty) = false) : SpellsDigits (whole ++ '.' :: fraction) (whole ++ fraction) fraction.length := by
  by_cases hw : whole = []
  · subst hw
    exact .onlyFraction ⟨List.isEmpty_eq_false_iff.1 hne, hfraction⟩
  · by_cases hf : fraction = []
    · subst hf
      rw [List.append_nil]
      exact .point ⟨hw, hwhole⟩
    · exact .fraction ⟨hw, hwhole⟩ ⟨hf, hfraction⟩

/-- A number that is read is digits and an exponent. -/
theorem exists_digits_of_readDecimal (h : readDecimal s = some d) :
    ∃ mantissa exponent digits places e, s = mantissa ++ exponent ∧ SpellsDigits mantissa digits places ∧ SpellsExponent exponent e ∧
      d = ⟨digitsValue digits, e - (places : Nat)⟩ := by
  have hparts : s = s.takeWhile isDigit ++ s.dropWhile isDigit := List.takeWhile_append_dropWhile.symm
  by_cases hpoint : ∃ rest, s.dropWhile isDigit = '.' :: rest
  · obtain ⟨rest, hpoint⟩ := hpoint
    have hrest : rest = rest.takeWhile isDigit ++ rest.dropWhile isDigit := List.takeWhile_append_dropWhile.symm
    rw [readDecimal_of_point hpoint] at h
    split at h
    · cases h
    · rename_i hne
      obtain ⟨e, he, rfl⟩ := Option.map_eq_some_iff.1 h
      refine ⟨_, _, _, _, e, ?_, spellsDigits_of_point (fun _ => isDigit_of_mem_takeWhile) (fun _ => isDigit_of_mem_takeWhile)
        (Bool.eq_false_iff.2 hne), readExponent_eq_some_iff.1 he, rfl⟩
      rw [List.append_assoc, List.cons_append, ← hrest, ← hpoint, ← hparts]
  · rw [readDecimal_of_no_point (not_exists.1 hpoint)] at h
    split at h
    · cases h
    · rename_i hne
      obtain ⟨e, he, rfl⟩ := Option.map_eq_some_iff.1 h
      refine ⟨_, _, _, 0, e, hparts, .whole (isDigits_takeWhile (Bool.eq_false_iff.2 hne)), readExponent_eq_some_iff.1 he, ?_⟩
      rw [Nat.cast_zero, sub_zero]

/-- What does not begin with a digit. -/
def Undigited (s : List Char) : Prop := ∀ c ∈ s.head?, isDigit c = false

theorem undigited_point (s : List Char) : Undigited ('.' :: s) := by
  intro c hc
  obtain rfl : '.' = c := Option.some.inj hc
  rfl

theorem takeWhile_append (hdigits : ∀ c ∈ digits, isDigit c = true) (hrest : Undigited rest) :
    (digits ++ rest).takeWhile isDigit = digits ∧ (digits ++ rest).dropWhile isDigit = rest := by
  rw [List.takeWhile_append_of_pos hdigits, List.dropWhile_append_of_pos hdigits]
  cases rest with
  | nil => exact ⟨List.append_nil _, rfl⟩
  | cons c rest =>
    have hc : ¬isDigit c = true := Bool.eq_false_iff.1 (hrest c rfl)
    rw [List.takeWhile_cons_of_neg hc, List.dropWhile_cons_of_neg hc]
    exact ⟨List.append_nil _, rfl⟩

theorem SpellsExponent.head (h : SpellsExponent s e) : ∀ c ∈ s.head?, isDigit c = false ∧ c ≠ '.' := by
  cases h with
  | absent => exact nofun
  | given hc =>
    intro d hd
    obtain rfl := Option.some.inj hd
    rcases hc with rfl | rfl <;> decide

theorem SpellsExponent.undigited (h : SpellsExponent s e) : Undigited s := fun c hc => (h.head c hc).1

theorem readDecimal_append_point {exponent : List Char} (hwhole : ∀ c ∈ whole, isDigit c = true)
    (hfraction : ∀ c ∈ fraction, isDigit c = true) (hne : (whole.isEmpty && fraction.isEmpty) = false)
    (hexponent : SpellsExponent exponent e) :
    readDecimal (whole ++ '.' :: (fraction ++ exponent)) = some ⟨digitsValue (whole ++ fraction), e - fraction.length⟩ := by
  obtain ⟨htake, hdrop⟩ := takeWhile_append hwhole (undigited_point (fraction ++ exponent))
  obtain ⟨htake', hdrop'⟩ := takeWhile_append hfraction hexponent.undigited
  rw [readDecimal_of_point hdrop, htake, htake', hdrop', hne, if_neg Bool.false_ne_true, readExponent_eq_some_iff.2 hexponent]
  rfl

theorem readDecimal_append {exponent : List Char} (h : SpellsDigits mantissa digits places) (hexponent : SpellsExponent exponent e) :
    readDecimal (mantissa ++ exponent) = some ⟨digitsValue digits, e - places⟩ := by
  cases h with
  | whole hwhole =>
    obtain ⟨htake, hdrop⟩ := takeWhile_append hwhole.2 hexponent.undigited
    have hpoint : ∀ rest, (mantissa ++ exponent).dropWhile isDigit ≠ '.' :: rest := by
      intro rest hrest
      rw [hdrop] at hrest
      subst hrest
      exact (hexponent.head '.' rfl).2 rfl
    rw [readDecimal_of_no_point hpoint, htake, hdrop, List.isEmpty_eq_false_iff.2 hwhole.1, if_neg Bool.false_ne_true,
      readExponent_eq_some_iff.2 hexponent, Nat.cast_zero, sub_zero]
    rfl
  | point hwhole =>
    have hread := readDecimal_append_point hwhole.2 (fun _ => nofun : ∀ c ∈ [], isDigit c = true)
      (by rw [List.isEmpty_eq_false_iff.2 hwhole.1]; rfl) hexponent
    rw [List.append_nil] at hread
    rw [List.append_assoc]
    exact hread
  | fraction hwhole hfraction =>
    rw [List.append_assoc]
    exact readDecimal_append_point hwhole.2 hfraction.2 (by rw [List.isEmpty_eq_false_iff.2 hwhole.1]; rfl) hexponent
  | onlyFraction hfraction =>
    exact readDecimal_append_point (fun _ => nofun : ∀ c ∈ [], isDigit c = true) hfraction.2
      (List.isEmpty_eq_false_iff.2 hfraction.1) hexponent

/-! ## Reading numbers -/

theorem isNearest_signed (negative : Bool) (d : Decimal) : IsNearest (if negative then -d.toDouble else d.toDouble) negative d.value := by
  cases negative with
  | false => exact d.isNearest_toDouble
  | true => exact d.isNearest_toDouble.neg

theorem SpellsSign.mem (h : SpellsSign s negative) : ∀ c ∈ s, c ∈ ['.', '+', '-', 'e', 'E'] := by
  cases h with
  | absent => exact nofun
  | plus | minus =>
    intro c hc
    obtain rfl := List.mem_singleton.1 hc
    decide

theorem SpellsDigits.mem (h : SpellsDigits mantissa digits places) : ∀ c ∈ mantissa, isDigit c = true ∨ c = '.' := by
  intro c hc
  cases h with
  | whole hwhole => exact .inl (hwhole.2 c hc)
  | point hwhole => exact (List.mem_append.1 hc).imp (hwhole.2 c) List.mem_singleton.1
  | fraction hwhole hfraction =>
    rcases List.mem_append.1 hc with hc | hc
    · exact .inl (hwhole.2 c hc)
    · exact (List.mem_cons.1 hc).symm.imp_left (hfraction.2 c)
  | onlyFraction hfraction => exact (List.mem_cons.1 hc).symm.imp_left (hfraction.2 c)

/-- A number is made of digits, points, signs and the letter of the power. -/
theorem Spells.mem (h : Spells s negative q) : ∀ c ∈ s, isDigit c = true ∨ c ∈ ['.', '+', '-', 'e', 'E'] := by
  intro c hc
  cases h with
  | mk hsign hdigits hexponent =>
    rcases List.mem_append.1 hc with hc | hc
    · exact .inr (hsign.mem c hc)
    rcases List.mem_append.1 hc with hc | hc
    · refine (hdigits.mem c hc).imp_right ?_
      rintro rfl
      decide
    · cases hexponent with
      | absent => cases hc
      | given hletter hsign' hpower =>
        rcases List.mem_cons.1 hc with rfl | hc
        · rcases hletter with rfl | rfl <;> decide
        · exact (List.mem_append.1 hc).symm.imp (hpower.2 c) (hsign'.mem c)

/-- What spells a number is read as the nearest double. -/
theorem Spells.read? (h : Spells s negative q) : ∃ x, read? s = some x ∧ IsNearest x negative q := by
  cases h with
  | mk hsign hdigits hexponent =>
    refine ⟨_, ?_, isNearest_signed negative ⟨_, _⟩⟩
    rw [Number.read?, takeSign_append hsign (hdigits.unsigned _)]
    dsimp only
    rw [readDecimal_append hdigits hexponent]
    rfl

/-- A text is read if and only if it spells a number, and then as the double nearest to it. -/
theorem read?_eq_some_iff : read? s = some x ↔ ∃ negative q, Spells s negative q ∧ IsNearest x negative q := by
  constructor
  · intro h
    obtain ⟨sign, negative, rest, rfl, htake, hsign⟩ := exists_sign s
    rw [read?, htake] at h
    obtain ⟨d, hd, rfl⟩ := Option.map_eq_some_iff.1 h
    obtain ⟨mantissa, exponent, digits, places, e, rfl, hdigits, hexponent, rfl⟩ := exists_digits_of_readDecimal hd
    exact ⟨negative, _, .mk hsign hdigits hexponent, isNearest_signed negative _⟩
  · rintro ⟨negative, q, hspells, hnearest⟩
    obtain ⟨y, hy, hnearest'⟩ := hspells.read?
    rw [hy, hnearest.unique hnearest']

end CellExpr.Number
