import CellExpr.Json.Reader
import CellExpr.Json.Writer
import CellExpr.Proofs.Writing.Spelling

/-!
# JSON texts of strings and numbers

What is written for a string or a whole number is read back, and nothing after it is touched (`readValue_quote`,
`readValue_whole`). Of a double only this much is shown: if its text alone is read back, it is also read back in front of a
comma or a closing bracket (`readValue_double`).
-/

namespace CellExpr.Json

open CellExpr.Number

variable {s tail rest : List Char} {c : Char}

theorem skipGap_cons (h : isGap c = false) : skipGap (c :: s) = c :: s := List.dropWhile_cons_of_neg (by simp [h])

/-! ## Strings -/

theorem hexValue?_digitChar : ∀ d < 16, hexValue? (Nat.digitChar d) = some d := by
  decide

theorem readHex4_hexDigits4 {n : Nat} (h : n < 0x10000) : readHex4 (hexDigits4 n ++ rest) = some (n, rest) := by
  have hdigit : ∀ m, hexValue? (Nat.digitChar (m % 16)) = some (m % 16) := fun m => hexValue?_digitChar _ (by omega)
  have hsum : ((n / 4096 % 16 * 16 + n / 256 % 16) * 16 + n / 16 % 16) * 16 + n % 16 = n := by omega
  simp [hexDigits4, readHex4, hdigit, hsum]

theorem readUnicode_hexDigits4 (h : c.toNat < 32) : readUnicode (hexDigits4 c.toNat ++ rest) = some (c, rest) := by
  have hread : readHex4 (hexDigits4 c.toNat ++ rest) = some (c.toNat, rest) := readHex4_hexDigits4 (by omega)
  simp [readUnicode, hread, show ¬0xDC00 ≤ c.toNat by omega, show ¬0xD800 ≤ c.toNat by omega]

/-- A character of a string is read back from what is written for it. -/
theorem readChars_escapeChar (fuel : Nat) (done : List Char) (c : Char) (rest : List Char) :
    readChars (fuel + 1) done (escapeChar c ++ rest) = readChars fuel (c :: done) rest := by
  unfold escapeChar
  split
  · subst c; rfl
  split
  · subst c; rfl
  split
  · subst c; rfl
  split
  · subst c; rfl
  split
  · subst c; rfl
  split
  · rename_i h
    obtain rfl : c = '\x08' := by rw [← Char.ofNat_toNat c, h]
    rfl
  split
  · rename_i h
    obtain rfl : c = '\x0c' := by rw [← Char.ofNat_toNat c, h]
    rfl
  split
  · rename_i h
    rw [List.cons_append, List.cons_append, readChars, if_neg (by decide), if_neg (by decide), if_neg (by decide)]
    simp only [readUnicode_hexDigits4 h]
  · rename_i hquote hbackslash _ _ _ _ _ hcontrol
    rw [List.singleton_append, readChars.eq_def]
    dsimp only
    rw [if_neg hquote, if_neg hcontrol, if_pos hbackslash]

theorem readChars_flatMap (fuel : Nat) (done s rest : List Char) :
    readChars (fuel + s.length + 1) done (s.flatMap escapeChar ++ '"' :: rest) =
      some (String.ofList (done.reverse ++ s), rest) := by
  induction s generalizing done with
  | nil => simp [readChars]
  | cons c s ih =>
    rw [List.flatMap_cons, List.append_assoc, List.length_cons, ← Nat.add_assoc, readChars_escapeChar, ih]
    simp

theorem length_le_flatMap_escapeChar (s : List Char) : s.length ≤ (s.flatMap escapeChar).length := by
  induction s with
  | nil => exact Nat.le_refl _
  | cons c s ih =>
    have hc : 0 < (escapeChar c).length := by
      unfold escapeChar
      repeat' split
      all_goals simp
    simp only [List.flatMap_cons, List.length_append, List.length_cons]
    omega

/-- A string is read back from its text. -/
theorem readString_quote (s : String) (rest : List Char) :
    readString (s.toList.flatMap escapeChar ++ '"' :: rest) = some (s, rest) := by
  have hlength := length_le_flatMap_escapeChar s.toList
  obtain ⟨fuel, hfuel⟩ : ∃ fuel, (s.toList.flatMap escapeChar ++ '"' :: rest).length + 1 = fuel + s.toList.length + 1 :=
    ⟨(s.toList.flatMap escapeChar ++ '"' :: rest).length - s.toList.length, by simp only [List.length_append]; omega⟩
  rw [readString, hfuel, readChars_flatMap]
  simp

/-! ## Where scalars end -/

/-- Whether a text is empty or begins with what may follow a value inside an array or an object. -/
def Ends (s : List Char) : Prop := ∀ c rest, s = c :: rest → c = ',' ∨ c = ']' ∨ c = '\x7d'

theorem Ends.nil : Ends [] := by
  intro c rest h
  cases h

theorem Ends.cons (h : c = ',' ∨ c = ']' ∨ c = '\x7d') : Ends (c :: rest) := by
  rintro c' rest' ⟨⟩
  exact h

/-- Where a value ends, a number does not go on with a point or an exponent. -/
theorem Ends.not_number (h : Ends (c :: tail)) : ¬(c = 'e' ∨ c = 'E') ∧ c ≠ '.' := by
  have hc := h c tail rfl
  constructor
  · rintro (rfl | rfl) <;> simp at hc
  · rintro rfl
    simp at hc

/-- Whether no character of the class may follow a value. -/
def IsInner (p : Char → Bool) : Prop := p ',' = false ∧ p ']' = false ∧ p '\x7d' = false

variable {p : Char → Bool}

theorem Ends.takeWhile (h : Ends tail) (hp : IsInner p) : tail.takeWhile p = [] := by
  cases tail with
  | nil => rfl
  | cons c rest =>
    obtain rfl | rfl | rfl := h c rest rfl
    · exact List.takeWhile_cons_of_neg (by simp [hp.1])
    · exact List.takeWhile_cons_of_neg (by simp [hp.2.1])
    · exact List.takeWhile_cons_of_neg (by simp [hp.2.2])

theorem Ends.takeWhile_append (h : Ends tail) (hp : IsInner p) : (s ++ tail).takeWhile p = s.takeWhile p := by
  induction s with
  | nil => exact h.takeWhile hp
  | cons c s ih =>
    rw [List.cons_append, List.takeWhile_cons, List.takeWhile_cons, ih]

theorem Ends.dropWhile_append (h : Ends tail) (hp : IsInner p) : (s ++ tail).dropWhile p = s.dropWhile p ++ tail := by
  induction s with
  | nil =>
    have htail := List.takeWhile_append_dropWhile (p := p) (l := tail)
    rwa [h.takeWhile hp] at htail
  | cons c s ih =>
    rw [List.cons_append, List.dropWhile_cons, List.dropWhile_cons, ih]
    split <;> rfl

theorem isInner_isDigit : IsInner isDigit := by
  simp [IsInner, isDigit]

/-- Whether a step reads no further where a value ends: what it reads of a text, it also reads where the text goes on like
that. -/
def IsLocal {α : Type} (step : Step α) : Prop :=
  ∀ s a rest, step s = some (a, rest) → rest <:+ s ∧ ∀ tail, Ends tail → step (s ++ tail) = some (a, rest ++ tail)

/-! ## Numbers -/

/-- The sign at the start of a text that has a character. -/
theorem takeSign_cons (c : Char) (s : List Char) :
    takeSign (c :: s) = if c = '-' then (true, s) else if c = '+' then (false, s) else (false, c :: s) := by
  unfold takeSign
  split <;> simp_all

theorem isLocal_readExponentDigits : IsLocal readExponentDigits := by
  intro s e rest h
  cases s with
  | nil => cases h
  | cons c s =>
    obtain ⟨negative, ds, hsuffix, hsign, hsigned⟩ : ∃ negative ds, ds <:+ c :: s ∧ takeSign (c :: s) = (negative, ds) ∧
        ∀ tail, takeSign (c :: (s ++ tail)) = (negative, ds ++ tail) := by
      simp only [takeSign_cons]
      split
      · exact ⟨true, s, List.suffix_cons _ _, rfl, fun _ => rfl⟩
      split
      · exact ⟨false, s, List.suffix_cons _ _, rfl, fun _ => rfl⟩
      · exact ⟨false, c :: s, List.suffix_rfl, rfl, fun _ => rfl⟩
    unfold readExponentDigits at h ⊢
    rw [hsign] at h
    dsimp only at h
    split at h
    · cases h
    rename_i hdigits
    obtain ⟨rfl, rfl⟩ := Prod.mk.inj (Option.some.inj h)
    refine ⟨(List.dropWhile_suffix _).trans hsuffix, fun tail htail => ?_⟩
    rw [List.cons_append, hsigned]
    dsimp only
    rw [htail.takeWhile_append isInner_isDigit, htail.dropWhile_append isInner_isDigit, if_neg hdigits]

/-- The sign that a double is read with. -/
def signOf (negative : Bool) (x : Float) : Json := .double (if negative then -x else x)

/-- The rest of a number after its point and the digits after it: the exponent, if there is one. -/
def readScaled (negative : Bool) (whole fraction : List Char) : Step Json
  | c :: after =>
    if c = 'e' ∨ c = 'E' then do
      let (exponent, rest) ← readExponentDigits after
      return (signOf negative (← doubleOf whole fraction exponent), rest)
    else do return (signOf negative (← doubleOf whole fraction 0), c :: after)
  | [] => do return (signOf negative (← doubleOf whole fraction 0), [])

/-- The rest of a number after its first digits. -/
def readAfterDigits (negative : Bool) (whole : List Char) : Step Json
  | '.' :: after =>
    if (after.takeWhile isDigit).isEmpty then none
    else readScaled negative whole (after.takeWhile isDigit) (after.dropWhile isDigit)
  | c :: after =>
    if c = 'e' ∨ c = 'E' then readScaled negative whole [] (c :: after)
    else readUnsigned.wholeOf negative whole (signOf negative) (c :: after)
  | [] => readUnsigned.wholeOf negative whole (signOf negative) []

/-- A number is read digits first. There is a digit, and no needless zero. -/
theorem readUnsigned_eq (negative : Bool) (s : List Char) :
    readUnsigned negative s =
      if (s.takeWhile isDigit).isEmpty || ((s.takeWhile isDigit).head? == some '0' && (s.takeWhile isDigit).length ≠ 1) then none
      else readAfterDigits negative (s.takeWhile isDigit) (s.dropWhile isDigit) := by
  unfold readUnsigned
  dsimp only
  split
  · rfl
  · generalize s.dropWhile isDigit = rest
    split
    · rename_i after
      rw [readAfterDigits]
      split
      · rfl
      · cases after.dropWhile isDigit <;> rfl
    · rename_i hpoint
      rw [readAfterDigits]
      · rfl
      · exact hpoint
    · rfl

/-- A number without point and exponent does not depend on what follows it. -/
theorem exists_wholeOf_eq (negative : Bool) (whole : List Char) (sign : Float → Json) :
    ∃ number : Option Json, ∀ s, readUnsigned.wholeOf negative whole sign s = number.map fun j => (j, s) := by
  refine ⟨(readUnsigned.wholeOf negative whole sign []).map (·.1), fun s => ?_⟩
  unfold readUnsigned.wholeOf
  dsimp only
  split <;> split <;> simp [Function.comp_def]

theorem isLocal_readScaled (negative : Bool) (whole fraction : List Char) : IsLocal (readScaled negative whole fraction) := by
  intro s j rest h
  cases s with
  | nil =>
    simp only [readScaled, Option.pure_def, Option.bind_eq_bind, Option.bind_eq_some_iff, Option.some.injEq, Prod.mk.injEq] at h
    obtain ⟨x, hx, rfl, rfl⟩ := h
    refine ⟨List.suffix_rfl, fun tail htail => ?_⟩
    cases tail with
    | nil => simp [readScaled, hx]
    | cons c tail => simp [readScaled, hx, htail.not_number.1]
  | cons c after =>
    rw [readScaled] at h
    split at h
    · rename_i hc
      simp only [Option.pure_def, Option.bind_eq_bind, Option.bind_eq_some_iff, Option.some.injEq, Prod.mk.injEq] at h
      obtain ⟨⟨exponent, rest'⟩, hexponent, x, hx, rfl, rfl⟩ := h
      obtain ⟨hsuffix, hlocal⟩ := isLocal_readExponentDigits _ _ _ hexponent
      refine ⟨hsuffix.trans (List.suffix_cons _ _), fun tail htail => ?_⟩
      simp [readScaled, hc, hlocal tail htail, hx]
    · rename_i hc
      simp only [Option.pure_def, Option.bind_eq_bind, Option.bind_eq_some_iff, Option.some.injEq, Prod.mk.injEq] at h
      obtain ⟨x, hx, rfl, rfl⟩ := h
      exact ⟨List.suffix_rfl, fun tail _ => by simp [readScaled, hc, hx]⟩

theorem isLocal_readAfterDigits (negative : Bool) (whole : List Char) : IsLocal (readAfterDigits negative whole) := by
  have hwhole : ∀ s j rest, readUnsigned.wholeOf negative whole (signOf negative) s = some (j, rest) → rest = s ∧
      ∀ s', readUnsigned.wholeOf negative whole (signOf negative) s' = some (j, s') := by
    obtain ⟨number, hnumber⟩ := exists_wholeOf_eq negative whole (signOf negative)
    intro s j rest h
    rw [hnumber] at h
    obtain ⟨j', hj', h⟩ := Option.map_eq_some_iff.1 h
    obtain ⟨rfl, rfl⟩ := Prod.mk.inj h
    exact ⟨rfl, fun s' => by rw [hnumber, hj']; rfl⟩
  intro s j rest h
  cases s with
  | nil =>
    obtain ⟨rfl, hj⟩ := hwhole _ _ _ h
    refine ⟨List.suffix_rfl, fun tail htail => ?_⟩
    cases tail with
    | nil => exact hj []
    | cons c tail =>
      rw [List.nil_append, readAfterDigits, if_neg htail.not_number.1, hj]
      exact htail.not_number.2
  | cons c after =>
    by_cases hpoint : c = '.'
    · subst hpoint
      rw [readAfterDigits] at h
      split at h
      · cases h
      rename_i hdigits
      obtain ⟨hsuffix, hlocal⟩ := isLocal_readScaled _ _ _ _ _ _ h
      refine ⟨hsuffix.trans ((List.dropWhile_suffix _).trans (List.suffix_cons _ _)), fun tail htail => ?_⟩
      rw [List.cons_append, readAfterDigits, htail.takeWhile_append isInner_isDigit,
        htail.dropWhile_append isInner_isDigit, if_neg hdigits, hlocal tail htail]
    · rw [readAfterDigits] at h
      · split at h
        · rename_i hc
          obtain ⟨hsuffix, hlocal⟩ := isLocal_readScaled _ _ _ _ _ _ h
          refine ⟨hsuffix, fun tail htail => ?_⟩
          rw [List.cons_append, readAfterDigits, if_pos hc]
          · exact hlocal tail htail
          · exact hpoint
        · rename_i hc
          obtain ⟨rfl, hj⟩ := hwhole _ _ _ h
          refine ⟨List.suffix_rfl, fun tail htail => ?_⟩
          rw [List.cons_append, readAfterDigits, if_neg hc, hj]
          exact hpoint
      · exact hpoint

theorem isLocal_readUnsigned (negative : Bool) : IsLocal (readUnsigned negative) := by
  intro s j rest h
  rw [readUnsigned_eq] at h
  split at h
  · cases h
  rename_i hdigits
  obtain ⟨hsuffix, hlocal⟩ := isLocal_readAfterDigits _ _ _ _ _ h
  refine ⟨hsuffix.trans (List.dropWhile_suffix _), fun tail htail => ?_⟩
  rw [readUnsigned_eq, htail.takeWhile_append isInner_isDigit, htail.dropWhile_append isInner_isDigit, if_neg hdigits,
    hlocal tail htail]

/-- A number, which may have a sign. -/
def readNumber : Step Json
  | '-' :: s => readUnsigned true s
  | s => readUnsigned false s

theorem readNumber_cons (hc : c ≠ '-') (s : List Char) : readNumber (c :: s) = readUnsigned false (c :: s) := by
  rw [readNumber]
  rintro s' ⟨⟩
  exact hc rfl

theorem isLocal_readNumber : IsLocal readNumber := by
  intro s j rest h
  cases s with
  | nil => cases h
  | cons c s =>
    by_cases hc : c = '-'
    · subst hc
      obtain ⟨hsuffix, hlocal⟩ := isLocal_readUnsigned true _ _ _ h
      exact ⟨hsuffix.trans (List.suffix_cons _ _), hlocal⟩
    · rw [readNumber_cons hc] at h
      obtain ⟨hsuffix, hlocal⟩ := isLocal_readUnsigned false _ _ _ h
      refine ⟨hsuffix, fun tail htail => ?_⟩
      rw [List.cons_append, readNumber_cons hc]
      exact hlocal tail htail

/-- The characters of numbers. -/
def isNumeral (c : Char) : Bool := isDigit c || c == '.' || c == 'e' || c == '+' || c == '-'

theorem isGap_of_isNumeral (h : isNumeral c = true) : isGap c = false := by
  rw [Bool.eq_false_iff]
  intro hgap
  simp only [isGap, Bool.or_eq_true, beq_iff_eq] at hgap
  obtain ((rfl | rfl) | rfl) | rfl := hgap <;> exact absurd h (by decide)

/-- A value that begins like a number is a number. -/
theorem readValue_numeral (hc : isNumeral c = true) (nesting : Nat) (s : List Char) :
    readValue nesting (c :: s) = readNumber (c :: s) := by
  rw [readValue.eq_def]
  dsimp only
  rw [skipGap_cons (isGap_of_isNumeral hc)]
  have hne : ∀ d, isNumeral d = false → c ≠ d := by
    rintro d hd rfl
    rw [hc] at hd
    cases hd
  split
  · contradiction
  · rename_i heq
    exact absurd (List.cons.inj heq).1 (hne '"' (by decide))
  · rename_i heq
    exact absurd (List.cons.inj heq).1 (hne '[' (by decide))
  · rename_i heq
    exact absurd (List.cons.inj heq).1 (hne '\x7b' (by decide))
  · rename_i heq
    obtain ⟨rfl, rfl⟩ := List.cons.inj heq
    rfl
  · rename_i hminus heq
    obtain ⟨rfl, rfl⟩ := List.cons.inj heq
    rw [if_neg (hne 't' (by decide)), if_neg (hne 'f' (by decide)), if_neg (hne 'n' (by decide)), readNumber_cons hminus]

/-! ### Whole numbers -/

theorem digitsValue_digitsText (n : Nat) : digitsValue (digitsText n) = n := Nat.ofDigitChars_ten_toDigits

/-- Digits of a number begin with a zero only if it is the only one. -/
theorem head?_digitsText {n : Nat} (h : n ≠ 0) : (digitsText n).head? ≠ some '0' := by
  induction n using Nat.strongRecOn with
  | _ n ih =>
    by_cases hlt : n < 10
    · have hdigit : ∀ n < 10, n ≠ 0 → (digitsText n).head? ≠ some '0' := by decide
      exact hdigit n hlt h
    · rw [digitsText, Nat.toDigits_of_base_le (by decide) (by omega), List.head?_append_of_ne_nil _ Nat.toDigits_ne_nil]
      exact ih (n / 10) (by omega) (by omega)

theorem readUnsigned_digitsText (negative : Bool) (n : Nat) (h : Ends tail) :
    readUnsigned negative (digitsText n ++ tail) = readUnsigned.wholeOf negative (digitsText n) (signOf negative) tail := by
  have htail : ∀ d rest, tail = d :: rest → isDigit d = false := by
    rintro d rest hd
    obtain rfl | rfl | rfl := h d rest hd <;> decide
  have htake : (digitsText n ++ tail).takeWhile isDigit = digitsText n :=
    takeWhile_append_stop (fun _ => isDigit_of_mem_digitsText) htail
  have hdrop : (digitsText n ++ tail).dropWhile isDigit = tail := by
    have := List.takeWhile_append_dropWhile (p := isDigit) (l := digitsText n ++ tail)
    rw [htake] at this
    exact List.append_cancel_left this
  have hshape : ¬((digitsText n).isEmpty || ((digitsText n).head? == some '0' && (digitsText n).length ≠ 1)) = true := by
    by_cases hn : n = 0
    · subst hn
      decide
    · have hne : digitsText n ≠ [] := Nat.toDigits_ne_nil
      simp [head?_digitsText hn, hne]
  rw [readUnsigned_eq, htake, hdrop, if_neg hshape]
  cases tail with
  | nil => rfl
  | cons c tail =>
    rw [readAfterDigits, if_neg h.not_number.1]
    exact h.not_number.2

/-- The whole numbers that a document can have: those of 64 bits, with or without a sign. -/
def IsWord (n : Int) : Prop := -((Nat.pow 2 63 : Nat) : Int) ≤ n ∧ n ≤ (maxSignificand : Int)

theorem toList_ofNat (m : Nat) : (toString (Int.ofNat m)).toList = digitsText m := String.toList_ofList

theorem toList_negSucc (m : Nat) : (toString (Int.negSucc m)).toList = '-' :: digitsText (m + 1) := by
  rw [show toString (Int.negSucc m) = "-" ++ Nat.repr (m + 1) from rfl, String.toList_append]
  exact congrArg _ String.toList_ofList

theorem exists_cons_digitsText (n : Nat) : ∃ c s, digitsText n = c :: s ∧ isDigit c = true := by
  obtain ⟨c, s, hdigits, hc, -⟩ := exists_cons_digits (s := digitsText n) Nat.toDigits_ne_nil
    fun _ => isDigit_of_mem_digitsText
  exact ⟨c, s, hdigits, hc⟩

/-- A whole number is read back from its text. -/
theorem readNumber_whole {n : Int} (hn : IsWord n) (h : Ends tail) :
    readNumber ((toString n).toList ++ tail) = some (.whole n, tail) := by
  obtain ⟨hlow, hhigh⟩ := hn
  cases n with
  | ofNat m =>
    obtain ⟨c, rest, hdigits, hc⟩ := exists_cons_digitsText m
    have hminus : c ≠ '-' := by
      rintro rfl
      exact absurd hc (by decide)
    have hm : m ≤ maxSignificand := Int.ofNat_le.1 hhigh
    rw [toList_ofNat, hdigits, List.cons_append, readNumber_cons hminus, ← List.cons_append, ← hdigits,
      readUnsigned_digitsText false m h]
    simp [readUnsigned.wholeOf, digitsValue_digitsText, hm]
  | negSucc m =>
    have hm : m + 1 ≠ 0 ∧ m + 1 ≤ Nat.pow 2 63 := by
      generalize Nat.pow 2 63 = bound at hlow ⊢
      omega
    rw [toList_negSucc, List.cons_append, readNumber, readUnsigned_digitsText true (m + 1) h, readUnsigned.wholeOf,
      digitsValue_digitsText, if_pos rfl, if_pos hm]
    rfl

/-! ### Doubles -/

theorem isNumeral_of_isDigit (h : isDigit c = true) : isNumeral c = true := by
  simp [isNumeral, h]

theorem isNumeral_of_mem_positional {d : Decimal} (h : c ∈ d.positional) : isNumeral c = true := by
  obtain ⟨first, whole, fraction, hfirst, hwhole, hfraction, hshape⟩ := isPositional_positional d
  have hc : isDigit c = true ∨ c = '.' := by
    rcases hshape with hshape | ⟨-, hshape⟩
    · rw [hshape, List.mem_cons] at h
      rcases h with rfl | h
      · exact .inl hfirst
      · exact .inl (hwhole c h)
    · rw [hshape, List.mem_append, List.mem_cons, List.mem_cons] at h
      rcases h with (rfl | h) | rfl | h
      · exact .inl hfirst
      · exact .inl (hwhole c h)
      · exact .inr rfl
      · exact .inl (hfraction c h)
  rcases hc with hc | rfl
  · exact isNumeral_of_isDigit hc
  · decide

theorem isNumeral_of_mem_scientific {d : Decimal} (h : c ∈ d.scientific) : isNumeral c = true := by
  have hdigit : ∀ {n : Nat} {c : Char}, c ∈ digitsText n → isNumeral c = true :=
    fun hc => isNumeral_of_isDigit (isDigit_of_mem_digitsText hc)
  simp only [Decimal.scientific, List.mem_append, List.mem_cons] at h
  rcases h with (h | h) | rfl | rfl | h
  · exact hdigit (List.mem_of_mem_take h)
  · split at h
    · cases h
    · rename_i hrest
      rcases List.mem_cons.1 h with rfl | h
      · decide
      · exact hdigit (List.mem_of_mem_drop h)
  · decide
  · split <;> decide
  · exact hdigit h

theorem isNumeral_of_mem_jsonText {negative : Bool} {units : Nat} (h : c ∈ (jsonText negative units).toList) :
    isNumeral c = true := by
  unfold jsonText at h
  split at h
  · have hzero : (if negative then "-0.0" else "0.0").toList.all isNumeral = true := by cases negative <;> decide
    exact List.all_eq_true.1 hzero c h
  · dsimp only at h
    rw [String.toList_ofList, signed] at h
    have hbody : ∀ body : List Char, (∀ c ∈ body, isNumeral c = true) →
        c ∈ (if negative then '-' :: body else body) → isNumeral c = true := by
      intro body hbody hc
      split at hc
      · rcases List.mem_cons.1 hc with rfl | hc
        · decide
        · exact hbody c hc
      · exact hbody c hc
    refine hbody _ (fun c hc => ?_) h
    split at hc
    · split at hc
      · rcases List.mem_append.1 hc with hc | hc
        · exact isNumeral_of_mem_positional hc
        · have hzero : ['.', '0'].all isNumeral = true := by decide
          exact List.all_eq_true.1 hzero c hc
      · exact isNumeral_of_mem_positional hc
    · exact isNumeral_of_mem_scientific hc

/-- The text of a double, alone, is read as the double. -/
def IsReadBack (x : Float) : Prop := parse? (doubleText x) = some (.double x)

instance (x : Float) : Decidable (IsReadBack x) :=
  decidable_of_iff ((match parse? (doubleText x) with | some (.double y) => decide (y = x) | _ => false) = true) (by
    unfold IsReadBack
    split <;> simp_all)

theorem IsReadBack.isNumeral {x : Float} (h : IsReadBack x) (hc : c ∈ (doubleText x).toList) : isNumeral c = true := by
  unfold IsReadBack at h
  unfold doubleText at h hc
  split at h
  · rename_i hexact
    rw [hexact] at hc
    exact isNumeral_of_mem_jsonText hc
  · cases h

/-- What is read back alone is read back where a value ends. -/
theorem readNumber_double {x : Float} (hx : IsReadBack x) (h : Ends tail) :
    readNumber ((doubleText x).toList ++ tail) = some (.double x, tail) := by
  have hnumeral : ∀ c ∈ (doubleText x).toList, isNumeral c = true := fun c hc => hx.isNumeral hc
  unfold IsReadBack parse? at hx
  generalize (doubleText x).toList = s at hnumeral hx ⊢
  cases s with
  | nil => cases hx
  | cons c s =>
    rw [readValue_numeral (hnumeral c List.mem_cons_self)] at hx
    split at hx
    · rename_i j rest hread
      obtain ⟨hsuffix, hlocal⟩ := isLocal_readNumber _ _ _ hread
      -- no character of the text is left, since what is left is a gap
      have hrest : rest = [] := by
        cases rest with
        | nil => rfl
        | cons d rest =>
          have hd := isGap_of_isNumeral (hnumeral d (hsuffix.subset List.mem_cons_self))
          rw [skipGap_cons hd] at hx
          cases hx
      subst hrest
      cases hx
      exact hlocal tail h
    · cases hx

/-! ## Scalars as values -/

theorem toList_quote (s : String) : (quote s).toList = '"' :: (s.toList.flatMap escapeChar ++ ['"']) := String.toList_ofList

/-- A string is read back as a value. -/
theorem readValue_quote (nesting : Nat) (s : String) (tail : List Char) :
    readValue nesting ((quote s).toList ++ tail) = some (.string s, tail) := by
  have hread := readString_quote s tail
  rw [toList_quote, List.cons_append, List.append_assoc, List.singleton_append, readValue.eq_def]
  simp only [skipGap_cons (show isGap '"' = false by decide), hread, Option.map_some]

/-- The first character of the text of a whole number. -/
theorem exists_cons_whole (n : Int) : ∃ c s, (toString n).toList = c :: s ∧ isNumeral c = true := by
  cases n with
  | ofNat m =>
    obtain ⟨c, s, hdigits, hc⟩ := exists_cons_digitsText m
    exact ⟨c, s, (toList_ofNat m).trans hdigits, isNumeral_of_isDigit hc⟩
  | negSucc m => exact ⟨'-', digitsText (m + 1), toList_negSucc m, by decide⟩

theorem IsReadBack.exists_cons {x : Float} (hx : IsReadBack x) :
    ∃ c s, (doubleText x).toList = c :: s ∧ Json.isNumeral c = true := by
  have hnumeral : ∀ c ∈ (doubleText x).toList, Json.isNumeral c = true := fun c hc => hx.isNumeral hc
  unfold IsReadBack parse? at hx
  generalize (doubleText x).toList = s at hnumeral hx ⊢
  cases s with
  | nil => cases hx
  | cons c s => exact ⟨c, s, rfl, hnumeral c List.mem_cons_self⟩

/-- A whole number is read back as a value. -/
theorem readValue_whole {n : Int} (hn : IsWord n) (nesting : Nat) (h : Ends tail) :
    readValue nesting ((toString n).toList ++ tail) = some (.whole n, tail) := by
  obtain ⟨c, s, htext, hc⟩ := exists_cons_whole n
  rw [← readNumber_whole hn h, htext, List.cons_append, readValue_numeral hc]

/-- A double that is read back alone is read back as a value. -/
theorem readValue_double {x : Float} (hx : IsReadBack x) (nesting : Nat) (h : Ends tail) :
    readValue nesting ((doubleText x).toList ++ tail) = some (.double x, tail) := by
  obtain ⟨c, s, htext, hc⟩ := hx.exists_cons
  rw [← readNumber_double hx h, htext, List.cons_append, readValue_numeral hc]

end CellExpr.Json
