import CellExpr.Number.Layout
import CellExpr.Proofs.Grammar.Neighbours
import CellExpr.Syntax.TokenStream

/-!
# The spelling of tokens

Every kind of token has a spelling: a string in double quotes with backslashes where they are needed, a regular expression
with a backslash before each slash, a number as expressions show it. Where a token is spelled and nothing after it could go on
with it, the reader of tokens reads this token and no further (`tokenRun_spelling`).
-/

namespace CellExpr

open CellExpr.Text CellExpr.Number TokenCursor

/-! ## Spellings -/

/-- The word of a keyword. -/
def Keyword.word : Keyword → String
  | true => "true"
  | false => "false"
  | null => "null"
  | «if» => "if"

/-- The characters of a mark. -/
def Mark.chars : Mark → List Char
  | plus => ['+']
  | minus => ['-']
  | star => ['*']
  | slash => ['/']
  | percent => ['%']
  | bang => ['!']
  | question => ['?']
  | equal => ['=', '=']
  | notEqual => ['!', '=']
  | less => ['<']
  | lessEqual => ['<', '=']
  | greater => ['>']
  | greaterEqual => ['>', '=']
  | both => ['&', '&']
  | either => ['|', '|']
  | dot => ['.']
  | comma => [',']
  | colon => [':']
  | openParen => ['(']
  | closeParen => [')']
  | openBracket => ['[']
  | closeBracket => [']']
  | openBrace => ['\x7b']
  | closeBrace => ['\x7d']

/-- How a character is written in a string. -/
def escapeChar (c : Char) : List Char :=
  match c with
  | '"' => ['\\', '"']
  | '\\' => ['\\', '\\']
  | '\n' => ['\\', 'n']
  | '\t' => ['\\', 't']
  | '\r' => ['\\', 'r']
  | c => [c]

/-- How the source of a regular expression is written between slashes: each slash has a backslash before it, and a character
that has one keeps it. -/
def escapeSlashes : List Char → List Char
  | [] => []
  | '\\' :: c :: rest => '\\' :: c :: escapeSlashes rest
  | '/' :: rest => '\\' :: '/' :: escapeSlashes rest
  | c :: rest => c :: escapeSlashes rest

/-- The spelling of a kind of token. -/
def TokenKind.spelling : TokenKind → List Char
  | number x => (Number.text x).toList
  | name s => s.toList
  | string s => '"' :: s.toList.flatMap escapeChar ++ ['"']
  | regex source ignoreCase =>
    '/' :: escapeSlashes source.toList ++ '/' :: if ignoreCase then ['i'] else []
  | keyword k => k.word.toList
  | mark m => m.chars
  | finish => []

/-- A word that can be a name: it begins with a letter or an underscore and goes on with these and numerals, and it is no
keyword. -/
def IsName (s : String) : Prop :=
  (∃ c rest, s.toList = c :: rest ∧ (isAlphabetic c = true ∨ c = '_') ∧ rest.all isNamePart = true) ∧
    wordKind s = .name s

/-- The sources that regular expressions between slashes can have: no backslash stands before a slash or at the end. -/
inductive IsRegexSource : List Char → Prop where
  | nil : IsRegexSource []
  | char (c : Char) {rest : List Char} (hc : c ≠ '\\') (h : IsRegexSource rest) : IsRegexSource (c :: rest)
  | escaped (c : Char) {rest : List Char} (hc : c ≠ '/') (h : IsRegexSource rest) : IsRegexSource ('\\' :: c :: rest)

/-- A number that can be written in an expression: it is finite and has no sign. -/
def IsPlainNumber (x : Float) : Prop := ∃ units, exact x = .finite false units

/-- The text of a number reads as the number. -/
def ReadsBack (x : Float) : Prop := Number.read? (Number.text x).toList = some x

/-- The kinds of tokens that have a spelling. -/
def TokenKind.HasSpelling : TokenKind → Prop
  | number x => IsPlainNumber x ∧ ReadsBack x
  | name s => IsName s
  | regex source _ => IsRegexSource source.toList
  | finish => False
  | _ => True

/-! ## Classes of characters -/

/-- Intervals apart from each other have no code point in common. -/
theorem has_eq_false_of_apart {s t : Intervals} (h : ∀ b ∈ t, ∀ a ∈ s, a.2 < b.1 ∨ b.2 < a.1) {n : Nat}
    (hn : s.has n = true) : t.has n = false := by
  rw [Bool.eq_false_iff]
  intro hn'
  obtain ⟨a, ha, hna⟩ := List.any_eq_true.1 hn
  obtain ⟨b, hb, hnb⟩ := List.any_eq_true.1 hn'
  simp only [Bool.and_eq_true, decide_eq_true_eq] at hna hnb
  have := h b hb a ha
  omega

theorem blank_apart_alphabetic : ∀ b ∈ alphabeticTable, ∀ a ∈ blankTable, a.2 < b.1 ∨ b.2 < a.1 := by
  decide +kernel

theorem blank_apart_numeric : ∀ b ∈ numericTable, ∀ a ∈ blankTable, a.2 < b.1 ∨ b.2 < a.1 := by
  decide +kernel

/-- No blank character goes on with a name. -/
theorem isNamePart_of_isBlank {c : Char} (h : isBlank c = true) : isNamePart c = false := by
  have halphabetic : isAlphabetic c = false := has_eq_false_of_apart blank_apart_alphabetic h
  have hnumeric : isNumeric c = false := has_eq_false_of_apart blank_apart_numeric h
  have hc : c ≠ '_' := by
    rintro rfl
    exact absurd h (by decide)
  simp [isNamePart, isAlphanumeric, halphabetic, hnumeric, hc]

theorem isBlank_of_isNamePart {c : Char} (h : isNamePart c = true) : isBlank c = false := by
  rw [Bool.eq_false_iff]
  intro hc
  rw [isNamePart_of_isBlank hc] at h
  cases h

theorem isDigit_iff {c : Char} : isDigit c = true ↔ 0x30 ≤ c.toNat ∧ c.toNat ≤ 0x39 := by
  simp only [isDigit, Bool.and_eq_true, decide_eq_true_eq, Char.le_def, UInt32.le_iff_toNat_le]
  rfl

/-- The letters of ASCII. -/
def asciiLetters : Intervals := [(0x41, 0x5a), (0x61, 0x7a)]

/-- The digits of ASCII. -/
def asciiDigits : Intervals := [(0x30, 0x39)]

theorem letters_alphabetic : ∀ a ∈ asciiLetters, a ∈ alphabeticTable := by
  decide +kernel

theorem digits_numeric : ∀ a ∈ asciiDigits, a ∈ numericTable := by
  decide +kernel

theorem alphabetic_ascii : ∀ b ∈ alphabeticTable, b ∈ asciiLetters ∨ 0x7f < b.1 := by
  decide +kernel

theorem numeric_ascii : ∀ b ∈ numericTable, b ∈ asciiDigits ∨ 0x7f < b.1 := by
  decide +kernel

theorem has_of_subset {s t : Intervals} (h : ∀ a ∈ s, a ∈ t) {n : Nat} (hn : s.has n = true) : t.has n = true := by
  obtain ⟨a, ha, hna⟩ := List.any_eq_true.1 hn
  exact List.any_eq_true.2 ⟨a, h a ha, hna⟩

/-- What a table has among the characters of ASCII, if all its other intervals lie above them. -/
theorem has_of_ascii {s t : Intervals} (h : ∀ b ∈ t, b ∈ s ∨ 0x7f < b.1) {n : Nat} (hascii : n ≤ 0x7f)
    (hn : t.has n = true) : s.has n = true := by
  obtain ⟨b, hb, hnb⟩ := List.any_eq_true.1 hn
  simp only [Bool.and_eq_true, decide_eq_true_eq] at hnb
  rcases h b hb with hb | hb
  · exact List.any_eq_true.2 ⟨b, hb, by simpa using hnb⟩
  · omega

theorem isAlphabetic_of_letter {c : Char} (h : asciiLetters.has c.toNat = true) : isAlphabetic c = true :=
  has_of_subset letters_alphabetic h

/-- Among the characters of ASCII letters, digits and the underscore alone go on with a name. -/
theorem isNamePart_of_ascii {c : Char} (h : c.toNat ≤ 0x7f) :
    isNamePart c = (asciiLetters.has c.toNat || asciiDigits.has c.toNat || c = '_') := by
  have halphabetic : isAlphabetic c = asciiLetters.has c.toNat :=
    Bool.eq_iff_iff.2 ⟨has_of_ascii alphabetic_ascii h, has_of_subset letters_alphabetic⟩
  have hnumeric : isNumeric c = asciiDigits.has c.toNat :=
    Bool.eq_iff_iff.2 ⟨has_of_ascii numeric_ascii h, has_of_subset digits_numeric⟩
  rw [isNamePart, isAlphanumeric, halphabetic, hnumeric]

theorem isNamePart_of_isDigit {c : Char} (h : isDigit c = true) : isNamePart c = true := by
  have hnumeric : isNumeric c = true := has_of_subset digits_numeric (by simpa [Intervals.has, asciiDigits] using isDigit_iff.1 h)
  simp [isNamePart, isAlphanumeric, hnumeric]

/-- No letter is a digit. -/
theorem isDigit_of_isAlphabetic {c : Char} (h : isAlphabetic c = true) : isDigit c = false := by
  rw [Bool.eq_false_iff]
  intro hc
  have hdigit := isDigit_iff.1 hc
  have hletter := has_of_ascii alphabetic_ascii (by omega) h
  simp [asciiLetters, Intervals.has] at hletter
  omega

/-! ## Where tokens end -/

/-- Whether a text does not go on with a word or a number that it follows. -/
def IsApart (s : List Char) : Prop := ∀ c rest, s = c :: rest → isNamePart c = false ∧ (c = '.' → digitRun rest = 0)

/-- Whether a text does not go on with a token that it follows. -/
def TokenKind.StopsBefore (k : TokenKind) (s : List Char) : Prop :=
  if k.isMark then k.endsOperand = false → s.head? ≠ some '=' else IsApart s

variable {s tail : List Char} {c : Char}

theorem takeWhile_append_stop {p : Char → Bool} (hs : ∀ d ∈ s, p d = true) (htail : ∀ d rest, tail = d :: rest → p d = false) :
    (s ++ tail).takeWhile p = s := by
  rw [List.takeWhile_append_of_pos hs]
  cases tail with
  | nil => simp
  | cons d rest => simp [htail d rest rfl]

theorem IsApart.not_digit (h : IsApart tail) : ∀ d rest, tail = d :: rest → isDigit d = false := by
  intro d rest hd
  rw [Bool.eq_false_iff]
  intro hdigit
  have := (h d rest hd).1
  rw [isNamePart_of_isDigit hdigit] at this
  cases this

/-! ## Numbers -/

theorem digitRun_append (hs : ∀ d ∈ s, isDigit d = true) (htail : ∀ d rest, tail = d :: rest → isDigit d = false) :
    digitRun (s ++ tail) = s.length := by
  rw [digitRun, takeWhile_append_stop hs htail]

/-- Digits, and after them perhaps a point and further digits. -/
def IsPositional (s : List Char) : Prop :=
  ∃ c whole fraction, isDigit c = true ∧ (∀ d ∈ whole, isDigit d = true) ∧ (∀ d ∈ fraction, isDigit d = true) ∧
    (s = c :: whole ∨ fraction ≠ [] ∧ s = c :: whole ++ '.' :: fraction)

theorem isDigit_of_mem_digitsText {n : Nat} (h : c ∈ digitsText n) : isDigit c = true := by
  have hc := Nat.isDigit_of_mem_toDigits (by decide) (by decide) h
  rw [Char.isDigit] at hc
  simpa [isDigit, Char.le_def, UInt32.le_iff_toNat_le] using hc

/-- Digits that are not none, as the first of them and the others. -/
theorem exists_cons_digits (hne : s ≠ []) (hs : ∀ d ∈ s, isDigit d = true) :
    ∃ c whole, s = c :: whole ∧ isDigit c = true ∧ ∀ d ∈ whole, isDigit d = true := by
  obtain ⟨c, whole, rfl⟩ := List.exists_cons_of_ne_nil hne
  exact ⟨c, whole, rfl, hs c List.mem_cons_self, fun d hd => hs d (List.mem_cons_of_mem _ hd)⟩

theorem isPositional_of_digits (hne : s ≠ []) (hs : ∀ d ∈ s, isDigit d = true) : IsPositional s := by
  obtain ⟨c, whole, rfl, hc, hwhole⟩ := exists_cons_digits hne hs
  exact ⟨c, whole, [], hc, hwhole, nofun, .inl rfl⟩

theorem isPositional_of_point {fraction : List Char} (hne : s ≠ []) (hs : ∀ d ∈ s, isDigit d = true)
    (hfne : fraction ≠ []) (hf : ∀ d ∈ fraction, isDigit d = true) : IsPositional (s ++ '.' :: fraction) := by
  obtain ⟨c, whole, rfl, hc, hwhole⟩ := exists_cons_digits hne hs
  exact ⟨c, whole, fraction, hc, hwhole, hf, .inr ⟨hfne, rfl⟩⟩

theorem isPositional_positional (d : Decimal) : IsPositional d.positional := by
  have hdigits : ∀ c ∈ digitsText d.digits, isDigit c = true := fun c hc => isDigit_of_mem_digitsText hc
  have hne : digitsText d.digits ≠ [] := Nat.toDigits_ne_nil
  have hzeros : ∀ n, ∀ c ∈ List.replicate n '0', isDigit c = true := by
    intro n c hc
    rw [List.eq_of_mem_replicate hc]
    decide
  unfold Decimal.positional
  dsimp only
  split
  · refine isPositional_of_digits (by simp [hne]) fun c hc => ?_
    rcases List.mem_append.1 hc with hc | hc
    · exact hdigits c hc
    · exact hzeros _ c hc
  · split
    · rename_i hlt
      refine isPositional_of_point ?_ (fun c hc => hdigits c (List.mem_of_mem_take hc)) ?_ fun c hc =>
        hdigits c (List.mem_of_mem_drop hc)
      · intro hnil
        have := congrArg List.length hnil
        simp only [List.length_take, List.length_nil] at this
        omega
      · intro hnil
        have := congrArg List.length hnil
        simp only [List.length_drop, List.length_nil] at this
        omega
    · refine isPositional_of_point (s := ['0']) (List.cons_ne_nil _ _) (by simp [isDigit]) (by simp [hne]) fun c hc => ?_
      rcases List.mem_append.1 hc with hc | hc
      · exact hzeros _ c hc
      · exact hdigits c hc

/-- A number without a sign is written with digits and perhaps a point. -/
theorem isPositional_text {x : Float} (h : IsPlainNumber x) : IsPositional (Number.text x).toList := by
  obtain ⟨units, hx⟩ := h
  unfold Number.text
  rw [hx]
  dsimp only
  split
  · exact isPositional_of_digits (s := "0".toList) nofun (List.all_eq_true.1 (by decide))
  · rw [String.toList_ofList, signed, if_neg nofun]
    exact isPositional_positional _

theorem exponentRun_of_isApart (h : IsApart tail) : exponentRun tail = 0 := by
  cases tail with
  | nil => rfl
  | cons d rest =>
    have hd := (h d rest rfl).1
    have hne : ¬(d = 'e' ∨ d = 'E') := by
      rintro (rfl | rfl) <;> exact absurd hd (by decide)
    exact if_neg hne

theorem fractionRun_of_isApart (h : IsApart tail) : fractionRun tail = 0 := by
  unfold fractionRun
  split
  · rename_i rest
    rw [if_pos ((h '.' rest rfl).2 rfl)]
  · rfl

/-- A number is read up to its end. -/
theorem numberRun_append {whole fraction : List Char} (hwhole : ∀ d ∈ whole, isDigit d = true)
    (hfraction : ∀ d ∈ fraction, isDigit d = true) (htail : IsApart tail)
    (hs : s = whole ∨ fraction ≠ [] ∧ s = whole ++ '.' :: fraction) : numberRun (s ++ tail) = s.length := by
  rcases hs with rfl | ⟨hne, rfl⟩
  · have hdigits := digitRun_append hwhole htail.not_digit
    simp [numberRun, hdigits, fractionRun_of_isApart htail, exponentRun_of_isApart htail]
  · have hdigits : digitRun (whole ++ ('.' :: (fraction ++ tail))) = whole.length := by
      refine digitRun_append hwhole fun d rest hd => ?_
      rw [← (List.cons.inj hd).1]
      decide
    have hfractional : fractionRun ('.' :: (fraction ++ tail)) = fraction.length + 1 := by
      rw [fractionRun, digitRun_append hfraction htail.not_digit, if_neg (by simpa using hne)]
    have hrest : (whole ++ '.' :: (fraction ++ tail)).drop (whole.length + (fraction.length + 1)) = tail := by
      rw [← List.drop_drop, List.drop_left, List.drop_succ_cons, List.drop_left]
    rw [List.append_assoc, List.cons_append]
    simp only [numberRun, hdigits, List.drop_left, hfractional, hrest, exponentRun_of_isApart htail, List.length_append,
      List.length_cons]
    omega

/-! ## Strings and regular expressions -/

theorem stringRun_escapeChar (c : Char) (rest : List Char) :
    stringRun '"' (escapeChar c ++ rest) = (stringRun '"' rest).push c (escapeChar c).length := by
  unfold escapeChar
  split
  · rfl
  · rfl
  · rfl
  · rfl
  · rfl
  · rename_i hquote hbackslash _ _ _
    rw [List.singleton_append, stringRun]
    · rw [if_neg hquote]
      rfl
    all_goals simp_all

/-- A string is read back from its spelling. -/
theorem stringRun_spelling (s tail : List Char) :
    stringRun '"' (s.flatMap escapeChar ++ '"' :: tail) = .closed s ((s.flatMap escapeChar).length + 1) := by
  induction s with
  | nil => rfl
  | cons c s ih =>
    rw [List.flatMap_cons, List.append_assoc, stringRun_escapeChar, ih, StringRun.push, List.length_append]
    congr 1
    omega

/-- The source of a regular expression is read back from its spelling. -/
theorem regexRun_spelling (h : IsRegexSource s) (tail : List Char) :
    regexRun (escapeSlashes s ++ '/' :: tail) = .ok (s, (escapeSlashes s).length + 1) := by
  induction h with
  | nil => rfl
  | char c hc _ ih =>
    by_cases hslash : c = '/'
    · subst hslash
      rw [escapeSlashes, List.cons_append, List.cons_append, regexRun, ih]
      rfl
    · rw [escapeSlashes, List.cons_append, regexRun, ih]
      · rfl
      all_goals simp_all
  | escaped c hc _ ih =>
    rw [escapeSlashes, List.cons_append, List.cons_append, regexRun, ih]
    simp [hc]

/-! ## Marks -/

/-- The first character of a mark begins no other token, apart from a slash and a point. -/
theorem Mark.chars_head (m : Mark) : ∃ c rest, m.chars = c :: rest ∧ isNamePart c = false ∧ isBlank c = false ∧ c ≠ '#' ∧
    c ≠ '"' ∧ c ≠ '\x27' ∧ (c = '/' → m = .slash) ∧ (c = '.' → m = .dot) ∧ (c = '=' → m = .equal) := by
  cases m <;> exact ⟨_, _, rfl, (isNamePart_of_ascii (by decide)).trans (by decide), by decide⟩

/-- A mark is read up to its end. -/
theorem markRun_chars {m : Mark} {rest : List Char} (hm : m.chars = c :: rest)
    (htail : (TokenKind.mark m).endsOperand = false → tail.head? ≠ some '=') :
    markRun c (rest ++ tail) = some (m, rest.length) := by
  have hdouble : rest = [] → (tail.head?.bind (doubleMark? c)) = none := by
    rintro rfl
    cases tail with
    | nil => rfl
    | cons d tail =>
      have hd : (TokenKind.mark m).endsOperand = false → d ≠ '=' := by simpa using htail
      cases m <;> cases hm <;> first | rfl | simp [doubleMark?, hd rfl]
  cases m <;> cases hm <;> first | rfl | (rw [List.nil_append, markRun, hdouble rfl]; rfl)

/-! ## Tokens -/

variable {afterOperand : Bool} {start : Nat} {rest : List Char}

theorem not_digit_of_not_namePart (h : isNamePart c = false) : isDigit c = false := by
  rw [Bool.eq_false_iff]
  intro hc
  rw [isNamePart_of_isDigit hc] at h
  cases h

/-- A character that does not go on with a name begins no number, unless it is a point, and no name. -/
theorem tokenRun_of_not_namePart (afterOperand : Bool) (rest : List Char) (hc : isNamePart c = false)
    (hdot : c = '.' → afterOperand = true) :
    ¬(isDigit c ∨ (c = '.' ∧ !afterOperand ∧ digitRun rest ≠ 0)) ∧ ¬(isAlphabetic c ∨ c = '_') := by
  have hname : isAlphabetic c = false ∧ c ≠ '_' := by
    simp only [isNamePart, isAlphanumeric, Bool.or_eq_false_iff, decide_eq_false_iff_not] at hc
    exact ⟨hc.1.1, hc.2⟩
  refine ⟨?_, by simp [hname]⟩
  rintro (h | ⟨rfl, h, _⟩)
  · rw [not_digit_of_not_namePart hc] at h
    cases h
  · rw [hdot rfl] at h
    cases h

theorem tokenRun_number {x : Float} (hx : IsPlainNumber x ∧ ReadsBack x) (hs : (Number.text x).toList = c :: rest)
    (htail : IsApart tail) : tokenRun afterOperand start c (rest ++ tail) = (.ok (.number x), rest.length) := by
  obtain ⟨c', whole, fraction, hc, hwhole, hfraction, hs'⟩ := isPositional_text hx.1
  obtain ⟨rfl, hshape⟩ : c = c' ∧ (rest = whole ∨ fraction ≠ [] ∧ rest = whole ++ '.' :: fraction) := by
    rcases hs' with hs' | ⟨hne, hs'⟩
    · obtain ⟨rfl, rfl⟩ := List.cons.inj (hs.symm.trans hs')
      exact ⟨rfl, .inl rfl⟩
    · obtain ⟨rfl, rfl⟩ := List.cons.inj (hs.symm.trans hs')
      exact ⟨rfl, .inr ⟨hne, rfl⟩⟩
  have hread := hx.2
  rw [ReadsBack, hs] at hread
  rw [tokenRun, if_pos (.inl hc)]
  simp only [numberRun_append hwhole hfraction htail hshape, List.take_left, hread]

theorem tokenRun_word {word : String} {k : TokenKind} (hword : word.toList = c :: rest)
    (hc : isAlphabetic c = true ∨ c = '_') (hrest : rest.all isNamePart = true) (hk : wordKind word = k)
    (htail : IsApart tail) : tokenRun afterOperand start c (rest ++ tail) = (.ok k, rest.length) := by
  have hnumber : ¬(isDigit c ∨ (c = '.' ∧ !afterOperand ∧ digitRun (rest ++ tail) ≠ 0)) := by
    rcases hc with hc | rfl
    · rw [isDigit_of_isAlphabetic hc]
      rintro (h | ⟨rfl, _⟩)
      · cases h
      · exact absurd (has_of_ascii alphabetic_ascii (by decide) hc) (by decide)
    · rintro (h | ⟨h, _⟩)
      · exact absurd h (by decide)
      · exact absurd h (by decide)
  have htake : (rest ++ tail).takeWhile isNamePart = rest :=
    takeWhile_append_stop (List.all_eq_true.1 hrest) fun d rest hd => (htail d rest hd).1
  rw [tokenRun, if_neg hnumber, if_pos hc]
  simp only [htake, ← hword, String.ofList_toList, hk]

theorem tokenRun_string (s : String) :
    tokenRun afterOperand start '"' (s.toList.flatMap escapeChar ++ ['"'] ++ tail) =
      (.ok (.string s), (s.toList.flatMap escapeChar ++ ['"']).length) := by
  obtain ⟨hnumber, hname⟩ := tokenRun_of_not_namePart (c := '"') afterOperand
    (s.toList.flatMap escapeChar ++ ['"'] ++ tail) (isNamePart_of_ascii (by decide)) fun h => absurd h (by decide)
  rw [tokenRun, if_neg hnumber, if_neg hname, if_pos (.inl rfl), List.append_assoc, List.singleton_append,
    stringRun_spelling]
  simp

theorem tokenRun_regex {source : String} (hs : IsRegexSource source.toList) (ignoreCase : Bool) (htail : IsApart tail) :
    tokenRun false start '/' ((escapeSlashes source.toList ++ '/' :: if ignoreCase then ['i'] else []) ++ tail) =
      (.ok (.regex source ignoreCase), (escapeSlashes source.toList ++ '/' :: if ignoreCase then ['i'] else []).length) := by
  obtain ⟨hnumber, hname⟩ := tokenRun_of_not_namePart (c := '/') false
    ((escapeSlashes source.toList ++ '/' :: if ignoreCase then ['i'] else []) ++ tail)
    (isNamePart_of_ascii (by decide)) fun h => absurd h (by decide)
  have hi : tail.head? ≠ some 'i' := by
    intro h
    obtain ⟨rest, rfl⟩ := List.head?_eq_some_iff.1 h
    have hnot := (htail 'i' rest rfl).1
    rw [isNamePart_of_ascii (by decide)] at hnot
    exact absurd hnot (by decide)
  rw [tokenRun, if_neg hnumber, if_neg hname, if_neg (by decide), if_pos ⟨rfl, rfl⟩, List.append_assoc, List.cons_append,
    regexRun_spelling hs]
  have hdrop : (escapeSlashes source.toList ++ '/' :: ((if ignoreCase then ['i'] else []) ++ tail)).drop
      ((escapeSlashes source.toList).length + 1) = (if ignoreCase then ['i'] else []) ++ tail := by
    rw [← List.drop_drop, List.drop_left, List.drop_succ_cons, List.drop_zero]
  cases ignoreCase <;> simp_all

theorem tokenRun_mark {m : Mark} (hm : m.chars = c :: rest) (hslash : m = .slash → afterOperand = true)
    (hdot : m = .dot → afterOperand = true) (htail : (TokenKind.mark m).endsOperand = false → tail.head? ≠ some '=') :
    tokenRun afterOperand start c (rest ++ tail) = (.ok (.mark m), rest.length) := by
  obtain ⟨c', rest', hm', hname, _, _, hquote, hquote', hc, hc', _⟩ := m.chars_head
  obtain ⟨rfl, rfl⟩ := List.cons.inj (hm.symm.trans hm')
  obtain ⟨hnumber, hword⟩ := tokenRun_of_not_namePart afterOperand (rest ++ tail) hname fun h => hdot (hc' h)
  have hregex : ¬(c = '/' ∧ !afterOperand) := by
    rintro ⟨h, h'⟩
    rw [hslash (hc h)] at h'
    cases h'
  rw [tokenRun, if_neg hnumber, if_neg hword, if_neg (by simp [hquote, hquote']), if_neg hregex, markRun_chars hm htail]

theorem isNamePart_of_begins (hc : isAlphabetic c = true ∨ c = '_') : isNamePart c = true := by
  rcases hc with hc | rfl <;> simp_all [isNamePart, isAlphanumeric]

/-- The word of a keyword is one of letters. -/
theorem Keyword.word_cons (w : Keyword) :
    ∃ c rest, w.word.toList = c :: rest ∧ isAlphabetic c = Bool.true ∧ rest.all isNamePart = Bool.true := by
  have hrest {rest : List Char} (h : (rest.all fun c => asciiLetters.has c.toNat) = Bool.true) :
      rest.all isNamePart = Bool.true :=
    List.all_eq_true.2 fun c hc => isNamePart_of_begins (.inl (isAlphabetic_of_letter (List.all_eq_true.1 h c hc)))
  cases w <;> exact ⟨_, _, rfl, isAlphabetic_of_letter (by decide), hrest (by decide)⟩

/-- A spelling is not empty. Its first character goes on with a name if it is not that of a string, a regular expression or a
mark. -/
theorem spelling_cons {k : TokenKind} (hk : k.HasSpelling) : ∃ c rest, k.spelling = c :: rest ∧ isBlank c = false ∧
    c ≠ '#' ∧ (isNamePart c = true ∨ c = '"' ∨ c = '/' ∨ k.isMark = true) := by
  have hpart : ∀ {c}, isNamePart c = true → isBlank c = false ∧ c ≠ '#' ∧
      (isNamePart c = true ∨ c = '"' ∨ c = '/' ∨ k.isMark = true) := by
    intro c hc
    refine ⟨isBlank_of_isNamePart hc, ?_, .inl hc⟩
    rintro rfl
    rw [isNamePart_of_ascii (by decide)] at hc
    exact absurd hc (by decide)
  cases k with
  | number x =>
    obtain ⟨c, whole, fraction, hc, _, _, hs⟩ := isPositional_text hk.1
    rcases hs with hs | ⟨_, hs⟩ <;> exact ⟨c, _, hs, hpart (isNamePart_of_isDigit hc)⟩
  | name s =>
    obtain ⟨⟨c, rest, hs, hc, _⟩, _⟩ := hk
    exact ⟨c, rest, hs, hpart (isNamePart_of_begins hc)⟩
  | string s => exact ⟨'"', _, rfl, by decide, by decide, .inr (.inl rfl)⟩
  | regex => exact ⟨'/', _, rfl, by decide, by decide, .inr (.inr (.inl rfl))⟩
  | keyword w =>
    obtain ⟨c, rest, hs, hc, _⟩ := w.word_cons
    exact ⟨c, rest, hs, hpart (isNamePart_of_begins (.inl hc))⟩
  | mark m =>
    obtain ⟨c, rest, hm, _, hblank, hcomment, _⟩ := m.chars_head
    exact ⟨c, rest, hm, hblank, hcomment, .inr (.inr (.inr rfl))⟩
  | finish => exact hk.elim

/-- Where a token is spelled and nothing after it goes on with it, it is read, and no more. -/
theorem tokenRun_spelling {k : TokenKind} (hk : k.HasSpelling) (hs : k.spelling = c :: rest) (start : Nat)
    (hafter : afterOperand = true → k.isMark = true) (hbefore : afterOperand = false → k ≠ .mark .slash ∧ k ≠ .mark .dot)
    (htail : k.StopsBefore tail) : tokenRun afterOperand start c (rest ++ tail) = (.ok k, rest.length) := by
  have hoperand : k.isMark = false → afterOperand = false := by
    intro hk
    rw [Bool.eq_false_iff]
    intro h
    rw [hafter h] at hk
    cases hk
  cases k with
  | number x => exact tokenRun_number hk hs htail
  | name s =>
    obtain ⟨⟨c', rest', hs', hc, hrest⟩, hkind⟩ := hk
    obtain ⟨rfl, rfl⟩ := List.cons.inj (hs.symm.trans hs')
    exact tokenRun_word hs hc hrest hkind htail
  | string s =>
    obtain ⟨rfl, rfl⟩ := List.cons.inj hs
    exact tokenRun_string s
  | regex source ignoreCase =>
    obtain ⟨rfl, rfl⟩ := List.cons.inj hs
    obtain rfl := hoperand rfl
    exact tokenRun_regex hk ignoreCase htail
  | keyword w =>
    obtain ⟨c', rest', hs', hc, hrest⟩ := w.word_cons
    obtain ⟨rfl, rfl⟩ := List.cons.inj (hs.symm.trans hs')
    exact tokenRun_word hs (.inl hc) hrest (by cases w <;> rfl) htail
  | mark m =>
    refine tokenRun_mark hs ?_ ?_ htail
    · rintro rfl
      cases afterOperand
      · exact absurd rfl (hbefore rfl).1
      · rfl
    · rintro rfl
      cases afterOperand
      · exact absurd rfl (hbefore rfl).2
      · rfl
  | finish => exact hk.elim

end CellExpr
