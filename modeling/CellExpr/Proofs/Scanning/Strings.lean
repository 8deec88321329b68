import CellExpr.Proofs.Scanning.Numbers
import CellExpr.Proofs.Text.LowerCase

/-!
# Strings in a text

A string goes from a quote to the next one that has no backslash before it. What stands between them is plain characters, characters
after a backslash, and codes (`IsContent`), and it is read as what they stand for. A code is four hexadecimal digits; the scanner also
takes a plus sign in the place of the first of them (`reads_strings`), and nothing else (`isCode_iff`).
-/

namespace CellExpr

open CellExpr.Text CellExpr.Number TokenCursor

variable {s t v digits content gap ahead text : List Char} {c d quote : Char} {n start position : Nat} {afterOperand : Bool}

/-! ## Codes -/

/-- A hexadecimal digit and its value, as a small or a capital letter. -/
def IsHexDigit (c : Char) (n : Nat) : Prop := n < 16 ∧ (c = n.digitChar ∨ c = n.digitChar.toUpper)

instance (c : Char) (n : Nat) : Decidable (IsHexDigit c n) := inferInstanceAs (Decidable (_ ∧ _))

/-- Four hexadecimal digits that are the code point of a character. -/
inductive IsCode : List Char → Char → Prop where
  | mk {c₃ c₂ c₁ c₀ : Char} {n₃ n₂ n₁ n₀ : Nat} {c : Char} (h₃ : IsHexDigit c₃ n₃) (h₂ : IsHexDigit c₂ n₂) (h₁ : IsHexDigit c₁ n₁)
      (h₀ : IsHexDigit c₀ n₀) (hc : c.toNat = 16 * (16 * (16 * n₃ + n₂) + n₁) + n₀) : IsCode [c₃, c₂, c₁, c₀] c

/-- A plus sign and three hexadecimal digits that are the code point of a character. -/
inductive IsSignedCode : List Char → Char → Prop where
  | mk {c₂ c₁ c₀ : Char} {n₂ n₁ n₀ : Nat} {c : Char} (h₂ : IsHexDigit c₂ n₂) (h₁ : IsHexDigit c₁ n₁) (h₀ : IsHexDigit c₀ n₀)
      (hc : c.toNat = 16 * (16 * n₂ + n₁) + n₀) : IsSignedCode ['+', c₂, c₁, c₀] c

/-- What the scanner takes as the code of a character. -/
def IsReadCode (digits : List Char) (c : Char) : Prop := IsCode digits c ∨ IsSignedCode digits c

theorem IsReadCode.exists_four (h : IsReadCode digits c) : ∃ c₃ c₂ c₁ c₀, digits = [c₃, c₂, c₁, c₀] := by
  rcases h with h | h
  · cases h with
    | mk => exact ⟨_, _, _, _, rfl⟩
  · cases h with
    | mk => exact ⟨_, _, _, _, rfl⟩

namespace TokenCursor

theorem hexDigit?_eq_some_iff : hexDigit? c = some n ↔ IsHexDigit c n := by
  constructor
  · intro h
    have hall : ∀ k < 103, ∀ n ∈ hexDigit? (Char.ofNat k), IsHexDigit (Char.ofNat k) n := by decide +kernel
    have hc : c.toNat < 103 := by
      unfold hexDigit? at h
      simp only [isDigit_iff, Char.le_def, UInt32.le_iff_toNat_le] at h
      split at h
      · omega
      · split at h
        · rename_i hletter
          exact Nat.lt_succ_of_le hletter.2
        · split at h
          · rename_i hletter
            exact Nat.lt_of_le_of_lt hletter.2 (by decide)
          · cases h
    rw [← Char.ofNat_toNat c] at h ⊢
    exact hall c.toNat hc n h
  · rintro ⟨hn, hc⟩
    have hall : ∀ n < 16, hexDigit? n.digitChar = some n ∧ hexDigit? n.digitChar.toUpper = some n := by decide +kernel
    rcases hc with rfl | rfl
    · exact (hall n hn).1
    · exact (hall n hn).2

/-- A number is taken as a code point if it is one. -/
theorem charOfCode_eq_some_iff : (if n < 0xD800 ∨ (0xDFFF < n ∧ n < 0x110000) then some (Char.ofNat n) else none) = some c ↔ c.toNat = n := by
  constructor
  · intro h
    split at h
    · rename_i hvalid
      obtain rfl := Option.some.inj h
      exact toNat_ofNat hvalid
    · cases h
  · rintro rfl
    have hvalid : c.toNat.isValidChar := c.valid
    rw [if_pos hvalid, Char.ofNat_toNat]

/-- The value of digits after others whose value is known. -/
def hexFrom (n : Nat) (digits : List Char) : Option Nat :=
  digits.foldlM (fun n c => (hexDigit? c).map fun d => 16 * n + d) n

theorem hexFrom_cons {m : Nat} : hexFrom n (c :: digits) = some m ↔ ∃ d, IsHexDigit c d ∧ hexFrom (16 * n + d) digits = some m := by
  simp only [hexFrom, List.foldlM_cons, Option.bind_eq_bind, Option.bind_eq_some_iff, Option.map_eq_some_iff, hexDigit?_eq_some_iff]
  constructor
  · rintro ⟨_, ⟨d, hd, rfl⟩, h⟩
    exact ⟨d, hd, h⟩
  · rintro ⟨d, hd, h⟩
    exact ⟨_, ⟨d, hd, rfl⟩, h⟩

/-- What comes after a plus sign, or all if there is none, is read as a number that is the code point of the character. -/
theorem codeChar?_eq_some_iff {unsigned : List Char} (hne : unsigned ≠ [])
    (hdigits : digits = '+' :: unsigned ∨ digits.head? ≠ some '+' ∧ digits = unsigned) :
    codeChar? digits = some c ↔ hexFrom 0 unsigned = some c.toNat := by
  have hcode : codeChar? digits = (hexFrom 0 unsigned).bind fun n =>
      if n < 0xD800 ∨ (0xDFFF < n ∧ n < 0x110000) then some (Char.ofNat n) else none := by
    obtain ⟨d, unsigned, rfl⟩ := List.exists_cons_of_ne_nil hne
    rcases hdigits with rfl | ⟨hplus, rfl⟩
    · rfl
    · unfold codeChar?
      split
      · rename_i heq
        rw [heq] at hplus
        exact absurd rfl hplus
      · rfl
  simp only [hcode, Option.bind_eq_some_iff, charOfCode_eq_some_iff]
  exact ⟨fun ⟨_, h, hc⟩ => hc ▸ h, fun h => ⟨_, h, rfl⟩⟩

theorem hexDigit_ne_plus (h : IsHexDigit c n) : c ≠ '+' := by
  rintro rfl
  have hnone : hexDigit? '+' = none := by decide
  rw [hexDigit?_eq_some_iff.2 h] at hnone
  cases hnone

/-- Four characters are taken as a code just if they are hexadecimal digits, or a plus sign and three of these. -/
theorem codeChar?_four {c₃ c₂ c₁ c₀ : Char} : codeChar? [c₃, c₂, c₁, c₀] = some c ↔ IsReadCode [c₃, c₂, c₁, c₀] c := by
  by_cases hplus : c₃ = '+'
  · subst hplus
    simp only [codeChar?_eq_some_iff (List.cons_ne_nil _ _) (.inl rfl), hexFrom_cons, Nat.mul_zero, Nat.zero_add]
    constructor
    · rintro ⟨n₂, h₂, n₁, h₁, n₀, h₀, hc⟩
      exact .inr (.mk h₂ h₁ h₀ (Option.some.inj hc).symm)
    · rintro (⟨h₃, -, -, -, -⟩ | ⟨h₂, h₁, h₀, hc⟩)
      · exact absurd rfl (hexDigit_ne_plus h₃)
      · exact ⟨_, h₂, _, h₁, _, h₀, congrArg some hc.symm⟩
  · simp only [codeChar?_eq_some_iff (List.cons_ne_nil _ _) (.inr ⟨by simpa using hplus, rfl⟩), hexFrom_cons, Nat.mul_zero, Nat.zero_add]
    constructor
    · rintro ⟨n₃, h₃, n₂, h₂, n₁, h₁, n₀, h₀, hc⟩
      exact .inl (.mk h₃ h₂ h₁ h₀ (Option.some.inj hc).symm)
    · rintro (⟨h₃, h₂, h₁, h₀, hc⟩ | ⟨h₂, h₁, h₀, hc⟩)
      · exact ⟨_, h₃, _, h₂, _, h₁, _, h₀, congrArg some hc.symm⟩
      · exact absurd rfl hplus

end TokenCursor

/-- A code is what the scanner takes as one and has no plus sign. -/
theorem isCode_iff : IsCode digits c ↔ IsReadCode digits c ∧ digits.head? ≠ some '+' := by
  constructor
  · intro h
    refine ⟨.inl h, ?_⟩
    cases h with
    | mk h₃ _ _ _ _ => exact fun hplus => hexDigit_ne_plus h₃ (Option.some.inj hplus)
  · rintro ⟨h | h, hplus⟩
    · exact h
    · cases h with
      | mk => exact absurd rfl hplus

/-! ## What stands between quotes -/

/-- `IsContent code quote s v`: the characters `s` can stand between two quotes and are read as `v`, where `code` says what the code of a
character is. -/
inductive IsContent (code : List Char → Char → Prop) (quote : Char) : List Char → List Char → Prop where
  | nil : IsContent code quote [] []
  | plain (c : Char) {s v : List Char} (hquote : c ≠ quote) (hbackslash : c ≠ '\\') (h : IsContent code quote s v) :
      IsContent code quote (c :: s) (c :: v)
  | newline {s v : List Char} (h : IsContent code quote s v) : IsContent code quote ('\\' :: 'n' :: s) ('\n' :: v)
  | tab {s v : List Char} (h : IsContent code quote s v) : IsContent code quote ('\\' :: 't' :: s) ('\t' :: v)
  | carriageReturn {s v : List Char} (h : IsContent code quote s v) : IsContent code quote ('\\' :: 'r' :: s) ('\r' :: v)
  | itself (c : Char) {s v : List Char} (hc : c ∉ ['n', 't', 'r', 'u']) (h : IsContent code quote s v) :
      IsContent code quote ('\\' :: c :: s) (c :: v)
  | coded {digits : List Char} {c : Char} {s v : List Char} (hcode : code digits c) (h : IsContent code quote s v) :
      IsContent code quote ('\\' :: 'u' :: (digits ++ s)) (c :: v)

variable {code code' : List Char → Char → Prop}

theorem IsContent.mono (himp : ∀ digits c, code digits c → code' digits c) (h : IsContent code quote s v) : IsContent code' quote s v := by
  induction h with
  | nil => exact .nil
  | plain c hquote hbackslash _ ih => exact .plain c hquote hbackslash ih
  | newline _ ih => exact .newline ih
  | tab _ ih => exact .tab ih
  | carriageReturn _ ih => exact .carriageReturn ih
  | itself c hc _ ih => exact .itself c hc ih
  | coded hcode _ ih => exact .coded (himp _ _ hcode) ih

/-- A character after a backslash that is not that of a code. -/
theorem IsContent.escaped (hc : c ≠ 'u') (h : IsContent code quote s v) : IsContent code quote ('\\' :: c :: s) (unescape c :: v) := by
  unfold unescape
  split
  · exact .newline h
  · exact .tab h
  · exact .carriageReturn h
  · exact .itself c (by simp_all) h

/-- The characters before a quote. -/
def IsQuote (c : Char) : Prop := c = '"' ∨ c = '\x27'

theorem IsQuote.ne_backslash (h : IsQuote quote) : quote ≠ '\\' := by
  rcases h with rfl | rfl <;> decide

namespace TokenCursor

/-- Content with a quote after it is read, and no more. -/
theorem stringRun_of_isContent (hquote : IsQuote quote) (h : IsContent IsReadCode quote s v) (tail : List Char) :
    stringRun quote (s ++ quote :: tail) = .closed v (s.length + 1) := by
  induction h with
  | nil => exact (stringRun_cons hquote.ne_backslash tail).trans (if_pos rfl)
  | plain c hc hbackslash _ ih =>
    rw [List.cons_append, stringRun_cons hbackslash, if_neg hc, ih]
    rfl
  | newline _ ih | tab _ ih | carriageReturn _ ih =>
    rw [List.cons_append, List.cons_append, stringRun, ih]
    · rfl
    all_goals intros; contradiction
  | itself c hc _ ih =>
    have hself : unescape c = c := by
      rw [unescape] <;> simp_all
    have hcode : c ≠ 'u' := by
      rintro rfl
      simp at hc
    rw [List.cons_append, List.cons_append, stringRun, ih, hself]
    · rfl
    · exact fun _ _ _ _ _ hu _ => hcode hu
    · exact hcode
  | coded hcode _ ih =>
    obtain ⟨c₃, c₂, c₁, c₀, rfl⟩ := hcode.exists_four
    simp only [List.cons_append, List.nil_append]
    rw [stringRun, ih, StringRun.afterCode, codeChar?_four.2 hcode]
    rfl

/-- A string that is read is content, and a quote comes after it. -/
theorem exists_isContent (h : stringRun quote s = .closed v n) :
    ∃ content tail, s = content ++ quote :: tail ∧ n = content.length + 1 ∧ IsContent IsReadCode quote content v := by
  fun_induction stringRun quote s generalizing v n with
  | case1 => cases h
  | case2 => cases h
  | case3 c₃ c₂ c₁ c₀ rest ih =>
    unfold StringRun.afterCode at h
    split at h
    · rename_i c hcode
      obtain ⟨v, n, hrun, rfl, rfl⟩ := StringRun.push_eq_closed.1 h
      obtain ⟨content, tail, rfl, rfl, hcontent⟩ := ih hrun
      exact ⟨_, tail, rfl, rfl, .coded (codeChar?_four.1 hcode) hcontent⟩
    · cases h
  | case4 code =>
    unfold StringRun.afterCode at h
    split at h <;> cases h
  | case5 c rest _ hescape ih =>
    obtain ⟨v, n, hrun, rfl, rfl⟩ := StringRun.push_eq_closed.1 h
    obtain ⟨content, tail, rfl, rfl, hcontent⟩ := ih hrun
    exact ⟨_, tail, rfl, rfl, .escaped hescape hcontent⟩
  | case6 rest hlast _ _ hmore =>
    obtain ⟨rfl, rfl⟩ := StringRun.closed.inj h
    exact ⟨[], rest, rfl, rfl, .nil⟩
  | case7 c rest hlast _ _ hmore hquote ih =>
    obtain ⟨v, n, hrun, rfl, rfl⟩ := StringRun.push_eq_closed.1 h
    obtain ⟨content, tail, rfl, rfl, hcontent⟩ := ih hrun
    exact ⟨_, tail, rfl, rfl, .plain c hquote (ne_backslash hlast hmore) hcontent⟩

/-! ## The tokens that are strings -/

theorem tokenRun_of_isQuote (hquote : IsQuote quote) :
    tokenRun afterOperand start quote s =
      match stringRun quote s with
      | .closed content length => (.ok (.string (String.ofList content)), length)
      | .badEscape place code length =>
        (.error ⟨.invalidEscape, start + 1 + place, some (String.ofList ('\\' :: 'u' :: code))⟩, length)
      | .unclosed length => (.error ⟨.unterminatedString, start, some quote.toString⟩, length) := by
  have hname : isNamePart quote = false := by
    rcases hquote with rfl | rfl <;> exact (isNamePart_of_ascii (by decide)).trans (by decide)
  have hdot : quote ≠ '.' := by rcases hquote with rfl | rfl <;> decide
  have hquote' : quote = '"' ∨ quote = '\x27' := hquote
  obtain ⟨hnumber, hword⟩ := tokenRun_of_not_namePart afterOperand s hname fun h => absurd h hdot
  rw [tokenRun, if_neg hnumber, if_neg hword]
  refine (if_pos hquote').trans ?_
  cases stringRun quote s <;> rfl

/-- A string that is read begins with a quote, has content, and ends with the quote. -/
theorem exists_isContent_of_tokenRun {w : String} (h : tokenRun afterOperand start c s = (.ok (.string w), n)) :
    IsQuote c ∧ ∃ content tail, s = content ++ c :: tail ∧ n = content.length + 1 ∧ IsContent IsReadCode c content w.toList := by
  have htoken := tokenRun_eq_ok_iff.1 h
  generalize hk : TokenKind.string w = k at htoken
  cases htoken with
  | string _ _ hquote hrun =>
    obtain rfl := TokenKind.string.inj hk
    rw [String.toList_ofList]
    exact ⟨hquote, exists_isContent hrun⟩
  | word =>
    unfold wordKind at hk
    split at hk <;> cases hk
  | _ => cases hk

end TokenCursor

/-- What is given from a place on, and where that ends, as far as strings go. -/
structure ReadsStrings (start : Nat) (ahead : List Char) (item : Except SyntaxError Token) (stop : Nat) : Prop where
  /-- Where content stands between quotes, a string is given that is what the content is read as. -/
  accepted : ∀ quote content tail v, IsQuote quote → ahead = quote :: (content ++ quote :: tail) → IsContent IsReadCode quote content v →
    item = .ok ⟨.string (String.ofList v), quote :: (content ++ [quote]), start⟩ ∧ stop = start + content.length + 2
  /-- Every string is one of these. -/
  spelled : ∀ w lexeme place, item = .ok ⟨.string w, lexeme, place⟩ →
    place = start ∧ ∃ quote content tail, IsQuote quote ∧ ahead = quote :: (content ++ quote :: tail) ∧
      lexeme = quote :: (content ++ [quote]) ∧ IsContent IsReadCode quote content w.toList
  /-- Any other text after a quote is refused. -/
  refused : ∀ quote rest, IsQuote quote → ahead = quote :: rest →
    (∃ w lexeme, item = .ok ⟨.string w, lexeme, start⟩) ∨ ∃ e, item = .error e ∧ e.fault ∈ [.invalidEscape, .unterminatedString]

namespace TokenCursor

/-- A cursor reads strings as they are spelled. -/
theorem readsStrings_next (afterOperand : Bool) (position : Nat) (hgap : GapBefore ahead gap)
    (hahead : ∀ c ∈ ahead.head?, ¬BeginsGap c) :
    ReadsStrings (position + gap.length) ahead (next ⟨gap ++ ahead, position, afterOperand⟩).1
      (next ⟨gap ++ ahead, position, afterOperand⟩).2.position := by
  cases ahead with
  | nil =>
    rw [List.append_nil, next_finish hgap]
    exact ⟨nofun, nofun, nofun⟩
  | cons c rest =>
    rw [next_of_tokenRun hgap (hahead c rfl)]
    refine ⟨?_, ?_, ?_⟩
    · rintro quote content tail v hquote heq hcontent
      obtain ⟨rfl, rfl⟩ := List.cons.inj heq
      rw [tokenRun_of_isQuote hquote, stringRun_of_isContent hquote hcontent]
      have htake : (content ++ c :: tail).take (content.length + 1) = content ++ [c] := by
        rw [List.take_length_add_append]
        rfl
      dsimp only
      rw [htake]
      exact ⟨rfl, by omega⟩
    · rintro w lexeme place heq
      cases hrun : tokenRun afterOperand (position + gap.length) c rest with
      | mk kind n =>
        rw [hrun] at heq
        cases kind with
        | error e => cases heq
        | ok k =>
          cases heq
          obtain ⟨hquote, content, tail, rfl, rfl, hcontent⟩ := exists_isContent_of_tokenRun hrun
          refine ⟨rfl, c, content, tail, hquote, rfl, ?_, hcontent⟩
          rw [List.take_length_add_append]
          rfl
    · rintro quote rest hquote heq
      obtain ⟨rfl, rfl⟩ := List.cons.inj heq
      rw [tokenRun_of_isQuote hquote]
      cases stringRun c _ with
      | closed content length => exact .inl ⟨_, _, rfl⟩
      | badEscape place code length => exact .inr ⟨_, rfl, by simp⟩
      | unclosed length => exact .inr ⟨_, rfl, by simp⟩

end TokenCursor

/-- Every source that comes of a text, whatever it was asked for before, reads strings as they are spelled: after the gap at which it
stands, a quote begins a string if and only if there is content after it and then the quote again; the value is what the content is read
as. Four hexadecimal digits that are a code point are a code in the content, and so are a plus sign and three of them. -/
theorem reads_strings {s after : TokenSource} {item : Except SyntaxError Token} (h : Reached text s) (hgives : s.Gives item after) :
    (∃ gap ahead, text.drop s.cursor.position = gap ++ ahead ∧ GapBefore ahead gap ∧ (∀ c ∈ ahead.head?, ¬BeginsGap c) ∧
      ReadsStrings (s.cursor.position + gap.length) ahead item after.cursor.position) ∧
      (∀ quote content v, IsContent IsCode quote content v → IsContent IsReadCode quote content v) ∧
      ∀ digits c, IsCode digits c ↔ IsReadCode digits c ∧ digits.head? ≠ some '+' := by
  refine ⟨?_, fun _ _ _ => .mono fun _ _ => .inl, fun _ _ => isCode_iff⟩
  obtain ⟨gap, ahead, hsplit, hgap, hahead⟩ := exists_gap s.cursor.rest
  have hnext : next ⟨gap ++ ahead, s.cursor.position, s.cursor.afterOperand⟩ = (item, after.cursor) := by
    rw [← hsplit]
    exact hgives.next_cursor
  have hreads := readsStrings_next s.cursor.afterOperand s.cursor.position hgap hahead
  rw [hnext] at hreads
  exact ⟨gap, ahead, h.rest_eq.symm.trans hsplit, hgap, hahead, hreads⟩

/-- The string `"a\tb\u0041"` is read as it is spelled. -/
theorem reads_strings_escapes :
    let content := ['a', '\\', 't', 'b', '\\', 'u', '0', '0', '4', '1']
    let text := '"' :: (content ++ ['"'])
    let s := TokenSource.ofText text
    Reached text s ∧ s.Gives s.read.1 s.read.2 ∧ IsContent IsReadCode '"' content ['a', '\t', 'b', 'A'] ∧
      s.read.1 = .ok ⟨.string "a\tbA", text, 0⟩ := by
  intro content text s
  have hreached : Reached text s := .start
  have hgives : s.Gives s.read.1 s.read.2 := .read
  have hcode : IsReadCode ['0', '0', '4', '1'] 'A' :=
    .inl (.mk (show IsHexDigit '0' 0 by decide) (show IsHexDigit '0' 0 by decide) (show IsHexDigit '4' 4 by decide)
      (show IsHexDigit '1' 1 by decide) rfl)
  have hcontent : IsContent IsReadCode '"' content ['a', '\t', 'b', 'A'] :=
    .plain 'a' (by decide) (by decide) (.tab (.plain 'b' (by decide) (by decide) (.coded hcode .nil)))
  obtain ⟨⟨gap, ahead, hsplit, hgap, -, hreads⟩, -⟩ := reads_strings hreached hgives
  have hsplit : text = gap ++ ahead := hsplit
  obtain rfl : gap = [] := by
    cases hgap with
    | nil => rfl
    | blank c hc =>
      obtain rfl := (List.cons.inj hsplit).1
      exact absurd hc (by decide)
    | comment => exact absurd (List.cons.inj hsplit).1 (by decide)
  exact ⟨hreached, hgives, hcontent, (hreads.accepted '"' content [] _ (.inl rfl) hsplit.symm hcontent).1⟩

/-- The string `"\u+041"` is read as `A`, although there are no four hexadecimal digits in it. -/
theorem read_signedCode :
    let rest := ['\\', 'u', '+', '0', '4', '1', '"']
    (TokenSource.ofText ('"' :: rest)).read.1 = .ok ⟨.string "A", '"' :: rest, 0⟩ ∧
      ¬∃ content tail v, rest = content ++ '"' :: tail ∧ IsContent IsCode '"' content v := by
  intro rest
  constructor
  · have hcode : IsReadCode ['+', '0', '4', '1'] 'A' :=
      .inr (.mk (show IsHexDigit '0' 0 by decide) (show IsHexDigit '4' 4 by decide) (show IsHexDigit '1' 1 by decide) rfl)
    have hstart : ∀ c ∈ ('"' :: rest).head?, ¬BeginsGap c := fun c hc => Option.some.inj hc ▸ by decide
    have hreads := readsStrings_next false 0 .nil hstart
    have hcontent : IsContent IsReadCode '"' ['\\', 'u', '+', '0', '4', '1'] ['A'] := .coded hcode .nil
    have hread := congrArg Prod.fst (TokenSource.Gives.next_cursor (s := .ofText ('"' :: rest)) .read)
    obtain ⟨hitem, -⟩ := hreads.accepted '"' _ [] _ (.inl rfl) rfl hcontent
    rw [← hread]
    exact hitem
  · rintro ⟨content, tail, v, heq, hcontent⟩
    have hsplit : ['\\', 'u', '+', '0', '4', '1', '"'] = content ++ '"' :: tail := heq
    cases hcontent with
    | plain c _ hbackslash => exact hbackslash (List.cons.inj hsplit).1.symm
    | itself c hc =>
      obtain rfl := (List.cons.inj (List.cons.inj hsplit).2).1
      exact hc (by decide)
    | coded hcode _ =>
      cases hcode with
      | mk h₃ => exact hexDigit_ne_plus h₃ (List.cons.inj (List.cons.inj (List.cons.inj hsplit).2).2).1.symm
    | _ => simp at hsplit

end CellExpr
