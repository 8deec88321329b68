import CellExpr.Proofs.Grammar.Placement
import CellExpr.Proofs.Scanning.Scan
import CellExpr.Proofs.Writing.Lexing

/-!
# Where errors show

An error names a position and what was found there. `FoundAt` says what can be found at a position of a text: its end, where it
ends, and else the characters that stand there. The reader of tokens reports nothing else (`Scans.standsIn`), and the grammar shows
a token in sight or a name that it has passed (`Alignment.standing`). Only a wrong pattern is shown in another way than it is
written, without the escapes of its slashes. The mark of the language moves errors on (`Expr.found_of_parse`).
-/

namespace CellExpr

open CellExpr.Text TokenCursor TokenReader

/-- What can be found at a position of a text. No token is written like the description of the end, which has blanks in it. -/
inductive FoundAt (text : List Char) (position : Nat) : String → Prop where
  | ending (h : position = text.length) : FoundAt text position "end of expression"
  | chars {c : Char} {word : List Char} (h : c :: word <+: text.drop position) (hc : c = 'e' → word.all isNamePart = true) :
      FoundAt text position (String.ofList (c :: word))

namespace FoundAt

variable {text : List Char} {position : Nat} {found : String}

theorem position_le (h : FoundAt text position found) : position ≤ text.length := by
  cases h with
  | ending h => exact Nat.le_of_eq h
  | chars h =>
    have hlength := h.length_le
    rw [List.length_cons, List.length_drop] at hlength
    omega

theorem ofList_ne_ending {c : Char} {word : List Char} (hc : c = 'e' → word.all isNamePart = true) :
    String.ofList (c :: word) ≠ "end of expression" := by
  intro heq
  have hchars : c :: word = 'e' :: "nd of expression".toList := by
    rw [← String.toList_ofList (l := c :: word), heq]
    decide
  obtain ⟨rfl, rfl⟩ := List.cons.inj hchars
  have hblank := List.all_eq_true.1 (hc rfl) ' ' (by decide)
  rw [isNamePart_of_isBlank (by decide)] at hblank
  cases hblank

/-- The end is found at the end, and other things stand where they are found. -/
theorem spec (h : FoundAt text position found) :
    (found = "end of expression" → position = text.length) ∧
      (found ≠ "end of expression" → found.toList <+: text.drop position) := by
  cases h with
  | ending h => exact ⟨fun _ => h, fun hne => absurd rfl hne⟩
  | chars h hc =>
    refine ⟨fun heq => absurd heq (ofList_ne_ending hc), fun _ => ?_⟩
    rwa [String.toList_ofList]

/-- What is found in a text is found further on if something stands before the text. -/
theorem append (h : FoundAt text position found) (before : List Char) :
    FoundAt (before ++ text) (position + before.length) found := by
  cases h with
  | ending h => exact .ending (by rw [h, List.length_append, Nat.add_comm])
  | chars h hc =>
    refine .chars ?_ hc
    rwa [Nat.add_comm, List.drop_length_add_append]

end FoundAt

/-! ## Wrong tokens -/

namespace TokenCursor

variable {quote c : Char} {s code : List Char} {place n : Nat} {afterOperand : Bool} {k : TokenKind} {e : SyntaxError}

theorem StringRun.push_eq_badEscape {run : StringRun} {places : Nat} :
    run.push c places = badEscape place code n ↔
      ∃ inner length, run = badEscape inner code length ∧ place = inner + places ∧ n = length + places := by
  cases run <;> simp [push, eq_comm, and_assoc]
  constructor
  · rintro ⟨h1, h2, h3⟩
    exact ⟨h2, h1, h3⟩
  · rintro ⟨h2, h1, h3⟩
    exact ⟨h1, h2, h3⟩

/-- An escape at fault stands at its place in a string. -/
theorem prefix_of_badEscape (h : stringRun quote s = .badEscape place code n) : '\\' :: 'u' :: code <+: s.drop place := by
  fun_induction stringRun quote s generalizing place n with
  | case1 => cases h
  | case2 => cases h
  | case3 a b c d rest ih =>
    unfold StringRun.afterCode at h
    split at h
    · obtain ⟨inner, _, hrun, rfl, _⟩ := StringRun.push_eq_badEscape.1 h
      exact ih hrun
    · cases h
      exact List.prefix_append ['\\', 'u', a, b, c, d] rest
  | case4 code' =>
    unfold StringRun.afterCode at h
    split at h <;> cases h
    exact List.prefix_refl _
  | case5 c rest _ _ ih =>
    obtain ⟨inner, _, hrun, rfl, _⟩ := StringRun.push_eq_badEscape.1 h
    exact ih hrun
  | case6 => cases h
  | case7 c rest _ _ _ _ _ ih =>
    obtain ⟨inner, _, hrun, rfl, _⟩ := StringRun.push_eq_badEscape.1 h
    exact ih hrun

theorem ne_e_of_beginsNumber (h : BeginsNumber afterOperand c s) : c ≠ 'e' := by
  rintro rfl
  rcases h with h | ⟨h, _⟩
  · exact absurd h (by decide)
  · exact absurd h (by decide)

theorem ne_e_of_not_word (h : ¬(isAlphabetic c = true ∨ c = '_')) : c ≠ 'e' := by
  rintro rfl
  exact h (.inl (isAlphabetic_of_letter (by decide)))

/-- A token that begins like the description of the end is a word. -/
theorem TokenAt.all_isNamePart (h : TokenAt afterOperand c s k n) (hc : c = 'e') : (s.take n).all isNamePart = true := by
  cases h with
  | number hnumber => exact absurd hc (ne_e_of_beginsNumber hnumber)
  | word =>
    rw [← List.prefix_iff_eq_take.1 (List.takeWhile_prefix _)]
    exact List.all_takeWhile
  | string _ hword | regex _ hword | mark _ hword => exact absurd hc (ne_e_of_not_word hword)

/-- A name is read from its characters, and so is the word `if`. -/
theorem TokenAt.ofList_eq (h : TokenAt afterOperand c s k n) :
    (∀ name, k = .name name → String.ofList (c :: s.take n) = name) ∧
      (k = .keyword .if → String.ofList (c :: s.take n) = ControlForm.if.name) := by
  cases h with
  | word =>
    rw [← List.prefix_iff_eq_take.1 (List.takeWhile_prefix _)]
    unfold wordKind
    split
    all_goals
      rename_i hword
      refine ⟨fun name hk => ?_, fun hk => ?_⟩ <;> cases hk
    · exact hword
    · rfl
  | _ => exact ⟨nofun, nofun⟩

/-- The error of a token stands in the token. -/
theorem foundAt_of_tokenRun {passed : List Char} (h : tokenRun afterOperand passed.length c s = (.error e, n)) :
    ∃ found, e.found = some found ∧ FoundAt (passed ++ c :: s) e.position found := by
  have hdrop : (passed ++ c :: s).drop passed.length = c :: s := List.drop_left
  unfold tokenRun at h
  split at h
  · rename_i hnumber
    dsimp only at h
    split at h <;> cases h
    refine ⟨_, rfl, .chars ?_ fun hc => absurd hc (ne_e_of_beginsNumber hnumber)⟩
    rw [hdrop]
    exact List.cons_prefix_cons.2 ⟨rfl, List.take_prefix _ _⟩
  · split at h
    · cases h
    · rename_i hword
      have hone : FoundAt (passed ++ c :: s) passed.length c.toString := by
        have hprefix : [c] <+: (passed ++ c :: s).drop passed.length := by
          rw [hdrop]
          exact List.cons_prefix_cons.2 ⟨rfl, List.nil_prefix⟩
        exact .chars hprefix fun _ => rfl
      split at h
      · split at h <;> cases h
        · rename_i hrun
          refine ⟨_, rfl, .chars ?_ fun hc => absurd hc (by decide)⟩
          rw [Nat.add_assoc, List.drop_length_add_append, Nat.add_comm, List.drop_succ_cons]
          exact prefix_of_badEscape hrun
        · exact ⟨_, rfl, hone⟩
      · split at h
        · rename_i hslash
          obtain ⟨rfl, _⟩ := hslash
          split at h <;> cases h
          exact ⟨_, rfl, hone⟩
        · split at h <;> cases h
          exact ⟨_, rfl, hone⟩

end TokenCursor

/-- A token stands in a text where it is found. A name is found as it is read, and so is the word `if`. -/
structure Token.StandsIn (text : List Char) (t : Token) : Prop where
  found : FoundAt text t.position t.description
  name : ∀ name, t.kind = .name name → t.description = name
  choice : t.kind = .keyword .if → t.description = ControlForm.if.name

/-- What comes of a text stands in it: a token, or what an error found. -/
def StandsIn (text : List Char) : Except SyntaxError Token → Prop
  | .ok t => t.StandsIn text
  | .error e => ∃ found, e.found = some found ∧ FoundAt text e.position found

theorem Token.description_of_ne_finish {k : TokenKind} (h : k ≠ .finish) (lexeme : List Char) (position : Nat) :
    Token.description ⟨k, lexeme, position⟩ = String.ofList lexeme := by
  cases k <;> first | rfl | exact absurd rfl h

theorem Token.standsIn_ending (text : List Char) : (Token.ending text.length).StandsIn text :=
  ⟨.ending rfl, nofun, nofun⟩

variable {text rest : List Char} {before : List Token} {last : Except SyntaxError Token} {afterOperand : Bool} {position : Nat}

/-- The tokens of a scan stand in the text that it goes on in, and so does its error. -/
theorem Scans.standsIn (h : Scans afterOperand position rest before last) (passed : List Char)
    (hposition : position = passed.length) :
    (∀ t ∈ before, t.StandsIn (passed ++ rest)) ∧ StandsIn (passed ++ rest) last := by
  induction h generalizing passed with
  | finish _ hstop =>
    rw [hstop, hposition, ← List.length_append]
    exact ⟨nofun, Token.standsIn_ending _⟩
  | @error afterOperand position start gap rest c e length hgap hc hstart hrun =>
    rw [hstart, hposition, ← List.length_append] at hrun
    rw [← List.append_assoc]
    exact ⟨nofun, foundAt_of_tokenRun hrun⟩
  | @token afterOperand position start gap word rest c k ts last hgap hc hstart hrun h ih =>
    have htail := ih (passed ++ gap ++ c :: word) (by simp only [List.length_append, List.length_cons]; omega)
    simp only [List.append_assoc, List.cons_append] at htail
    have hname := hrun.ofList_eq
    have hword := hrun.all_isNamePart
    rw [List.take_left] at hname hword
    have htoken : Token.StandsIn (passed ++ (gap ++ c :: (word ++ rest))) ⟨k, c :: word, start⟩ := by
      have hdescription := Token.description_of_ne_finish hrun.canBeRead.2 (c :: word) start
      constructor
      · rw [hdescription]
        refine .chars ?_ hword
        rw [hstart, hposition, ← List.append_assoc, ← List.length_append, List.drop_left]
        exact List.prefix_append (c :: word) rest
      · rw [hdescription]
        exact hname.1
      · rw [hdescription]
        exact hname.2
    exact ⟨List.forall_mem_cons.2 ⟨htoken, htail.1⟩, htail.2⟩

/-! ## Errors of the grammar -/

/-- A reading beside itself, of tokens that stand in a text. -/
def Alignment.standing (text : List Char) : Alignment where
  view v w := w = v ∧ v.current.StandsIn text ∧ (v.current.kind ≠ .finish →
    ∃ ts last, v.rest = TokenStream.ofTokens ts ++ [last] ∧ (∀ t ∈ ts, t.StandsIn text) ∧ StandsIn text last ∧
      ∀ t, last = .ok t → t.kind = .finish)
  token t u := u = t ∧ t.StandsIn text
  error e e' := e' = e ∧ ((∃ f, e.fault = .invalidPattern f) ∨ ∃ found, e.found = some found ∧ FoundAt text e.position found)
  sight := by
    rintro v _ ⟨rfl, ht, _⟩
    exact ⟨rfl, ht⟩
  same := by
    rintro t _ ⟨rfl, _⟩
    exact ⟨rfl, rfl⟩
  report := by
    rintro t _ fault found ⟨rfl, ht⟩ hreport
    cases hreport with
    | sight => exact ⟨rfl, .inr ⟨_, rfl, ht.found⟩⟩
    | name hk => exact ⟨rfl, .inr ⟨_, rfl, ht.name _ hk ▸ ht.found⟩⟩
    | choice hk => exact ⟨rfl, .inr ⟨_, rfl, ht.choice hk ▸ ht.found⟩⟩
    | pattern _ f => exact ⟨rfl, .inl ⟨f, rfl⟩⟩
  next := by
    rintro v _ ⟨rfl, _, hnext⟩ hk
    obtain ⟨ts, last, hrest, hts, hlast, hfinish⟩ := hnext hk
    rw [hrest]
    cases ts with
    | cons t ts =>
      have htail := fun u hu => hts u (List.mem_cons_of_mem _ hu)
      exact .ok ⟨rfl, hts t List.mem_cons_self, fun _ => ⟨ts, last, rfl, htail, hlast, hfinish⟩⟩
    | nil =>
      cases last with
      | error e => exact .error ⟨rfl, .inr hlast⟩
      | ok t => exact .ok ⟨rfl, hlast, fun hne => absurd (hfinish t rfl) hne⟩

theorem Alignment.goesOn_standing (text : List Char) : (Alignment.standing text).GoesOn := by
  rintro v w ⟨_, _, hnext⟩ hk
  obtain ⟨ts, last, hrest, _⟩ := hnext hk
  rw [hrest]
  exact List.append_ne_nil_of_right_ne_nil _ (List.cons_ne_nil _ _)

namespace Expr

/-- An error of a text is about a pattern, or stands in the text. -/
theorem foundAt_of_ofChars {e : SyntaxError} (h : ofChars text = .error e) :
    (∃ f, e.fault = .invalidPattern f) ∨ ∃ found, e.found = some found ∧ FoundAt text e.position found := by
  obtain ⟨before, last, hscans⟩ := exists_scans false 0 text
  obtain ⟨hbefore, hlast⟩ := hscans.standsIn [] rfl
  have hfinish : ∀ t, last = .ok t → t.kind = .finish := by
    rintro t rfl
    rw [hscans.last_eq]
    rfl
  have hpull : Alike (Alignment.standing text).view (Alignment.standing text).error (pull 0 (.ofText text))
      (pull 0 (.ofText text)) := by
    rw [hscans.ofText_eq]
    cases before with
    | cons t ts =>
      have htail := fun u hu => hbefore u (List.mem_cons_of_mem _ hu)
      exact .ok ⟨rfl, hbefore t List.mem_cons_self, fun _ => ⟨ts, last, rfl, htail, hlast, hfinish⟩⟩
    | nil =>
      cases last with
      | error e => exact .error ⟨rfl, .inr hlast⟩
      | ok t => exact .ok ⟨rfl, hlast, fun hne => absurd (hfinish t rfl) hne⟩
  have halike := Alignment.ofStream (Alignment.goesOn_standing text) rfl hpull
  rw [← ofChars, h] at halike
  cases halike with
  | error h => exact h.2

theorem dropLanguageMark?_eq_some {rest : List Char} (h : dropLanguageMark? text = some rest) :
    ∃ removed, text = removed ++ rest := by
  unfold dropLanguageMark? at h
  dsimp only at h
  split at h
  · rename_i hmark
    obtain ⟨tail, htail⟩ := List.isPrefixOf_iff_prefix.1 hmark
    rw [← htail, List.drop_left] at h
    obtain rfl := Option.some.inj h
    refine ⟨text.takeWhile isBlank ++ languageMark, ?_⟩
    rw [List.append_assoc, htail, trimStart, List.takeWhile_append_dropWhile]
  · cases h

/-- The mark of the language is passed over after blank characters. -/
theorem dropLanguageMark?_append {blanks : List Char} (hblanks : ∀ c ∈ blanks, isBlank c = true) (rest : List Char) :
    dropLanguageMark? (blanks ++ languageMark ++ rest) = some rest := by
  have htrim : trimStart (blanks ++ languageMark ++ rest) = languageMark ++ rest := by
    rw [List.append_assoc]
    exact trimStart_append hblanks (by decide)
  unfold dropLanguageMark?
  rw [htrim]
  dsimp only
  rw [if_pos (List.isPrefixOf_iff_prefix.2 (List.prefix_append _ _)), List.drop_left]

theorem foundAt_of_parse {text : String} {e : SyntaxError} (h : parse text = .error e) :
    (∃ f, e.fault = .invalidPattern f) ∨ ∃ found, e.found = some found ∧ FoundAt text.toList e.position found := by
  unfold parse at h
  split at h
  · rename_i rest hrest
    obtain ⟨removed, hremoved⟩ := dropLanguageMark?_eq_some hrest
    have hlength : text.toList.length - rest.length = removed.length := by
      rw [hremoved, List.length_append, Nat.add_sub_cancel]
    rw [hlength] at h
    cases hchars : ofChars rest with
    | ok => rw [hchars] at h; cases h
    | error e' =>
      rw [hchars] at h
      obtain rfl := Except.error.inj h
      refine (foundAt_of_ofChars hchars).imp id fun ⟨found, heq, hfound⟩ => ⟨found, heq, ?_⟩
      rw [hremoved]
      exact hfound.append removed
  · exact foundAt_of_ofChars h

theorem prefix_message_invalidPattern (f : PatternFault) :
    "Invalid regular expression".toList <+: (SyntaxFault.invalidPattern f).message.toList := by
  have hwording : "Invalid regular expression".toList <+: "Invalid regular expression: ".toList := by decide
  have hmessage : (SyntaxFault.invalidPattern f).message.toList = "Invalid regular expression: ".toList ++ f.message.toList :=
    String.toList_append
  exact hwording.trans ⟨_, hmessage.symm⟩

/-- An error that is not about a pattern shows a position of the text, and what it found stands there: the end of the text at its
end, and else characters of the text. After the mark of the language a text is read as it is without what stands before it, with
the same tree or the same error, which moves on by what was taken away. -/
theorem found_of_parse (text : String) :
    (∀ e, parse text = .error e → ¬"Invalid regular expression".toList <+: e.message.toList →
      e.position ≤ text.toList.length ∧ ∃ found, e.found = some found ∧
        (found = "end of expression" → e.position = text.toList.length) ∧
        (found ≠ "end of expression" → found.toList <+: text.toList.drop e.position)) ∧
      ∀ blanks rest : List Char, (∀ c ∈ blanks, isBlank c = true) → text.toList = blanks ++ languageMark ++ rest →
        parse text = (ofChars rest).mapError (·.shift (blanks ++ languageMark).length) := by
  refine ⟨fun e he hmessage => ?_, fun blanks rest hblanks htext => ?_⟩
  · rcases foundAt_of_parse he with ⟨f, hf⟩ | ⟨found, heq, hfound⟩
    · have hshown : e.message = (SyntaxFault.invalidPattern f).message := congrArg SyntaxFault.message hf
      exact absurd (hshown ▸ prefix_message_invalidPattern f) hmessage
    · exact ⟨hfound.position_le, found, heq, hfound.spec⟩
  · rw [parse, htext, dropLanguageMark?_append hblanks]
    dsimp only
    rw [List.length_append, Nat.add_sub_cancel]

/-- A string with an escape that is cut short, after blank characters and the mark of the language. -/
def brokenEscape : String := "\t grel:'é\\uzz'"

/-- The escape is found where it stands in the whole text, with the characters that are left. -/
theorem found_of_parse_brokenEscape :
    ∃ e, parse brokenEscape = .error e ∧ ¬"Invalid regular expression".toList <+: e.message.toList ∧
      e.found = some "\\uzz'" ∧ e.position = 9 ∧ "\\uzz'".toList <+: brokenEscape.toList.drop e.position ∧
      parse brokenEscape = (ofChars ['\x27', 'é', '\\', 'u', 'z', 'z', '\x27']).mapError (·.shift 7) := by
  have hread : ((parse brokenEscape).map fun _ => ()) = .error ⟨.invalidEscape, 9, some "\\uzz'"⟩ := by decide +kernel
  obtain ⟨hfound, hmarked⟩ := found_of_parse brokenEscape
  cases he : parse brokenEscape with
  | ok => rw [he] at hread; cases hread
  | error e =>
    rw [he] at hread
    obtain rfl := Except.error.inj hread
    have hmessage : ¬"Invalid regular expression".toList <+: SyntaxFault.invalidEscape.message.toList := by decide
    obtain ⟨_, found, heq, _, hstands⟩ := hfound _ he hmessage
    obtain rfl := Option.some.inj heq
    have hblanks : ∀ c ∈ ['\t', ' '], isBlank c = true :=
      List.forall_mem_cons.2 ⟨by decide, List.forall_mem_singleton.2 (by decide)⟩
    have htext : brokenEscape.toList = ['\t', ' '] ++ languageMark ++ ['\x27', 'é', '\\', 'u', 'z', 'z', '\x27'] := by
      decide +kernel
    have hshift := hmarked _ _ hblanks htext
    exact ⟨_, rfl, hmessage, rfl, rfl, hstands (by decide), he ▸ hshift⟩

end Expr

end CellExpr
