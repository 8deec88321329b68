import CellExpr.Proofs.Calendar.LetterPatterns
import CellExpr.Proofs.Calendar.WrittenDates
import Mathlib.Algebra.Order.BigOperators.Group.List
import Mathlib.Data.List.DropRight
import Mathlib.Data.List.Perm.Subperm

/-!
# Patterns of fields

Patterns for a date and a time with all digits, with separators between the fields. A text in such a pattern is read field by field
(`read?_format`), and what is known in the end is what the pattern has fields for (`Parts.known`).
-/

namespace CellExpr.Calendar

open CellExpr.Text CellExpr.Number

variable {c : Char} {f : Field} {fs : List Field} {l : Layout} {d e : Instant} {s : PatternState}

/-! ## Patterns -/

/-- The fields of a date and a time that have all their digits, and the half of the day. -/
def plainFields : List Field :=
  [.year, .month true, .day true, .hour true, .halfDayHour true, .halfDay, .minute true, .second true]

/-- The letters of such a field. -/
def Field.letters : Field → List Char
  | .year => ['y', 'y', 'y', 'y']
  | .month true => ['M', 'M']
  | .day true => ['d', 'd']
  | .hour true => ['H', 'H']
  | .halfDayHour true => ['h', 'h']
  | .halfDay => ['a']
  | .minute true => ['m', 'm']
  | .second true => ['s', 's']
  | _ => []

/-- A text between two fields: no letters and no digits, and no quote that has no counterpart. -/
structure IsSeparator (separator : List Char) : Prop where
  ne_nil : separator ≠ []
  isAlphanum : ∀ c ∈ separator, c.isAlphanum = false
  quotes : separator.count '\x27' % 2 = 0

instance (separator : List Char) : Decidable (IsSeparator separator) :=
  have : Decidable (∀ c ∈ separator, c.isAlphanum = false) := List.decidableBAll (fun c => c.isAlphanum = false) separator
  decidable_of_iff (separator ≠ [] ∧ (∀ c ∈ separator, c.isAlphanum = false) ∧ separator.count '\x27' % 2 = 0)
    ⟨fun ⟨hne, halphanum, hquotes⟩ => ⟨hne, halphanum, hquotes⟩, fun ⟨hne, halphanum, hquotes⟩ => ⟨hne, halphanum, hquotes⟩⟩

/-- A pattern of a year, a month and a day and of any of the fields of a time, each once, with separators between them. -/
structure FieldPattern where
  first : Field
  rest : List (List Char × Field)
  plain : ∀ f ∈ first :: rest.map Prod.snd, f ∈ plainFields := by decide
  nodup : (first :: rest.map Prod.snd).Nodup := by decide
  year : .year ∈ first :: rest.map Prod.snd := by decide
  month : .month true ∈ first :: rest.map Prod.snd := by decide
  day : .day true ∈ first :: rest.map Prod.snd := by decide
  separators : ∀ p ∈ rest, IsSeparator p.1 := by decide

namespace FieldPattern

/-- The fields of the pattern. -/
def fields (p : FieldPattern) : List Field := p.first :: p.rest.map Prod.snd

/-- The letters of the pattern. -/
def letters (p : FieldPattern) : List Char := p.first.letters ++ p.rest.flatMap fun (separator, f) => separator ++ f.letters

/-- What the letters describe. -/
def layout (p : FieldPattern) : Layout :=
  .field p.first :: p.rest.flatMap fun (separator, f) => Layout.ofLetters separator ++ [.field f]

end FieldPattern

theorem ofLetters_letters (hf : f ∈ plainFields) : Layout.ofLetters f.letters = [.field f] := by
  revert f
  decide

theorem isAlphanum_of_mem_letters (hf : f ∈ plainFields) (hc : c ∈ f.letters) : c.isAlphanum = true := by
  have hall : ∀ f ∈ plainFields, f.letters.all Char.isAlphanum = true := by decide
  exact List.all_eq_true.1 (hall f hf) c hc

theorem letters_ne_nil (hf : f ∈ plainFields) : f.letters ≠ [] := by
  revert f
  decide

/-- Letters without quotes are followed by no other letter of their field. -/
theorem ofLetters_letters_append (hf : f ∈ plainFields) {p : List Char} (hp : ∀ c ∈ p.head?, c.isAlphanum = false) :
    Layout.ofLetters (f.letters ++ p) = .field f :: Layout.ofLetters p := by
  have hcount : f.letters.count '\x27' % 2 = 0 := by
    revert f
    decide
  rw [Layout.ofLetters_append hcount, ofLetters_letters hf, List.singleton_append]
  intro c hc hnext
  have hletter := isAlphanum_of_mem_letters hf (List.mem_of_getLast? hc)
  rw [hp c hnext] at hletter
  cases hletter

theorem IsSeparator.ofLetters_append {separator p : List Char} (h : IsSeparator separator) (hp : ∀ c ∈ p.head?, c.isAlphanum = true) :
    Layout.ofLetters (separator ++ p) = Layout.ofLetters separator ++ Layout.ofLetters p := by
  refine Layout.ofLetters_append h.quotes fun c hc hnext => ?_
  have hletter := h.isAlphanum c (List.mem_of_getLast? hc)
  rw [hp c hnext] at hletter
  cases hletter

theorem ofLetters_fields (rest : List (List Char × Field)) (hf : f ∈ plainFields) (hplain : ∀ p ∈ rest, p.2 ∈ plainFields)
    (hseparators : ∀ p ∈ rest, IsSeparator p.1) :
    Layout.ofLetters (f.letters ++ rest.flatMap fun (separator, f) => separator ++ f.letters) =
      .field f :: rest.flatMap fun (separator, f) => Layout.ofLetters separator ++ [.field f] := by
  induction rest generalizing f with
  | nil =>
    rw [List.flatMap_nil, List.append_nil]
    exact ofLetters_letters hf
  | cons p rest ih =>
    obtain ⟨separator, g⟩ := p
    obtain ⟨hg, hplain'⟩ := List.forall_mem_cons.1 hplain
    obtain ⟨hseparator, hseparators'⟩ := List.forall_mem_cons.1 hseparators
    obtain ⟨a, as, hletters⟩ := List.exists_cons_of_ne_nil (letters_ne_nil hg)
    obtain ⟨b, bs, rfl⟩ := List.exists_cons_of_ne_nil hseparator.ne_nil
    have ha : a.isAlphanum = true := isAlphanum_of_mem_letters hg (hletters ▸ List.mem_cons_self)
    have hb : b.isAlphanum = false := hseparator.isAlphanum b List.mem_cons_self
    rw [List.flatMap_cons, List.flatMap_cons, ofLetters_letters_append hf, List.append_assoc, hseparator.ofLetters_append, ih hg hplain' hseparators',
      List.append_assoc, List.singleton_append]
    · rw [hletters]
      rintro _ ⟨⟩
      exact ha
    · rintro _ ⟨⟩
      exact hb

theorem FieldPattern.ofLetters_letters (p : FieldPattern) : Layout.ofLetters p.letters = p.layout :=
  ofLetters_fields p.rest (p.plain _ List.mem_cons_self)
    (fun _ hq => p.plain _ (List.mem_cons_of_mem _ (List.mem_map_of_mem hq))) p.separators

/-! ## Separators -/

theorem ofRun?_eq_none (hc : c.isAlphanum = false) (count : Nat) : Field.ofRun? c count = none := by
  have hne (e : Char) (he : e.isAlphanum = true) : c ≠ e := by
    rintro rfl
    rw [hc] at he
    cases he
  simp only [Field.ofRun?, hne 'y' rfl, hne 'M' rfl, hne 'd' rfl, hne 'D' rfl, hne 'H' rfl, hne 'h' rfl, hne 'm' rfl, hne 's' rfl,
    hne 'S' rfl, hne 'a' rfl, hne 'E' rfl, hne 'Z' rfl, hne 'X' rfl, if_false]

/-- Characters that are no letters and no digits. -/
def IsSeparating (l : Layout) : Prop := ∀ piece ∈ l, ∃ c, piece = .literal c ∧ c.isAlphanum = false

/-- The character of a run, if it is a run, is no letter and no digit. -/
def PatternState.IsSeparating : PatternState → Prop
  | inRun c _ => c.isAlphanum = false
  | _ => True

theorem isSeparating_runPieces (hc : c.isAlphanum = false) (count : Nat) : IsSeparating (runPieces c count) := by
  intro piece hpiece
  rw [runPieces, ofRun?_eq_none hc] at hpiece
  exact ⟨c, List.eq_of_mem_replicate hpiece, hc⟩

theorem PatternState.IsSeparating.after (h : s.IsSeparating) (hc : c.isAlphanum = false) : (s.after c).IsSeparating := by
  cases s with
  | outside =>
    rw [PatternState.after]
    split
    · trivial
    · exact hc
  | inRun d count =>
    rw [PatternState.after]
    split
    · exact h
    · split
      · trivial
      · exact hc
  | opened | quoted =>
    rw [PatternState.after]
    split <;> trivial

theorem PatternState.IsSeparating.completed (h : s.IsSeparating) (hc : c.isAlphanum = false) : Calendar.IsSeparating (s.completed c) := by
  have hliteral : Calendar.IsSeparating [.literal c] := fun piece hpiece => ⟨c, List.mem_singleton.1 hpiece, hc⟩
  cases s with
  | outside => exact List.forall_mem_nil _
  | inRun d count =>
    rw [PatternState.completed]
    split
    · exact List.forall_mem_nil _
    · exact isSeparating_runPieces h count
  | opened => exact hliteral
  | quoted =>
    rw [PatternState.completed]
    split
    · exact List.forall_mem_nil _
    · exact hliteral

theorem isSeparating_ofLettersFrom {letters : List Char} (hs : s.IsSeparating) (h : ∀ c ∈ letters, c.isAlphanum = false) :
    IsSeparating (Layout.ofLettersFrom s letters) := by
  induction letters generalizing s with
  | nil =>
    cases s with
    | inRun c count => exact isSeparating_runPieces hs count
    | outside | opened | quoted => exact nofun
  | cons c letters ih =>
    obtain ⟨hc, hletters⟩ := List.forall_mem_cons.1 h
    rw [Layout.ofLettersFrom_cons]
    intro piece hpiece
    rcases List.mem_append.1 hpiece with hpiece | hpiece
    · exact hs.completed hc piece hpiece
    · exact ih (hs.after hc) hletters piece hpiece

/-! ## Layouts of fields -/

/-- A field with all its digits, or a character that is no letter and no digit. -/
def Piece.IsPlain : Piece → Prop
  | field f => f ∈ plainFields
  | literal c => c.isAlphanum = false

/-- The fields of a layout. -/
def Layout.fields (l : Layout) : List Field := l.filterMap fun piece => match piece with
  | .field f => some f
  | .literal _ => none

theorem FieldPattern.isPlain_of_mem_layout (p : FieldPattern) : ∀ piece ∈ p.layout, piece.IsPlain := by
  intro piece hpiece
  rcases List.mem_cons.1 hpiece with rfl | hpiece
  · exact p.plain _ List.mem_cons_self
  obtain ⟨⟨separator, f⟩, hmem, hpiece⟩ := List.mem_flatMap.1 hpiece
  rcases List.mem_append.1 hpiece with hpiece | hpiece
  · have hseparator := isSeparating_ofLettersFrom (s := .outside) trivial (p.separators _ hmem).isAlphanum
    obtain ⟨c, rfl, hc⟩ := hseparator piece hpiece
    exact hc
  · obtain rfl := List.mem_singleton.1 hpiece
    exact p.plain f (List.mem_cons_of_mem _ (List.mem_map_of_mem hmem))

theorem IsSeparating.fields_eq (h : IsSeparating l) : l.fields = [] := by
  refine List.filterMap_eq_nil_iff.2 fun piece hpiece => ?_
  obtain ⟨c, rfl, -⟩ := h piece hpiece
  rfl

theorem FieldPattern.fields_layout (p : FieldPattern) : p.layout.fields = p.fields := by
  have hrest (rest : List (List Char × Field)) (h : ∀ q ∈ rest, IsSeparator q.1) :
      Layout.fields (rest.flatMap fun (separator, f) => Layout.ofLetters separator ++ [.field f]) = rest.map Prod.snd := by
    induction rest with
    | nil => rfl
    | cons q rest ih =>
      obtain ⟨hseparator, hrest⟩ := List.forall_mem_cons.1 h
      have hnone := (isSeparating_ofLettersFrom (s := .outside) trivial hseparator.isAlphanum).fields_eq
      rw [List.flatMap_cons, Layout.fields, List.filterMap_append, List.filterMap_append]
      exact congrArg₂ (· ++ [q.2] ++ ·) hnone (ih hrest)
  exact congrArg (p.first :: ·) (hrest p.rest p.separators)

theorem Layout.fields_field (f : Field) (l : Layout) : Layout.fields (.field f :: l) = f :: l.fields := rfl

theorem Layout.fields_literal (c : Char) (l : Layout) : Layout.fields (.literal c :: l) = l.fields := rfl

/-! ## Texts of fields -/

/-- The number of characters of a field. -/
def Field.width : Field → Nat
  | .year => 4
  | _ => 2

/-- The number that a field shows. -/
def Instant.fieldNumber (d : Instant) : Field → Nat
  | .year => d.civil.year.toNat
  | .month _ => d.civil.month
  | .day _ => d.civil.day
  | .hour _ => d.hour
  | .halfDayHour _ => (d.hour + 11) % 12 + 1
  | .minute _ => d.minute
  | .second _ => d.second
  | _ => 0

theorem mem_plainFields_iff : f ∈ plainFields ↔ f = .year ∨ f = .month true ∨ f = .day true ∨ f = .hour true ∨ f = .halfDayHour true ∨
    f = .halfDay ∨ f = .minute true ∨ f = .second true := by
  simp only [plainFields, List.mem_cons, List.not_mem_nil, or_false]

theorem twoDigits_true (n : Nat) : twoDigits true n = filledNumber 2 n := rfl

theorem Field.width_pos (f : Field) : 0 < f.width := by
  cases f <;> exact Nat.succ_pos _

/-- All fields but the half of the day show a number, with all its digits. -/
theorem Instant.IsPlain.fieldText_eq (h : d.IsPlain) (hf : f ∈ plainFields) (hne : f ≠ .halfDay) :
    d.fieldNumber f < 10 ^ f.width ∧ d.fieldText f = filledNumber f.width (d.fieldNumber f) := by
  have hyear := h.year
  have hmonth := d.month_bounds
  have hday := d.day_bounds
  have hhour := d.hour_lt
  have hminute := d.minute_lt
  have hsecond := d.second_lt
  rcases mem_plainFields_iff.1 hf with rfl | rfl | rfl | rfl | rfl | rfl | rfl | rfl
  · rw [Instant.fieldNumber, Instant.fieldText]
    exact ⟨show d.civil.year.toNat < 10 ^ 4 by omega, Instant.yearText_eq hyear⟩
  · rw [Instant.fieldNumber, Instant.fieldText, twoDigits_true]
    exact ⟨show d.civil.month < 10 ^ 2 by omega, rfl⟩
  · rw [Instant.fieldNumber, Instant.fieldText, twoDigits_true]
    exact ⟨show d.civil.day < 10 ^ 2 by omega, rfl⟩
  · rw [Instant.fieldNumber, Instant.fieldText, twoDigits_true]
    exact ⟨show d.hour < 10 ^ 2 by omega, rfl⟩
  · rw [Instant.fieldNumber, Instant.fieldText, twoDigits_true]
    exact ⟨show (d.hour + 11) % 12 + 1 < 10 ^ 2 by omega, rfl⟩
  · exact absurd rfl hne
  · rw [Instant.fieldNumber, Instant.fieldText, twoDigits_true]
    exact ⟨show d.minute < 10 ^ 2 by omega, rfl⟩
  · rw [Instant.fieldNumber, Instant.fieldText, twoDigits_true, Instant.shownSecond_eq h.nanos]
    exact ⟨show d.second < 10 ^ 2 by omega, rfl⟩

theorem Instant.fieldText_halfDay (d : Instant) : d.fieldText .halfDay = [if d.hour < 12 then 'A' else 'P', 'M'] := by
  rw [Instant.fieldText]
  split <;> rfl

theorem Instant.IsPlain.length_fieldText (h : d.IsPlain) (hf : f ∈ plainFields) : (d.fieldText f).length = f.width := by
  by_cases hne : f = .halfDay
  · rw [hne, d.fieldText_halfDay]
    rfl
  · obtain ⟨hlt, htext⟩ := h.fieldText_eq hf hne
    rw [htext, length_filledNumber f.width_pos hlt]

/-- What a field shows has no blank characters. -/
theorem Instant.IsPlain.of_mem_fieldText (h : d.IsPlain) (hf : f ∈ plainFields) (hc : c ∈ d.fieldText f) :
    isDigit c = true ∨ c = 'A' ∨ c = 'P' ∨ c = 'M' := by
  by_cases hne : f = .halfDay
  · rw [hne, d.fieldText_halfDay] at hc
    rcases List.mem_pair.1 hc with rfl | rfl
    · split <;> decide
    · decide
  · rw [(h.fieldText_eq hf hne).2] at hc
    exact .inl (isDigit_of_mem_filledNumber hc)

/-! ## Reading field by field -/

/-- What is known of an instant from some of its fields. -/
def Parts.known (d : Instant) (fs : List Field) : Parts where
  year := if .year ∈ fs then some d.civil.year else none
  month := if .month true ∈ fs then some d.civil.month else none
  day := if .day true ∈ fs then some d.civil.day else none
  afternoon := if .hour true ∈ fs ∨ .halfDay ∈ fs then some (decide (12 ≤ d.hour)) else none
  hour := if .hour true ∈ fs ∨ .halfDayHour true ∈ fs then some (d.hour % 12) else none
  minute := if .minute true ∈ fs then some d.minute else none
  second := if .second true ∈ fs then some d.second else none

theorem agreed?_ite {α : Type} [DecidableEq α] (condition : Prop) [Decidable condition] (a : α) :
    agreed? (if condition then some a else none) a = some (some a) := by
  split
  · exact if_pos rfl
  · rfl

/-- A number of two digits is read back. -/
theorem readField?_filledNumber {n : Nat} (h : n < 10 ^ 2) (rest : List Char) :
    readField? 2 (filledNumber 2 n ++ rest) = some (n, rest) := by
  obtain ⟨c, digits, heq, hc⟩ := exists_cons_filledNumber 2 n
  have htrim : trimStart (filledNumber 2 n ++ rest) = filledNumber 2 n ++ rest := by
    rw [heq]
    refine trimStart_eq_self ?_
    rintro _ ⟨⟩
    exact isBlank_of_isDigit hc
  rw [readField?, htrim]
  exact readNumber?_filledNumber (by decide) h (by decide) rest

theorem readYear?_filledNumber {n : Nat} (h : n < 10 ^ 4) (rest : List Char) :
    readYear? (filledNumber 4 n ++ rest) = some ((n : Int), rest) := by
  obtain ⟨c, digits, heq, hc⟩ := exists_cons_filledNumber 4 n
  have hnumber : readNumber? 1 4 (filledNumber 4 n ++ rest) = some (n, rest) :=
    readNumber?_filledNumber (by decide) h (by decide) rest
  rw [heq, List.cons_append] at hnumber ⊢
  have htrim : trimStart (c :: (digits ++ rest)) = c :: (digits ++ rest) := by
    refine trimStart_eq_self ?_
    rintro _ ⟨⟩
    exact isBlank_of_isDigit hc
  rw [readYear?, htrim]
  split
  case h_1 heq =>
    obtain ⟨rfl, -⟩ := List.cons.inj heq
    cases hc
  case h_2 heq =>
    obtain ⟨rfl, -⟩ := List.cons.inj heq
    cases hc
  case h_3 =>
    rw [hnumber]
    rfl

theorem readField?_known_halfDay (d : Instant) (fs : List Field) (rest : List Char) :
    (Parts.known d fs).readField? (d.fieldText .halfDay ++ rest) .halfDay = some (Parts.known d (.halfDay :: fs), rest) := by
  have hmorning : dropWord? ['a', 'm'] ('A' :: 'M' :: rest) = some rest := rfl
  have hother : dropWord? ['a', 'm'] ('P' :: 'M' :: rest) = none := rfl
  have hafternoon : dropWord? ['p', 'm'] ('P' :: 'M' :: rest) = some rest := rfl
  have hagreed := agreed?_ite (.hour true ∈ fs ∨ .halfDay ∈ fs) (decide (12 ≤ d.hour))
  rw [d.fieldText_halfDay]
  by_cases hhalf : d.hour < 12
  · rw [decide_eq_false (Nat.not_le.2 hhalf)] at hagreed
    simp [Parts.readField?, hhalf, hmorning, hagreed, Parts.known, Nat.not_le.2 hhalf]
  · rw [decide_eq_true (Nat.not_lt.1 hhalf)] at hagreed
    simp [Parts.readField?, hhalf, hother, hafternoon, hagreed, Parts.known, Nat.not_lt.1 hhalf]

/-- A field that is read adds what it shows. -/
theorem readField?_known (h : d.IsPlain) (hf : f ∈ plainFields) (fs : List Field) (rest : List Char) :
    (Parts.known d fs).readField? (d.fieldText f ++ rest) f = some (Parts.known d (f :: fs), rest) := by
  by_cases hne : f = .halfDay
  · subst hne
    exact readField?_known_halfDay d fs rest
  have hhour := d.hour_lt
  have hminute := d.minute_lt
  have hsecond := d.second_lt
  have hwithin {low high n : Nat} (h : low ≤ n ∧ n ≤ high) : within? low high n = some n := if_pos h
  obtain ⟨hlt, htext⟩ := h.fieldText_eq hf hne
  rw [htext]
  rcases mem_plainFields_iff.1 hf with rfl | rfl | rfl | rfl | rfl | rfl | rfl | rfl
  · rw [Instant.fieldNumber] at hlt ⊢
    have hread := readYear?_filledNumber hlt rest
    simp [Parts.readField?, Field.width, hread, Int.toNat_of_nonneg h.year.1, Parts.known, agreed?_ite]
  · rw [Instant.fieldNumber] at hlt ⊢
    have hread := readField?_filledNumber hlt rest
    simp [Parts.readField?, Parts.setMonth?, Field.width, hread, hwithin d.month_bounds, Parts.known, agreed?_ite]
  · rw [Instant.fieldNumber] at hlt ⊢
    have hread := readField?_filledNumber hlt rest
    simp [Parts.readField?, Field.width, hread, hwithin d.day_bounds, Parts.known, agreed?_ite]
  · rw [Instant.fieldNumber] at hlt ⊢
    have hread := readField?_filledNumber hlt rest
    have hhour' : within? 0 23 d.hour = some d.hour := hwithin (by omega)
    simp [Parts.readField?, Parts.setHour?, Field.width, hread, hhour', Parts.known, agreed?_ite]
  · rw [Instant.fieldNumber] at hlt ⊢
    have hread := readField?_filledNumber hlt rest
    have hhour' : within? 1 12 ((d.hour + 11) % 12 + 1) = some ((d.hour + 11) % 12 + 1) := hwithin (by omega)
    have htwelve : ((d.hour + 11) % 12 + 1) % 12 = d.hour % 12 := by omega
    simp [Parts.readField?, Field.width, hread, hhour', htwelve, Parts.known, agreed?_ite]
  · exact absurd rfl hne
  · rw [Instant.fieldNumber] at hlt ⊢
    have hread := readField?_filledNumber hlt rest
    have hminute' : within? 0 59 d.minute = some d.minute := hwithin (by omega)
    simp [Parts.readField?, Field.width, hread, hminute', Parts.known, agreed?_ite]
  · rw [Instant.fieldNumber] at hlt ⊢
    have hread := readField?_filledNumber hlt rest
    have hsecond' : within? 0 60 d.second = some d.second := hwithin (by omega)
    simp [Parts.readField?, Field.width, hread, hsecond', Parts.known, agreed?_ite]

theorem isBlank_of_mem_fieldText (h : d.IsPlain) (hf : f ∈ plainFields) (hc : c ∈ d.fieldText f) : isBlank c = false := by
  rcases h.of_mem_fieldText hf hc with hc | rfl | rfl | rfl
  · exact isBlank_of_isDigit hc
  · decide
  · decide
  · decide

theorem exists_cons_fieldText (h : d.IsPlain) (hf : f ∈ plainFields) : ∃ c rest, d.fieldText f = c :: rest := by
  refine List.exists_cons_of_ne_nil fun hnil => Nat.ne_of_gt f.width_pos ?_
  rw [← h.length_fieldText hf, hnil]
  rfl

theorem read?_blank (hc : isBlank c = true) (p : Parts) (l : Layout) (s : List Char) :
    p.read? (.literal c :: l) s = p.read? l (trimStart s) := by
  rw [Parts.read?.eq_def]
  exact if_pos hc

/-- Blank characters at the start make no difference. -/
theorem read?_trimStart (h : d.IsPlain) (hl : ∀ piece ∈ l, piece.IsPlain) (p : Parts) :
    p.read? l (trimStart (d.format l)) = p.read? l (d.format l) := by
  cases l with
  | nil => rfl
  | cons piece l =>
    cases piece with
    | field f =>
      have hf : f ∈ plainFields := hl _ List.mem_cons_self
      obtain ⟨c, rest, heq⟩ := exists_cons_fieldText h hf
      have htrim : trimStart (d.format (.field f :: l)) = d.format (.field f :: l) := by
        refine trimStart_eq_self ?_
        rw [d.format_field, heq]
        rintro _ ⟨⟩
        exact isBlank_of_mem_fieldText h hf (heq ▸ List.mem_cons_self)
      rw [htrim]
    | literal c =>
      by_cases hc : isBlank c = true
      · rw [read?_blank hc, read?_blank hc, trimStart, trimStart, List.dropWhile_idempotent]
      · have htrim : trimStart (d.format (.literal c :: l)) = d.format (.literal c :: l) := by
          refine trimStart_eq_self ?_
          rw [d.format_literal]
          rintro _ ⟨⟩
          exact Bool.eq_false_iff.2 hc
        rw [htrim]

/-- A text in a layout of fields is read field by field. -/
theorem read?_format (h : d.IsPlain) (hl : ∀ piece ∈ l, piece.IsPlain) (fs : List Field) :
    (Parts.known d fs).read? l (d.format l) = some (Parts.known d (l.fields.reverse ++ fs)) := by
  induction l generalizing fs with
  | nil => rfl
  | cons piece l ih =>
    obtain ⟨hpiece, hl'⟩ := List.forall_mem_cons.1 hl
    cases piece with
    | field f =>
      rw [d.format_field, Parts.read?, readField?_known h hpiece]
      dsimp only
      rw [ih hl', Layout.fields_field, List.reverse_cons, List.append_assoc, List.singleton_append]
    | literal c =>
      rw [d.format_literal, Layout.fields_literal]
      by_cases hc : isBlank c = true
      · have htrim : trimStart (c :: d.format l) = trimStart (d.format l) := List.dropWhile_cons_of_pos hc
        rw [read?_blank hc, htrim, read?_trimStart h hl', ih hl']
      · rw [Parts.read?, if_neg hc, if_pos rfl, ih hl']

/-! ## The instant that is read -/

/-- The minute is known, and the hour of the day. -/
def KeepsTime (fs : List Field) : Prop := .minute true ∈ fs ∧ (.hour true ∈ fs ∨ .halfDayHour true ∈ fs ∧ .halfDay ∈ fs)

instance (fs : List Field) : Decidable (KeepsTime fs) := inferInstanceAs (Decidable (_ ∧ _))

/-- The second of the day that is known. -/
def keptSecond (d : Instant) (fs : List Field) : Nat :=
  if KeepsTime fs then d.hour * 3600 + d.minute * 60 + if .second true ∈ fs then d.second else 0 else 0

theorem time?_known_of_keepsTime (h : KeepsTime fs) : (Parts.known d fs).time? = some (keptSecond d fs, 0) := by
  obtain ⟨hminute, hhour⟩ := id h
  have hsecond := d.second_lt
  rw [keptSecond, if_pos h]
  refine Parts.time?_eq (if_pos ?_) (if_pos ?_) d.hour_lt (if_pos hminute) ?_ ?_ (.inl rfl)
  · exact hhour.imp_right And.right
  · exact hhour.imp_right And.left
  · simp only [Parts.known]
    split <;> rfl
  · split <;> omega

theorem time?_known_of_not_keepsTime (h : ¬KeepsTime fs) : (Parts.known d fs).time? = none := by
  by_cases hminute : .minute true ∈ fs
  · have hhour : .hour true ∉ fs := fun hhour => h ⟨hminute, .inl hhour⟩
    by_cases hhalf : .halfDay ∈ fs
    · have hnone : .halfDayHour true ∉ fs := fun hhalfHour => h ⟨hminute, .inr ⟨hhalfHour, hhalf⟩⟩
      have hunknown : (Parts.known d fs).hour = none := if_neg fun hor => hor.elim hhour hnone
      simp [Parts.time?, hunknown]
    · have hunknown : (Parts.known d fs).afternoon = none := if_neg fun hor => hor.elim hhour hhalf
      simp [Parts.time?, hunknown]
  · have hunknown : (Parts.known d fs).minute = none := if_neg hminute
    simp [Parts.time?, hunknown]

theorem keptSecond_lt (d : Instant) (fs : List Field) : keptSecond d fs < 86400 := by
  have := d.hour_lt
  have := d.minute_lt
  have := d.second_lt
  unfold keptSecond
  split
  · split <;> omega
  · decide

/-- The day is known. -/
structure KnowsDay (fs : List Field) : Prop where
  year : .year ∈ fs
  month : .month true ∈ fs
  day : .day true ∈ fs

/-- A day that is known is a date: at the time that is known, or else at midnight. -/
theorem exists_instant?_known (d : Instant) (h : KnowsDay fs) :
    ∃ e, (Parts.known d fs).instant? = some e ∧ e.civil = d.civil ∧ e.secondOfDay = keptSecond d fs ∧ e.nanos = 0 := by
  obtain ⟨e, he, hparts⟩ := d.exists_of? (keptSecond_lt d fs)
  refine ⟨e, ?_, hparts⟩
  have hdate : (Parts.known d fs).date? = some d.civil :=
    Parts.date?_eq d.civil_valid d.year_bounds (if_pos h.year) (if_pos h.month) (if_pos h.day) ⟨rfl, rfl, rfl⟩
  have hoffset : (Parts.known d fs).offset = none := rfl
  rw [Parts.instant?, hoffset, Parts.at?, hdate]
  by_cases hkeeps : KeepsTime fs
  · rw [time?_known_of_keepsTime hkeeps]
    simp only [Option.bind_eq_bind, Option.bind_some, Option.bind_none, Option.none_or, he, Option.some_or]
  · rw [keptSecond, if_neg hkeeps, Nat.cast_zero, Int.add_zero, Int.sub_zero] at he
    rw [time?_known_of_not_keepsTime hkeeps]
    simp only [Option.bind_eq_bind, Option.bind_some, Option.bind_none, Option.none_or, he]

/-! ## Digits -/

/-- The number of digits of a field. -/
def Field.digits : Field → Nat
  | .year => 4
  | .halfDay => 0
  | _ => 2

theorem isAlphanum_of_isDigit (h : isDigit c = true) : c.isAlphanum = true := by
  have hdigit : c.isDigit = true := by
    rw [isDigit, Bool.and_eq_true, decide_eq_true_iff, decide_eq_true_iff, Char.le_def, Char.le_def] at h
    rw [Char.isDigit, Bool.and_eq_true, decide_eq_true_iff, decide_eq_true_iff]
    exact h
  rw [Char.isAlphanum, hdigit, Bool.or_true]

theorem countP_isDigit_fieldText (h : d.IsPlain) (hf : f ∈ plainFields) : (d.fieldText f).countP isDigit ≤ f.digits := by
  by_cases hne : f = .halfDay
  · rw [hne, d.fieldText_halfDay]
    split <;> decide
  · have hdigits : f.width = f.digits := by
      rcases mem_plainFields_iff.1 hf with rfl | rfl | rfl | rfl | rfl | rfl | rfl | rfl <;> first | rfl | exact absurd rfl hne
    rw [← hdigits, ← h.length_fieldText hf]
    exact List.countP_le_length

theorem countP_isDigit_format (h : d.IsPlain) (hl : ∀ piece ∈ l, piece.IsPlain) :
    (d.format l).countP isDigit ≤ (l.fields.map Field.digits).sum := by
  induction l with
  | nil => exact Nat.le_refl 0
  | cons piece l ih =>
    obtain ⟨hpiece, hl'⟩ := List.forall_mem_cons.1 hl
    have hrest := ih hl'
    cases piece with
    | field f =>
      rw [d.format_field, List.countP_append, Layout.fields_field, List.map_cons, List.sum_cons]
      exact Nat.add_le_add (countP_isDigit_fieldText h hpiece) hrest
    | literal c =>
      have hc : ¬isDigit c = true := by
        intro hdigit
        cases (isAlphanum_of_isDigit hdigit).symm.trans hpiece
      rwa [d.format_literal, List.countP_cons_of_neg hc, Layout.fields_literal]

theorem sum_digits_le (hfs : ∀ f ∈ fs, f ∈ plainFields) (hnodup : fs.Nodup) : (fs.map Field.digits).sum ≤ 16 := by
  obtain ⟨gs, hperm, hsublist⟩ := hnodup.subperm hfs
  rw [← (hperm.map Field.digits).sum_eq]
  exact (hsublist.map Field.digits).sum_le_sum fun _ _ => Nat.zero_le _

theorem mem_plainFields_of_mem_fields (hl : ∀ piece ∈ l, piece.IsPlain) (hf : f ∈ l.fields) : f ∈ plainFields := by
  obtain ⟨piece, hpiece, heq⟩ := List.mem_filterMap.1 hf
  cases piece with
  | field g =>
    obtain rfl := Option.some.inj heq
    exact hl _ hpiece
  | literal c => cases heq

/-- The only letters in a text in a layout of fields are those of the half of the day. -/
theorem of_mem_format (h : d.IsPlain) (hl : ∀ piece ∈ l, piece.IsPlain) (hc : c ∈ d.format l) :
    isDigit c = true ∨ c = 'A' ∨ c = 'P' ∨ c = 'M' ∨ c.isAlphanum = false := by
  obtain ⟨piece, hpiece, hc⟩ := List.mem_flatMap.1 hc
  cases piece with
  | field f =>
    rcases h.of_mem_fieldText (hl _ hpiece) hc with hc | hc | hc | hc
    · exact .inl hc
    · exact .inr (.inl hc)
    · exact .inr (.inr (.inl hc))
    · exact .inr (.inr (.inr (.inl hc)))
  | literal d =>
    obtain rfl := List.mem_singleton.1 hc
    exact .inr (.inr (.inr (.inr (hl _ hpiece))))

/-- A text in a layout of fields, each of them once, has too few digits for the internet format and no letter for a zone. -/
theorem readInternet?_format_eq_none (h : d.IsPlain) (hl : ∀ piece ∈ l, piece.IsPlain) (hnodup : l.fields.Nodup) :
    readInternet? (d.format l) = none := by
  have hcount := countP_isDigit_format h hl
  have hsum := sum_digits_le (fun _ => mem_plainFields_of_mem_fields hl) hnodup
  cases hread : readInternet? (d.format l) with
  | none => rfl
  | some e =>
    rcases exists_of_readInternet? hread with hdigits | hZ | hz
    · omega
    · exact absurd (of_mem_format h hl hZ) (by decide)
    · exact absurd (of_mem_format h hl hz) (by decide)

/-! ## The texts of two instants -/

namespace Instant.IsPlain

variable (hd : d.IsPlain) (he : e.IsPlain)

include hd he

theorem fieldText_eq_iff (hf : f ∈ plainFields) (hne : f ≠ .halfDay) :
    e.fieldText f = d.fieldText f ↔ e.fieldNumber f = d.fieldNumber f := by
  obtain ⟨-, htext⟩ := hd.fieldText_eq hf hne
  obtain ⟨-, htext'⟩ := he.fieldText_eq hf hne
  rw [htext, htext']
  refine ⟨fun heq => ?_, fun heq => congrArg _ heq⟩
  rw [← digitsValue_filledNumber f.width (e.fieldNumber f), heq, digitsValue_filledNumber]

/-- Two instants have the same text in a layout if all fields of it show the same. -/
theorem format_eq_iff (hl : ∀ piece ∈ l, piece.IsPlain) :
    e.format l = d.format l ↔ ∀ f ∈ l.fields, e.fieldText f = d.fieldText f := by
  induction l with
  | nil => exact iff_of_true (by rw [e.format_nil, d.format_nil]) nofun
  | cons piece l ih =>
    obtain ⟨hpiece, hl'⟩ := List.forall_mem_cons.1 hl
    cases piece with
    | field f =>
      have hlength := (he.length_fieldText hpiece).trans (hd.length_fieldText hpiece).symm
      rw [e.format_field, d.format_field, Layout.fields_field, List.forall_mem_cons, ← ih hl']
      exact ⟨fun heq => List.append_inj heq hlength, fun ⟨hfirst, hrest⟩ => by rw [hfirst, hrest]⟩
    | literal c =>
      rw [e.format_literal, d.format_literal, Layout.fields_literal, List.cons.injEq, and_iff_right rfl, ih hl']

/-- On the same day all fields show the same if those of the time do. -/
theorem forall_fieldText_eq_iff (hcivil : e.civil = d.civil) (hfs : ∀ f ∈ fs, f ∈ plainFields) :
    (∀ f ∈ fs, e.fieldText f = d.fieldText f) ↔
      (.hour true ∈ fs → e.hour = d.hour) ∧ (.halfDayHour true ∈ fs → e.hour % 12 = d.hour % 12) ∧
        (.halfDay ∈ fs → (e.hour < 12 ↔ d.hour < 12)) ∧ (.minute true ∈ fs → e.minute = d.minute) ∧
        (.second true ∈ fs → e.second = d.second) := by
  have hnumber {f : Field} (hf : f ∈ plainFields) (hne : f ≠ .halfDay) := hd.fieldText_eq_iff he hf hne
  have hhalf : e.fieldText .halfDay = d.fieldText .halfDay ↔ (e.hour < 12 ↔ d.hour < 12) := by
    rw [e.fieldText_halfDay, d.fieldText_halfDay]
    by_cases h : e.hour < 12 <;> by_cases h' : d.hour < 12 <;> simp [h, h']
  have htwelve : (e.hour + 11) % 12 + 1 = (d.hour + 11) % 12 + 1 ↔ e.hour % 12 = d.hour % 12 := by omega
  constructor
  · intro h
    exact ⟨fun hf => (hnumber (hfs _ hf) (by decide)).1 (h _ hf), fun hf => htwelve.1 ((hnumber (hfs _ hf) (by decide)).1 (h _ hf)),
      fun hf => hhalf.1 (h _ hf), fun hf => (hnumber (hfs _ hf) (by decide)).1 (h _ hf),
      fun hf => (hnumber (hfs _ hf) (by decide)).1 (h _ hf)⟩
  · rintro ⟨hhour, hhalfHour, hhalfDay, hminute, hsecond⟩ f hf
    have hplain := hfs f hf
    rcases mem_plainFields_iff.1 hplain with rfl | rfl | rfl | rfl | rfl | rfl | rfl | rfl
    · exact (hnumber hplain (by decide)).2 (by rw [Instant.fieldNumber, Instant.fieldNumber, hcivil])
    · exact (hnumber hplain (by decide)).2 (by rw [Instant.fieldNumber, Instant.fieldNumber, hcivil])
    · exact (hnumber hplain (by decide)).2 (by rw [Instant.fieldNumber, Instant.fieldNumber, hcivil])
    · exact (hnumber hplain (by decide)).2 (hhour hf)
    · exact (hnumber hplain (by decide)).2 (htwelve.2 (hhalfHour hf))
    · exact hhalf.2 (hhalfDay hf)
    · exact (hnumber hplain (by decide)).2 (hminute hf)
    · exact (hnumber hplain (by decide)).2 (hsecond hf)

end Instant.IsPlain

/-- The fields of a time show midnight. -/
structure ShowsMidnight (d : Instant) (fs : List Field) : Prop where
  hour : .hour true ∈ fs → d.hour = 0
  halfDayHour : .halfDayHour true ∈ fs → d.hour % 12 = 0
  halfDay : .halfDay ∈ fs → d.hour < 12
  minute : .minute true ∈ fs → d.minute = 0
  second : .second true ∈ fs → d.second = 0

section

variable (hsecond : e.secondOfDay = keptSecond d fs)

include hsecond

theorem parts_of_keepsTime (h : KeepsTime fs) :
    e.hour = d.hour ∧ e.minute = d.minute ∧ (.second true ∈ fs → e.second = d.second) := by
  have hparts := e.secondOfDay_eq
  have := e.minute_lt
  have := e.second_lt
  have := d.minute_lt
  have := d.second_lt
  rw [keptSecond, if_pos h] at hsecond
  split at hsecond
  case isTrue => omega
  case isFalse hnone => exact ⟨by omega, by omega, fun hf => absurd hf hnone⟩

theorem parts_of_not_keepsTime (h : ¬KeepsTime fs) : e.hour = 0 ∧ e.minute = 0 ∧ e.second = 0 := by
  have hparts := e.secondOfDay_eq
  rw [keptSecond, if_neg h] at hsecond
  omega

/-- At the second of the day that is known all fields show the same if the time is known, or if they showed midnight before. -/
theorem forall_fieldText_eq_iff_keepsTime (hd : d.IsPlain) (he : e.IsPlain) (hcivil : e.civil = d.civil)
    (hfs : ∀ f ∈ fs, f ∈ plainFields) : (∀ f ∈ fs, e.fieldText f = d.fieldText f) ↔ KeepsTime fs ∨ ShowsMidnight d fs := by
  rw [hd.forall_fieldText_eq_iff he hcivil hfs]
  by_cases hkeeps : KeepsTime fs
  · obtain ⟨hhour, hminute, hsecond⟩ := parts_of_keepsTime hsecond hkeeps
    rw [hhour, hminute]
    exact iff_of_true ⟨fun _ => rfl, fun _ => rfl, fun _ => Iff.rfl, fun _ => rfl, hsecond⟩ (.inl hkeeps)
  · obtain ⟨hhour, hminute, hsecond⟩ := parts_of_not_keepsTime hsecond hkeeps
    rw [or_iff_right hkeeps, hhour, hminute, hsecond]
    constructor
    · rintro ⟨hhour, hhalfHour, hhalfDay, hminute, hsecond⟩
      exact ⟨fun hf => (hhour hf).symm, fun hf => (hhalfHour hf).symm, fun hf => (hhalfDay hf).1 (by decide), fun hf => (hminute hf).symm,
        fun hf => (hsecond hf).symm⟩
    · rintro ⟨hhour, hhalfHour, hhalfDay, hminute, hsecond⟩
      exact ⟨fun hf => (hhour hf).symm, fun hf => (hhalfHour hf).symm, fun hf => iff_of_true (by decide) (hhalfDay hf),
        fun hf => (hminute hf).symm, fun hf => (hsecond hf).symm⟩

end

/-! ## Reading back -/

theorem known_congr {gs : List Field} (h : ∀ f, f ∈ fs ↔ f ∈ gs) (d : Instant) : Parts.known d fs = Parts.known d gs := by
  simp only [Parts.known, h]

namespace FieldPattern

theorem knowsDay (p : FieldPattern) : KnowsDay p.fields := ⟨p.year, p.month, p.day⟩

theorem exists_layout_eq (p : FieldPattern) : ∃ l f, p.layout = l ++ [.field f] := by
  rcases List.eq_nil_or_concat p.rest with hrest | ⟨rest, ⟨separator, f⟩, hrest⟩
  · exact ⟨[], p.first, by rw [layout, hrest]; rfl⟩
  · have hlayout : p.layout = .field p.first :: (rest ++ [(separator, f)]).flatMap
        fun (separator, f) => Layout.ofLetters separator ++ [.field f] := by rw [layout, hrest, List.concat_eq_append]
    rw [List.flatMap_append, List.flatMap_singleton, ← List.append_assoc, ← List.cons_append] at hlayout
    exact ⟨_, f, hlayout⟩

theorem trim_format (p : FieldPattern) (h : d.IsPlain) : trim (d.format p.layout) = d.format p.layout := by
  refine trim_eq_self ?_ ?_
  · have hfirst : p.first ∈ plainFields := p.plain _ List.mem_cons_self
    obtain ⟨c, rest, heq⟩ := exists_cons_fieldText h hfirst
    rw [layout, d.format_field, heq]
    rintro _ ⟨⟩
    exact isBlank_of_mem_fieldText h hfirst (heq ▸ List.mem_cons_self)
  · obtain ⟨l, f, hlayout⟩ := p.exists_layout_eq
    have hf : f ∈ plainFields := p.isPlain_of_mem_layout (.field f) (hlayout ▸ List.mem_concat_self)
    have htext : d.format p.layout = d.format l ++ d.fieldText f := by
      rw [hlayout, Instant.format, List.flatMap_append, List.flatMap_singleton]
      rfl
    have hne : d.fieldText f ≠ [] := by
      obtain ⟨c, rest, heq⟩ := exists_cons_fieldText h hf
      exact heq ▸ List.cons_ne_nil c rest
    intro c hc
    rw [htext, List.getLast?_append_of_ne_nil _ hne] at hc
    exact isBlank_of_mem_fieldText h hf (List.mem_of_getLast? hc)

/-- A text in a pattern is read back with it: the day, and the time if it is known. -/
theorem exists_read?_format (p : FieldPattern) (h : d.IsPlain) :
    ∃ e, Instant.read? (d.format p.layout) [p.layout] = some e ∧ e.civil = d.civil ∧ e.secondOfDay = keptSecond d p.fields ∧
      e.nanos = 0 := by
  obtain ⟨e, he, hparts⟩ := exists_instant?_known d p.knowsDay
  have hinternet := readInternet?_format_eq_none h p.isPlain_of_mem_layout (by rw [p.fields_layout]; exact p.nodup)
  have hnone : Parts.known d [] = {} := rfl
  have hknown : Parts.known d (p.layout.fields.reverse ++ []) = Parts.known d p.fields := by
    refine known_congr (fun f => ?_) d
    rw [List.append_nil, List.mem_reverse, p.fields_layout]
  have hlayout : p.layout.read? (d.format p.layout) = some e := by
    rw [Layout.read?, ← hnone, read?_format h p.isPlain_of_mem_layout, hknown]
    exact he
  refine ⟨e, ?_, hparts⟩
  rw [Instant.read?]
  simp only [p.trim_format h, hinternet, Option.none_or, List.singleton_append, List.findSome?_cons, hlayout]

end FieldPattern

end CellExpr.Calendar
