import CellExpr.Proofs.Calendar.FieldPatterns
import CellExpr.Proofs.Calendar.LetterPatterns
import CellExpr.Proofs.Evaluation.Complete
import CellExpr.Proofs.Function.Invocation

/-!
# Dates as texts

What is shown of a date in a pattern is shown one part of the pattern after the other (`call_toString_patterns`). Quoted text comes out
as it is unless there are quotes inside it.

A date that is shown as a text is read back from it, whatever patterns are given. With a pattern, the day is read back, and the time of
day if the pattern has its hour and its minute (`call_toDate_toString_pattern`).
-/

namespace CellExpr

open Calendar ConversionFunctions

variable {d : Instant}

/-! ## Dates in patterns -/

/-- A date in a pattern is always shown. -/
theorem value_call_toString_pattern (now : Instant) (scope : Scope) (d : Instant) (p : List Char) :
    ((Registry.standard now).call "toString" [.date d, .string (String.ofList p)] scope).value =
      .ofChars (d.format (Layout.ofLetters p)) := by
  rw [← String.toList_ofList (l := p), String.ofList_toList]
  rfl

/-- A text in quotes with all quotes in it doubled is shown as it is if and only if there is something other than quotes in it, and no
quote in between. A pattern that ends outside a quoted text and one that does not begin with the last character of it are translated,
and shown, one after the other. -/
theorem call_toString_patterns (now : Instant) (scope : Scope) (d : Instant) :
    let shown := fun p : List Char => ((Registry.standard now).call "toString" [.date d, .string (String.ofList p)] scope).value
    (∀ t, shown (quotedPattern t) = .ofChars t ↔
      ∃ j m k, m ≠ [] ∧ '\x27' ∉ m ∧ t = List.replicate j '\x27' ++ m ++ List.replicate k '\x27') ∧
    ∀ p q : List Char, p.count '\x27' % 2 = 0 → (∀ c, p.getLast? = some c → q.head? ≠ some c) →
      Layout.ofLetters (p ++ q) = Layout.ofLetters p ++ Layout.ofLetters q ∧
      (Layout.ofLetters (p ++ q)).code = (Layout.ofLetters p).code ++ (Layout.ofLetters q).code ∧
      ∃ s t, shown p = .string s ∧ shown q = .string t ∧ shown (p ++ q) = .string (s ++ t) := by
  intro shown
  have hshown (p : List Char) : shown p = .ofChars (d.format (Layout.ofLetters p)) := value_call_toString_pattern now scope d p
  refine ⟨fun t => ?_, fun p q hcount hnext => ?_⟩
  · rw [hshown, ofLetters_quotedPattern, d.format_literals, Value.ofChars, Value.ofChars, Value.string.injEq, String.ofList_inj]
    exact shownFrom_true_eq_self_iff
  · have happend := Layout.ofLetters_append hcount hnext
    refine ⟨happend, by rw [happend, Layout.code_append], _, _, hshown p, hshown q, ?_⟩
    rw [hshown, happend, d.format_append, Value.ofChars, String.ofList_append]

/-- Percent signs and the letters of fields are text like other text in quotes, and a quoted text does not go on behind its last quote. -/
theorem call_toString_patterns_percent :
    let now : Instant := ⟨0, 0, by decide⟩
    let shown := fun p : List Char => ((Registry.standard now).call "toString" [.date now, .string (String.ofList p)] []).value
    shown (quotedPattern ['5', '%', 'd', '\x27']) = .ofChars ['5', '%', 'd', '\x27'] ∧
      (quotedPattern ['%', 'a']).count '\x27' % 2 = 0 ∧ (quotedPattern ['%', 'a']).getLast? = some '\x27' ∧
      (Layout.ofLetters (quotedPattern ['%', 'a'] ++ ['a'])).code = "%%a" ++ "%p" ∧
      shown (quotedPattern ['%', 'a'] ++ ['a']) = .string "%aAM" := by
  intro now shown
  obtain ⟨hquoted, hrow⟩ := call_toString_patterns now [] now
  have hnext (c : Char) (hc : (quotedPattern ['%', 'a']).getLast? = some c) : ['a'].head? ≠ some c := by
    obtain rfl : '\x27' = c := Option.some.inj hc
    decide
  obtain ⟨-, hcode, s, t, hs, ht, hst⟩ := hrow (quotedPattern ['%', 'a']) ['a'] (by decide) hnext
  refine ⟨(hquoted _).2 ⟨0, ['5', '%', 'd'], 1, nofun, by decide, rfl⟩, by decide, rfl, hcode, ?_⟩
  have hs' := (value_call_toString_pattern now [] now _).symm.trans hs
  have ht' := (value_call_toString_pattern now [] now _).symm.trans ht
  have hmorning : now.format (Layout.ofLetters ['a']) = ['A', 'M'] := by decide
  rw [hmorning] at ht'
  obtain rfl : "%a" = s := Value.string.inj hs'
  obtain rfl : "AM" = t := Value.string.inj ht'
  exact hst

/-- A doubled quote between two characters is lost. -/
theorem toString_quoted_apostrophe :
    let now : Instant := ⟨0, 0, by decide⟩
    let pattern := quotedPattern ['a', '\x27', 'b']
    ((Registry.standard now).call "toString" [.date now, .string (String.ofList pattern)] []).value = .ofChars ['a', 'b'] ∧
      Value.ofChars ['a', 'b'] ≠ .ofChars ['a', '\x27', 'b'] := by
  intro now pattern
  refine ⟨?_, by simp [Value.ofChars]⟩
  rw [value_call_toString_pattern]
  rfl

/-! ## Dates read back -/

/-- Layouts are texts. -/
theorem mapM_text (patterns : List String) : (patterns.map Value.string).mapM Args.text = .ok patterns := by
  induction patterns with
  | nil => rfl
  | cons p patterns ih =>
    rw [List.map_cons, List.mapM_cons, ih]
    rfl

theorem toDate_texts (scope : Scope) (s : String) (patterns : List String) :
    toDate (.string s :: patterns.map .string) scope = do
      return .date (← .orFault (.notADate s) (Instant.read? s.toList (patterns.map fun p => .ofLetters p.toList))) := by
  have hafter : Args.after (.string s :: patterns.map .string) 1 = .ok (patterns.map .string) :=
    Outcome.partFrom_of_le (Nat.succ_le_succ (Nat.zero_le _))
  let read (layouts : Outcome (List String)) : Outcome Value := do
    let layouts ← layouts
    return .date (← .orFault (.notADate s) (Instant.read? s.toList (layouts.map fun p => .ofLetters p.toList)))
  show (do read ((← Args.after (.string s :: patterns.map .string) 1).mapM Args.text)) = read (.ok patterns)
  rw [hafter]
  exact congrArg read (mapM_text patterns)

/-- A text is read by all patterns that are given, or it is no date. -/
theorem value_call_toDate (now : Instant) (scope : Scope) (s : String) (patterns : List String) :
    ((Registry.standard now).call "toDate" (.string s :: patterns.map .string) scope).value =
      match Instant.read? s.toList (patterns.map fun p => .ofLetters p.toList) with
      | some d => .date d
      | none => .error (Fault.notADate s).toError := by
  let f := (((Function.new "toDate" toDate).withArity 1 none).taking [.kinds [.string, .date]]).variadic .string
    |>.describedAs "toDate(s, [format, ...]) tries each yyyy-MM-dd style format in turn"
  have hfits : f.Fits (.string s :: patterns.map .string) := by
    refine ⟨.inr fun v hv => ?_, ⟨Nat.succ_le_succ (Nat.zero_le _), nofun⟩, fun i v hv => ?_⟩
    · rcases List.mem_cons.1 hv with rfl | hv
      · rfl
      · obtain ⟨p, -, rfl⟩ := List.mem_map.1 hv
        rfl
    · cases i with
      | zero =>
        obtain rfl := Option.some.inj hv
        rfl
      | succ i =>
        rw [List.getElem?_cons_succ, List.getElem?_map] at hv
        obtain ⟨p, -, rfl⟩ := Option.map_eq_some_iff.1 hv
        rfl
  have hcall : (Registry.standard now).call "toDate" (.string s :: patterns.map .string) scope =
      f.invoke (.string s :: patterns.map .string) scope := rfl
  have hbody : f.body (.string s :: patterns.map .string) scope = _ := toDate_texts scope s patterns
  rw [hcall, Function.invoke_of_fits hfits, hbody]
  cases Instant.read? s.toList (patterns.map fun p => .ofLetters p.toList) <;> rfl

/-- A date in full seconds, in one of the years 0 to 9999, is read back from its text, whatever patterns are given. -/
theorem call_toDate_toString (now : Instant) (scope : Scope) (h : d.IsPlain) (patterns : List String) :
    let text := ((Registry.standard now).call "toString" [.date d] scope).value
    ((Registry.standard now).call "toDate" (text :: patterns.map .string) scope).value = .date d := by
  intro text
  have htext : text = .string d.text := rfl
  rw [htext, value_call_toDate, Instant.text, String.toList_ofList, h.read?_format]

/-- The last second of a leap day. Patterns that would take the start of the text as a year do not change it. -/
theorem call_toDate_toString_leapDay :
    let now : Instant := ⟨0, 0, by decide⟩
    let d : Instant := ⟨1709251199, 0, by decide⟩
    let text := ((Registry.standard now).call "toString" [.date d] []).value
    d.IsPlain ∧ ((Registry.standard now).call "toDate" (text :: ["yyyy", "HH:mm"].map .string) []).value = .date d := by
  intro now d
  have h : d.IsPlain := ⟨rfl, by decide⟩
  exact ⟨h, call_toDate_toString now [] h ["yyyy", "HH:mm"]⟩

/-- A text in a pattern of fields is always read back with the pattern: on the same day, at the time that is kept. The result has the
same text if and only if the hour and the minute are kept, or if the time in the text was midnight. -/
theorem call_toDate_toString_pattern (now : Instant) (scope : Scope) (h : d.IsPlain) (p : FieldPattern) :
    let pattern := Value.string (String.ofList p.letters)
    let shown := fun d : Instant => ((Registry.standard now).call "toString" [.date d, pattern] scope).value
    ∃ e, ((Registry.standard now).call "toDate" [shown d, pattern] scope).value = .date e ∧
      e.civil = d.civil ∧ e.secondOfDay = keptSecond d p.fields ∧ e.nanos = 0 ∧
      (shown e = shown d ↔ KeepsTime p.fields ∨ ShowsMidnight d p.fields) := by
  intro pattern shown
  have hshown (d : Instant) : shown d = .string (String.ofList (d.format p.layout)) := by
    rw [← p.ofLetters_letters]
    exact value_call_toString_pattern now scope d p.letters
  obtain ⟨e, hread, hcivil, hsecond, hnanos⟩ := p.exists_read?_format h
  have he : e.IsPlain := ⟨hnanos, hcivil ▸ h.year⟩
  refine ⟨e, ?_, hcivil, hsecond, hnanos, ?_⟩
  · have hcall := value_call_toDate now scope (String.ofList (d.format p.layout)) [String.ofList p.letters]
    rw [List.map_singleton, List.map_singleton, String.toList_ofList, String.toList_ofList, p.ofLetters_letters, hread] at hcall
    rw [hshown]
    exact hcall
  · rw [hshown, hshown, Value.string.injEq, String.ofList_inj, h.format_eq_iff he p.isPlain_of_mem_layout, p.fields_layout,
      forall_fieldText_eq_iff_keepsTime hsecond h he hcivil p.plain]

/-- A day and a time with the half of the day, as in `dd.MM.yyyy hh:mm a`. -/
def halfDayPattern : FieldPattern where
  first := .day true
  rest := [(['.'], .month true), (['.'], .year), ([' '], .halfDayHour true), ([':'], .minute true), ([' '], .halfDay)]

/-- The hour of the half of the day and the half are read back together, so the text stays the same. -/
theorem call_toDate_toString_pattern_halfDay :
    let now : Instant := ⟨0, 0, by decide⟩
    let d : Instant := ⟨1709251199, 0, by decide⟩
    let pattern := Value.string (String.ofList halfDayPattern.letters)
    let shown := fun d : Instant => ((Registry.standard now).call "toString" [.date d, pattern] []).value
    d.IsPlain ∧ ∃ e, ((Registry.standard now).call "toDate" [shown d, pattern] []).value = .date e ∧ e.secondOfDay = 86340 ∧
      shown e = shown d := by
  intro now d pattern shown
  have h : d.IsPlain := ⟨rfl, by decide⟩
  obtain ⟨e, hread, -, hsecond, -, htext⟩ := call_toDate_toString_pattern now [] h halfDayPattern
  exact ⟨h, e, hread, hsecond.trans (by decide), htext.2 (.inl (by decide))⟩

/-- A day and an hour without its minute, as in `yyyy-MM-dd HH`. -/
def hourPattern : FieldPattern where
  first := .year
  rest := [(['-'], .month true), (['-'], .day true), ([' '], .hour true)]

/-- An hour without its minute is dropped when it is read back. -/
theorem toDate_hour_dropped :
    let now : Instant := ⟨0, 0, by decide⟩
    let d : Instant := ⟨1709650800, 0, by decide⟩
    let pattern := Value.string (String.ofList hourPattern.letters)
    let shown := fun d : Instant => ((Registry.standard now).call "toString" [.date d, pattern] []).value
    shown d = .string "2024-03-05 15" ∧
      ∃ e, ((Registry.standard now).call "toDate" [shown d, pattern] []).value = .date e ∧ shown e = .string "2024-03-05 00" := by
  intro now d pattern shown
  let midnight : Instant := ⟨1709596800, 0, by decide⟩
  have hshown {d : Instant} {s : String} (h : d.format (Layout.ofLetters hourPattern.letters) = s.toList) : shown d = .string s := by
    rw [← s.ofList_toList, ← h]
    exact value_call_toString_pattern now [] d hourPattern.letters
  have htext : shown d = .string "2024-03-05 15" := hshown (by decide)
  have hread : ((Registry.standard now).call "toDate" [.string "2024-03-05 15", pattern] []).value = .date midnight := rfl
  exact ⟨htext, midnight, htext ▸ hread, hshown (by decide)⟩

end CellExpr
