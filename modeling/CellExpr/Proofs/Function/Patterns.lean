import CellExpr.Function.Standard
import CellExpr.Proofs.Evaluation.Bodies
import CellExpr.Proofs.Pattern.Anchored

/-!
# Functions that take a pattern

What `find`, `partition`, `rpartition` and `match` come to in terms of the regular expression that a pattern stands for. A literal text
stands for the one that matches it.
-/

namespace CellExpr

open CellExpr.Pattern CellExpr.TextFunctions CellExpr.Outcome

/-- The body decides about a call whose arguments fit. -/
theorem Registry.value_call {registry : Registry} {name : String} {f : Function} {args : List Value} {scope : Scope} (body : Body)
    (hlookup : registry.lookup? name = some f) (hbody : f.body = body)
    (hpass : (if f.acceptsErrors then none else args.find? Value.isError) = none) (hfits : f.misfit? args = none) :
    (registry.call name args scope).value = (body args scope).toTraced.value := by
  rw [Registry.call, hlookup]
  dsimp only
  rw [Function.invoke, hpass]
  simp only [hfits, hbody]

/-! ## Patterns -/

/-- What can be given as a pattern. -/
inductive IsPattern : Value → Prop
  | regex (r : Regex) : IsPattern (.regex r)
  | literal (p : String) : IsPattern (.string p)

/-- A pattern that stands for a regular expression is this or a literal text. -/
theorem eq_of_regexOf {v : Value} {r : Regex} (h : regexOf v = .ok r) :
    v = .regex r ∨ ∃ p, v = .string p ∧ Regex.ofLiteral p = .ok r := by
  cases v with
  | regex r' => exact .inl (congrArg Value.regex (Except.ok.inj h))
  | string p =>
    refine .inr ⟨p, rfl, ?_⟩
    rw [regexOf] at h
    cases hp : Regex.ofLiteral p with
    | ok r' =>
      rw [hp] at h
      exact congrArg Except.ok (Except.ok.inj h)
    | error f =>
      rw [hp] at h
      cases h
  | _ => cases h

theorem isPattern_of_regexOf {v : Value} {r : Regex} (h : regexOf v = .ok r) : IsPattern v := by
  rcases eq_of_regexOf h with rfl | ⟨p, rfl, -⟩
  · exact .regex r
  · exact .literal p

theorem regexOf_ofLiteral {p : String} {r : Regex} (h : Regex.ofLiteral p = .ok r) : regexOf (.string p) = .ok r := by
  rw [regexOf, h]
  rfl

/-- The error that stands for a pattern that is no regular expression. -/
def patternError (f : PatternFault) : EvalError := Fault.invalidPattern.toError.causedBy { kind := .semantic, message := f.message }

theorem compiled_error (f : PatternFault) : compiled (.error f) = .error (.error (patternError f)) := rfl

theorem error_bind {α β : Type} (e : Failure) (f : α → Outcome β) : (Except.error e >>= f) = .error e := rfl

/-! ## Bodies -/

/-- What precedes a match, the match and what follows it; without a match all of the text on one side. -/
def partsAround (fromEnd : Bool) (s : List Char) : Option Match → List Char × List Char × List Char
  | some m => (m.before s, m.text s, m.after s)
  | none => if fromEnd then ([], [], s) else (s, [], [])

/-- The match at which a text is cut. -/
def cuttingMatch? (fromEnd : Bool) (r : Regex) (s : List Char) : Option Match :=
  if fromEnd then (r.findAll s).getLast? else r.firstMatch? s

theorem cuttingMatch?_isWithin {fromEnd : Bool} {r : Regex} {s : List Char} {m : Match} (h : cuttingMatch? fromEnd r s = some m) :
    m.IsWithin s.length 0 := by
  cases fromEnd with
  | true => exact (r.findAll_inOrder s).isWithin m (List.mem_of_getLast? h)
  | false => exact Regex.firstMatch?_isWithin h

theorem cutAt_cuttingMatch? (fromEnd : Bool) (r : Regex) (s : List Char) :
    cutAt fromEnd s (cuttingMatch? fromEnd r s) = .ok (partsAround fromEnd s (cuttingMatch? fromEnd r s)) := by
  cases h : cuttingMatch? fromEnd r s with
  | none => rfl
  | some m => exact cutAt_eq (cuttingMatch?_isWithin h) fromEnd

/-- The group of a match with an index; null if it did not take part. -/
def groupValue (s : List Char) (m : Match) (index : Nat) : Value := ((m.groupText? s index).map Value.ofChars).getD .null

/-- What the groups of a pattern are in a text that matches as a whole; null if it does not. -/
def groupValues (r : Regex) (s : List Char) : Option Match → Value
  | some m => .array ((List.range (r.program.groupCount - 1)).map fun i => groupValue s m (i + 1))
  | none => .null

section

variable (scope : Scope) (v : Value) (s : String)

theorem find_eq : find [.string s, v] scope =
    regexOf v >>= fun r => .ok (.ofTexts ((r.findAll s.toList).map (·.text s.toList))) := rfl

theorem partition_eq (fromEnd omitMatch : Bool) : partition fromEnd [.string s, v, .boolean omitMatch] scope =
    regexOf v >>= fun r => cutAt fromEnd s.toList (cuttingMatch? fromEnd r s.toList) >>= fun (before, middle, after) =>
      .ok (.ofTexts (if omitMatch then [before, after] else [before, middle, after])) := rfl

theorem partition_default (fromEnd : Bool) :
    partition fromEnd [.string s, v] scope = partition fromEnd [.string s, v, .boolean false] scope := rfl

theorem matchGroups_eq : matchGroups [.string s, v] scope =
    regexOf v >>= fun r => compiled r.anchored >>= fun whole => .ok (groupValues whole s.toList (whole.firstMatch? s.toList)) := by
  refine congrArg (regexOf v >>= ·) (funext fun r => congrArg (compiled r.anchored >>= ·) (funext fun whole => ?_))
  cases whole.firstMatch? s.toList <;> rfl

end

/-! ## Calls -/

/-- The name of the function that cuts a text at the first match, or at the last. -/
def partitionName (fromEnd : Bool) : String := if fromEnd then "rpartition" else "partition"

@[simp] theorem partitionName_false : partitionName false = "partition" := rfl

@[simp] theorem partitionName_true : partitionName true = "rpartition" := rfl

/-- A function on a text and a pattern. -/
def patternFunction (name : String) (body : Body) : Function := (Function.new name body).taking [.string, .pattern]

theorem lookup?_find (now : Calendar.Instant) : (Registry.standard now).lookup? "find" = some (patternFunction "find" find) := rfl

theorem lookup?_match (now : Calendar.Instant) : (Registry.standard now).lookup? "match" =
    some ((patternFunction "match" matchGroups).describedAs
      "match(s, pattern) returns capture groups when the whole string matches, else null") := rfl

theorem lookup?_partition (now : Calendar.Instant) (fromEnd : Bool) : (Registry.standard now).lookup? (partitionName fromEnd) =
    some ((patternFunction (partitionName fromEnd) (partition fromEnd)).optionally [.boolean]) := by
  cases fromEnd <;> rfl

section

variable (now : Calendar.Instant) (scope : Scope) {v : Value} (hv : IsPattern v) (s : String)

include hv

theorem value_call_find : ((Registry.standard now).call "find" [.string s, v] scope).value =
    (find [.string s, v] scope).toTraced.value := by
  cases hv <;> rw [Registry.value_call find (lookup?_find now) rfl rfl rfl]

theorem value_call_match : ((Registry.standard now).call "match" [.string s, v] scope).value =
    (matchGroups [.string s, v] scope).toTraced.value := by
  cases hv <;> rw [Registry.value_call matchGroups (lookup?_match now) rfl rfl rfl]

theorem value_call_partition (fromEnd omitMatch : Bool) :
    ((Registry.standard now).call (partitionName fromEnd) [.string s, v, .boolean omitMatch] scope).value =
      (partition fromEnd [.string s, v, .boolean omitMatch] scope).toTraced.value := by
  cases hv <;> rw [Registry.value_call (partition fromEnd) (lookup?_partition now fromEnd) rfl rfl rfl]

/-- Without the flag the match is among the pieces. -/
theorem value_call_partition_default (fromEnd : Bool) :
    ((Registry.standard now).call (partitionName fromEnd) [.string s, v] scope).value =
      ((Registry.standard now).call (partitionName fromEnd) [.string s, v, .boolean false] scope).value := by
  rw [value_call_partition now scope hv, ← partition_default]
  cases hv <;> rw [Registry.value_call (partition fromEnd) (lookup?_partition now fromEnd) rfl rfl rfl]

end

section

variable (now : Calendar.Instant) (scope : Scope) {v : Value} {r : Regex} (h : regexOf v = .ok r) (s : String)

include h

theorem call_find : ((Registry.standard now).call "find" [.string s, v] scope).value =
    .ofTexts ((r.findAll s.toList).map (·.text s.toList)) := by
  rw [value_call_find now scope (isPattern_of_regexOf h), find_eq, h, ok_bind]
  rfl

/-- The pieces of a text around the first match or around the last one of the matches that do not overlap. -/
theorem call_partition (fromEnd omitMatch : Bool) :
    ((Registry.standard now).call (partitionName fromEnd) [.string s, v, .boolean omitMatch] scope).value =
      match partsAround fromEnd s.toList (cuttingMatch? fromEnd r s.toList) with
      | (before, middle, after) => .ofTexts (if omitMatch then [before, after] else [before, middle, after]) := by
  rw [value_call_partition now scope (isPattern_of_regexOf h), partition_eq, h, ok_bind, cutAt_cuttingMatch?, ok_bind]
  rfl

/-- The groups of the pattern in a text that its counterpart for whole texts matches. -/
theorem call_match {whole : Regex} (hwhole : r.anchored = .ok whole) :
    ((Registry.standard now).call "match" [.string s, v] scope).value = groupValues whole s.toList (whole.firstMatch? s.toList) := by
  rw [value_call_match now scope (isPattern_of_regexOf h), matchGroups_eq, h, ok_bind, hwhole]
  rfl

/-- With a counterpart for whole texts the groups are returned that the pattern has in a match of the whole text, or null if there is
none. -/
theorem call_match_of_anchored {whole : Regex} (hwhole : r.anchored = .ok whole) (htree : whole.tree = r.tree.anchored) :
    (∃ slots, r.MatchesFrom s.toList 0 (s.toList.length, slots) ∧
      ((Registry.standard now).call "match" [.string s, v] scope).value =
        .array ((List.range (r.program.groupCount - 1)).map fun i => groupValue s.toList ⟨0, s.toList.length, slots⟩ (i + 1))) ∨
      (∀ slots, ¬r.MatchesFrom s.toList 0 (s.toList.length, slots)) ∧
        ((Registry.standard now).call "match" [.string s, v] scope).value = .null := by
  rw [call_match now scope h s hwhole]
  rcases Regex.firstMatch?_anchored htree s.toList with ⟨slots, hfound, hmatch⟩ | ⟨hnone, hno⟩
  · refine .inl ⟨slots, hmatch, ?_⟩
    rw [hfound, groupValues, Regex.groupCount_anchored htree]
  · exact .inr ⟨hno, by rw [hnone, groupValues]⟩

/-- The error of a pattern that has no counterpart for whole texts. -/
theorem call_match_of_error {f : PatternFault} (hwhole : r.anchored = .error f) :
    ((Registry.standard now).call "match" [.string s, v] scope).value = .error (patternError f) := by
  rw [value_call_match now scope (isPattern_of_regexOf h), matchGroups_eq, h, ok_bind, hwhole, compiled_error, error_bind]
  rfl

end

/-- The error of a literal text that stands for no regular expression. -/
theorem call_partition_of_error (now : Calendar.Instant) (scope : Scope) (s : String) {p : String} {f : PatternFault}
    (h : Regex.ofLiteral p = .error f) (fromEnd : Bool) :
    ((Registry.standard now).call (partitionName fromEnd) [.string s, .string p] scope).value = .error (patternError f) := by
  have hregex : regexOf (.string p) = .error (.error (patternError f)) := by
    rw [regexOf, h]
    rfl
  rw [value_call_partition_default now scope (.literal p), value_call_partition now scope (.literal p), partition_eq, hregex, error_bind]
  rfl

end CellExpr
