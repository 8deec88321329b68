import CellExpr.Proofs.Evaluation.Bodies
import CellExpr.Proofs.Evaluation.Exposure
import CellExpr.Proofs.Function.Invocation

/-!
# Kinds of arguments

What a function declares about the kinds of its arguments is all that its body asks of them: on arguments of these kinds each argument
is what the body takes it for, and what goes wrong from there on is no matter of kinds any more. There are eight functions of which this
is not so (`askingMore`). In a call of any other function a complaint about kinds or numbers of arguments is one of the declaration, and
then the body has not run (`kinds_of_arguments`).
-/

namespace CellExpr

variable {α β : Type} {P : α → Prop} {Q : β → Prop} {o : Outcome α} {v : Value} {args : List Value} {i : Nat}

/-! ## Outcomes -/

namespace Outcome

/-- If the outcome is a value then it has a property, and if it reports an error then this is about what values mean, not about their
kinds. -/
structure Gives (P : α → Prop) (o : Outcome α) : Prop where
  value : ∀ a, o = .ok a → P a
  error : ∀ e, o = .error (.error e) → e.kind = .semantic

theorem gives_ok {a : α} (h : P a) : Gives P (.ok a) :=
  ⟨fun _ heq => Except.ok.inj heq ▸ h, nofun⟩

theorem gives_pure {a : α} (h : P a) : Gives P (pure a : Outcome α) := gives_ok h

theorem gives_error {e : EvalError} (h : e.kind = .semantic) : Gives P (.error (.error e)) := by
  refine ⟨nofun, fun e' heq => ?_⟩
  obtain rfl := Failure.error.inj (Except.error.inj heq)
  exact h

theorem gives_stuck : Gives P (.error .stuck) := ⟨nofun, nofun⟩

theorem gives_fault {f : Fault} (h : f.kind = .semantic) : Gives P (fault f) := gives_error h

theorem gives_require {a : Option α} (h : ∀ x, a = some x → P x) : Gives P (require a) := by
  cases a with
  | none => exact gives_stuck
  | some x => exact gives_ok (h x rfl)

theorem gives_orFault {f : Fault} {a : Option α} (hf : f.kind = .semantic) (h : ∀ x, a = some x → P x) : Gives P (orFault f a) := by
  cases a with
  | none => exact gives_fault hf
  | some x => exact gives_ok (h x rfl)

theorem gives_given {condition : Prop} [Decidable condition] {a : α} (h : P a) : Gives P (given condition a) := by
  unfold given
  split
  · exact gives_ok h
  · exact gives_stuck

theorem Gives.bind {f : α → Outcome β} (ho : o.Gives P) (hf : ∀ a, P a → (f a).Gives Q) : (o >>= f).Gives Q := by
  match o, ho with
  | .ok a, ho => exact hf a (ho.value a rfl)
  | .error (.error e), ho => exact gives_error (ho.error e rfl)
  | .error .stuck, _ => exact gives_stuck

theorem Gives.map {f : α → β} (ho : o.Gives P) (hf : ∀ a, P a → Q (f a)) : (f <$> o).Gives Q := by
  rw [map_eq_pure_bind]
  exact ho.bind fun a ha => gives_pure (hf a ha)

/-- What holds of a value from the start and is kept with each element of a list holds in the end. -/
theorem gives_foldlM {f : β → α → Outcome β} {items : List α} (hf : ∀ b, ∀ a ∈ items, (f b a).Gives fun _ => True) (b : β) :
    (items.foldlM f b).Gives fun _ => True := by
  induction items generalizing b with
  | nil => exact gives_pure trivial
  | cons a items ih =>
    obtain ⟨ha, hitems⟩ := List.forall_mem_cons.1 fun a ha b => hf b a ha
    rw [List.foldlM_cons]
    exact (ha b).bind fun b _ => ih (fun b a ha => hitems a ha b) b

theorem gives_mapM {f : α → Outcome β} {items : List α} (hf : ∀ a ∈ items, (f a).Gives fun _ => True) :
    (items.mapM f).Gives fun _ => True := by
  induction items with
  | nil => exact gives_pure trivial
  | cons a items ih =>
    obtain ⟨ha, hitems⟩ := List.forall_mem_cons.1 hf
    rw [List.mapM_cons]
    exact ha.bind fun b _ => (ih hitems).bind fun bs _ => gives_pure trivial

end Outcome

open CellExpr.Outcome

/-! ## Kinds -/

namespace Param

theorem accepts_only_iff {k : Kind} : (only k).accepts v = true ↔ v.kind = k := by
  rw [only, accepts, List.contains_cons, List.contains_nil, Bool.or_false, beq_iff_eq]

theorem accepts_pair_iff {k l : Kind} : (kinds [k, l]).accepts v = true ↔ v.kind = k ∨ v.kind = l := by
  rw [accepts, List.contains_cons, List.contains_cons, List.contains_nil, Bool.or_false, Bool.or_eq_true, beq_iff_eq, beq_iff_eq]

theorem exists_of_pattern (h : Param.pattern.accepts v = true) : (∃ s, v = .string s) ∨ ∃ r, v = .regex r := by
  cases v with
  | string s => exact .inl ⟨s, rfl⟩
  | regex r => exact .inr ⟨r, rfl⟩
  | _ => rcases accepts_pair_iff.1 h with h | h <;> cases h

theorem exists_of_sequence (h : Param.sequence.accepts v = true) : (∃ s, v = .string s) ∨ ∃ items, v = .array items := by
  cases v with
  | string s => exact .inl ⟨s, rfl⟩
  | array items => exact .inr ⟨items, rfl⟩
  | _ => rcases accepts_pair_iff.1 h with h | h <;> cases h

end Param

namespace Args

/-- Each argument is of a kind that its place takes. -/
def OfKinds (params : List Param) (rest : Param) (args : List Value) : Prop :=
  ∀ i v, args[i]? = some v → (params.getD i rest).accepts v = true

/-! ## Conversions -/

theorem exists_text (h : Param.string.accepts v = true) : ∃ s, text v = .ok s := by
  cases v with
  | string s => exact ⟨s, rfl⟩
  | _ => cases Param.accepts_only_iff.1 h

theorem exists_number (h : Param.number.accepts v = true) : ∃ x, number v = .ok x := by
  cases v with
  | number x => exact ⟨x, rfl⟩
  | _ => cases Param.accepts_only_iff.1 h

theorem exists_boolean (h : Param.boolean.accepts v = true) : ∃ b, boolean v = .ok b := by
  cases v with
  | boolean b => exact ⟨b, rfl⟩
  | _ => cases Param.accepts_only_iff.1 h

theorem exists_array (h : Param.array.accepts v = true) : ∃ items, array v = .ok items := by
  cases v with
  | array items => exact ⟨items, rfl⟩
  | _ => cases Param.accepts_only_iff.1 h

theorem exists_date (h : Param.date.accepts v = true) : ∃ d, date v = .ok d := by
  cases v with
  | date d => exact ⟨d, rfl⟩
  | _ => cases Param.accepts_only_iff.1 h

/-- A conversion that succeeds reports no error. -/
theorem gives_of_exists_ok (h : ∃ a, o = .ok a) : o.Gives fun _ => True := by
  obtain ⟨a, rfl⟩ := h
  exact gives_ok trivial

variable {params : List Param} {rest : Param}

namespace OfKinds

variable (h : OfKinds params rest args)

include h

theorem nth (i : Nat) : (Args.nth args i).Gives fun v => (params.getD i rest).accepts v = true := gives_require (h i)

theorem textAt (i : Nat) (hplace : params.getD i rest = .string) : (Args.textAt args i).Gives fun _ => True :=
  (h.nth i).bind fun _ hv => gives_of_exists_ok (exists_text (hplace ▸ hv))

theorem numberAt (i : Nat) (hplace : params.getD i rest = .number) : (Args.numberAt args i).Gives fun _ => True :=
  (h.nth i).bind fun _ hv => gives_of_exists_ok (exists_number (hplace ▸ hv))

theorem arrayAt (i : Nat) (hplace : params.getD i rest = .array) : (Args.arrayAt args i).Gives fun _ => True :=
  (h.nth i).bind fun _ hv => gives_of_exists_ok (exists_array (hplace ▸ hv))

theorem dateAt (i : Nat) (hplace : params.getD i rest = .date) : (do date (← Args.nth args i)).Gives fun _ => True :=
  (h.nth i).bind fun _ hv => gives_of_exists_ok (exists_date (hplace ▸ hv))

theorem numberAt? (i : Nat) (hplace : params.getD i rest = .number) : (Args.numberAt? args i).Gives fun _ => True := by
  unfold Args.numberAt?
  split
  · exact gives_ok trivial
  · rename_i v hv
    exact (gives_of_exists_ok (exists_number (hplace ▸ h i v hv))).map fun _ _ => trivial

theorem flagAt (i : Nat) (hplace : params.getD i rest = .boolean) (default : Bool) :
    (Args.flagAt args i default).Gives fun _ => True := by
  unfold Args.flagAt
  split
  · exact gives_ok trivial
  · rename_i v hv
    exact gives_of_exists_ok (exists_boolean (hplace ▸ h i v hv))

/-- The arguments from a place on, where all places from there on are alike. -/
theorem after (i : Nat) {p : Param} (hplaces : ∀ j, i ≤ j → params.getD j rest = p) :
    (Args.after args i).Gives fun vs => ∀ v ∈ vs, p.accepts v = true := by
  refine gives_given fun v hv => ?_
  obtain ⟨j, hj⟩ := List.mem_iff_getElem?.1 (List.mem_of_mem_take hv)
  rw [List.getElem?_drop] at hj
  rw [← hplaces (i + j) (Nat.le_add_right i j)]
  exact h (i + j) v hj

end OfKinds

end Args

open CellExpr.Args

/-- On arguments of the kinds that are declared, the body gives a value that is no error, or reports an error about what values mean. -/
def Body.HeedsKinds (params : List Param) (rest : Param) (b : Body) : Prop :=
  ∀ args s, OfKinds params rest args → (b args s).Gives fun v => v.isError = false

/-! ## Functions on texts -/

namespace TextFunctions

open CellExpr.Pattern CellExpr.Text

theorem mapText_heedsKinds (f : List Char → List Char) (params : List Param) : (mapText f).HeedsKinds params .any := by
  intro args s h
  exact (h.nth 0).bind fun v _ => gives_pure rfl

theorem testTexts_heedsKinds (test : List Char → List Char → Bool) : (testTexts test).HeedsKinds [.string, .string] .any := by
  intro args s h
  refine (h.textAt 0 rfl).bind fun _ _ => ?_
  exact (h.textAt 1 rfl).bind fun _ _ => gives_pure rfl

theorem split_heedsKinds : split.HeedsKinds [.textLike, .pattern, .boolean] .any := by
  intro args s h
  refine (h.nth 0).bind fun v _ => ?_
  refine (h.flagAt 2 rfl false).bind fun keepEmpty _ => ?_
  refine (h.nth 1).bind fun separator hseparator => ?_
  rcases Param.exists_of_pattern hseparator with ⟨t, rfl⟩ | ⟨r, rfl⟩
  · exact gives_pure rfl
  · dsimp only
    rw [cutAtMatches_eq]
    exact gives_pure rfl

theorem count_gives (h : Param.number.accepts v = true) : (count v).Gives fun _ => True := by
  refine (gives_of_exists_ok (exists_number h)).bind fun x _ => ?_
  split
  · split
    · exact gives_fault rfl
    · exact gives_pure trivial
  · exact gives_fault rfl

theorem cutByLengths_gives (s : List Char) {lengths : List Value} (h : ∀ v ∈ lengths, Param.number.accepts v = true) (start : Nat) :
    (cutByLengths s start lengths).Gives fun _ => True := by
  induction lengths generalizing start with
  | nil => exact gives_pure trivial
  | cons length rest ih =>
    obtain ⟨hlength, hrest⟩ := List.forall_mem_cons.1 h
    rw [cutByLengths]
    split
    · exact gives_pure trivial
    · refine (count_gives hlength).bind fun n _ => ?_
      refine (gives_given trivial : (part _ _ _).Gives fun _ => True).bind fun piece _ => ?_
      exact (ih hrest _).bind fun pieces _ => gives_pure trivial

theorem splitByLengths_heedsKinds : splitByLengths.HeedsKinds [.string, .number] .number := by
  intro args s h
  have hplaces : ∀ j, 1 ≤ j → [Param.string, .number].getD j .number = .number
    | 1, _ => rfl
    | _ + 2, _ => rfl
  refine (h.textAt 0 rfl).bind fun text _ => ?_
  refine (h.after 1 hplaces).bind fun lengths hlengths => ?_
  exact (cutByLengths_gives text.toList hlengths 0).bind fun pieces _ => gives_pure rfl

theorem chomp_heedsKinds : chomp.HeedsKinds [.string, .string] .any := by
  intro args s h
  refine (h.textAt 0 rfl).bind fun text _ => ?_
  exact (h.textAt 1 rfl).bind fun ending _ => gives_pure rfl

theorem textPart_gives (text : String) (first : Float) (last : Option Float) :
    (textPart text first last).Gives fun v => v.isError = false := by
  rw [textPart, Outcome.stretch_eq, ok_bind]
  exact (gives_given trivial : (part _ _ _).Gives fun _ => True).bind fun _ _ => gives_pure rfl

theorem substring_heedsKinds : substring.HeedsKinds [.string, .number, .number] .any := by
  intro args s h
  refine (h.textAt 0 rfl).bind fun text _ => ?_
  refine (h.numberAt 1 rfl).bind fun first _ => ?_
  exact (h.numberAt? 2 rfl).bind fun last _ => textPart_gives text first last

theorem contains_heedsKinds : contains.HeedsKinds [.string, .pattern] .any := by
  intro args s h
  refine (h.textAt 0 rfl).bind fun text _ => ?_
  refine (h.nth 1).bind fun pattern hpattern => ?_
  rcases Param.exists_of_pattern hpattern with ⟨t, rfl⟩ | ⟨r, rfl⟩
  · exact gives_pure rfl
  · exact gives_pure rfl

theorem replace_heedsKinds : replace.HeedsKinds [.string, .pattern, .string] .any := by
  intro args s h
  refine (h.textAt 0 rfl).bind fun text _ => ?_
  refine (h.textAt 2 rfl).bind fun replacement _ => ?_
  refine (h.nth 1).bind fun pattern hpattern => ?_
  rcases Param.exists_of_pattern hpattern with ⟨t, rfl⟩ | ⟨r, rfl⟩
  · exact gives_pure rfl
  · exact gives_pure rfl

theorem replaceChars_heedsKinds : replaceChars.HeedsKinds [.string, .string, .string] .any := by
  intro args s h
  refine (h.textAt 0 rfl).bind fun text _ => ?_
  refine (h.textAt 1 rfl).bind fun targets _ => ?_
  exact (h.textAt 2 rfl).bind fun into _ => gives_pure rfl

theorem compiled_gives (r : Except PatternFault Regex) : (compiled r).Gives fun _ => True := by
  cases r with
  | ok r => exact gives_ok trivial
  | error f => exact gives_error rfl

/-- A text is no regular expression if it is too long for one, which is no matter of its kind. -/
theorem regexOf_gives (h : Param.pattern.accepts v = true) : (regexOf v).Gives fun _ => True := by
  rcases Param.exists_of_pattern h with ⟨t, rfl⟩ | ⟨r, rfl⟩
  · exact compiled_gives _
  · exact gives_ok trivial

theorem matchGroups_heedsKinds : matchGroups.HeedsKinds [.string, .pattern] .any := by
  intro args s h
  refine (h.textAt 0 rfl).bind fun text _ => ?_
  refine (h.nth 1).bind fun pattern hpattern => ?_
  refine (regexOf_gives hpattern).bind fun r _ => ?_
  refine (compiled_gives r.anchored).bind fun anchored _ => ?_
  split <;> exact gives_pure rfl

theorem find_heedsKinds : find.HeedsKinds [.string, .pattern] .any := by
  intro args s h
  refine (h.textAt 0 rfl).bind fun text _ => ?_
  refine (h.nth 1).bind fun pattern hpattern => ?_
  exact (regexOf_gives hpattern).bind fun r _ => gives_pure rfl

theorem cutAt_gives (fromEnd : Bool) (s : List Char) (found : Option Match) : (cutAt fromEnd s found).Gives fun _ => True := by
  cases found with
  | none => exact gives_pure trivial
  | some m =>
    have hbyte (place : Nat) : (byteAt s place).Gives fun _ => True := gives_given trivial
    have hpart (start stop : Nat) : (textBetween s start stop).Gives fun _ => True := gives_require fun _ _ => trivial
    refine (hbyte m.start).bind fun start _ => (hpart 0 start).bind fun before _ => ?_
    exact (hbyte m.stop).bind fun stop _ => (hpart stop _).bind fun after _ => gives_pure trivial

theorem partition_heedsKinds (fromEnd : Bool) : (partition fromEnd).HeedsKinds [.string, .pattern, .boolean] .any := by
  intro args s h
  refine (h.textAt 0 rfl).bind fun text _ => ?_
  refine (h.flagAt 2 rfl false).bind fun omitMatch _ => ?_
  refine (h.nth 1).bind fun pattern hpattern => ?_
  refine (regexOf_gives hpattern).bind fun r _ => ?_
  exact (cutAt_gives fromEnd text.toList _).bind fun parts _ => gives_pure rfl

theorem unicode_heedsKinds : unicode.HeedsKinds [.string] .any := by
  intro args s h
  exact (h.textAt 0 rfl).bind fun text _ => gives_pure rfl

/-- Each function on texts heeds the kinds that it declares. -/
theorem all_heedKinds : ∀ f ∈ all, f.body.HeedsKinds f.params f.rest := by
  simp only [all, List.forall_mem_cons]
  exact ⟨split_heedsKinds, splitByLengths_heedsKinds, mapText_heedsKinds upper _, mapText_heedsKinds lower _, mapText_heedsKinds title _,
    mapText_heedsKinds trim _, mapText_heedsKinds trim _, chomp_heedsKinds, substring_heedsKinds, testTexts_heedsKinds beginsWith,
    testTexts_heedsKinds finishesWith, contains_heedsKinds, replace_heedsKinds, replaceChars_heedsKinds, matchGroups_heedsKinds,
    find_heedsKinds, partition_heedsKinds false, partition_heedsKinds true, unicode_heedsKinds, mapText_heedsKinds fingerprint _, List.forall_mem_nil _⟩

end TextFunctions

/-- The functions whose bodies ask more of the kinds of their arguments than they declare. -/
def askingMore : List String := ["get", "indexOf", "lastIndexOf", "sort", "sum", "toString", "toNumber", "diff"]

/-! ## Functions on sequences -/

namespace SequenceFunctions

theorem length_heedsKinds : length.HeedsKinds [.sequence] .any := by
  intro args s h
  refine (h.nth 0).bind fun v hv => ?_
  rcases Param.exists_of_sequence hv with ⟨t, rfl⟩ | ⟨items, rfl⟩
  · exact gives_pure rfl
  · exact gives_pure rfl

theorem join_heedsKinds : join.HeedsKinds [.array, .string] .any := by
  intro args s h
  refine (h.textAt 1 rfl).bind fun separator _ => ?_
  exact (h.arrayAt 0 rfl).bind fun items _ => gives_pure rfl

theorem slice_heedsKinds : slice.HeedsKinds [.sequence, .number, .number] .any := by
  intro args s h
  refine (h.numberAt 1 rfl).bind fun first _ => ?_
  refine (h.numberAt? 2 rfl).bind fun last _ => ?_
  refine (h.nth 0).bind fun v hv => ?_
  rcases Param.exists_of_sequence hv with ⟨t, rfl⟩ | ⟨items, rfl⟩
  · exact TextFunctions.textPart_gives t first last
  · show (Outcome.stretch items.length first last >>= fun bounds => _).Gives _
    rw [Outcome.stretch_eq, ok_bind]
    exact (gives_given trivial : (part _ _ _).Gives fun _ => True).bind fun _ _ => gives_pure rfl

theorem reverse_heedsKinds : reverse.HeedsKinds [.sequence] .any := by
  intro args s h
  refine (h.nth 0).bind fun v hv => ?_
  rcases Param.exists_of_sequence hv with ⟨t, rfl⟩ | ⟨items, rfl⟩
  · exact gives_pure rfl
  · exact gives_pure rfl

theorem uniques_heedsKinds : uniques.HeedsKinds [.array] .any := by
  intro args s h
  exact (h.arrayAt 0 rfl).bind fun items _ => gives_pure rfl

theorem inArray_heedsKinds : inArray.HeedsKinds [.array, .any] .any := by
  intro args s h
  refine (h.arrayAt 0 rfl).bind fun items _ => ?_
  exact (h.nth 1).bind fun v _ => gives_pure rfl

/-- Each function on sequences heeds the kinds that it declares, unless it asks more of them. -/
theorem all_heedKinds : ∀ f ∈ all, f.name ∉ askingMore → f.body.HeedsKinds f.params f.rest := by
  simp only [all, List.forall_mem_cons]
  exact ⟨fun _ => length_heedsKinds, fun _ => join_heedsKinds, fun _ => slice_heedsKinds, fun h => absurd (by decide) h,
    fun _ => reverse_heedsKinds, fun h => absurd (by decide) h, fun _ => uniques_heedsKinds, fun _ => inArray_heedsKinds,
    fun h => absurd (by decide) h, fun h => absurd (by decide) h, List.forall_mem_nil _⟩

end SequenceFunctions

/-! ## Functions on numbers -/

namespace MathFunctions

theorem unary_heedsKinds {f : Float → Outcome Float} (hf : ∀ x, (f x).Gives fun _ => True) :
    (body (unary f)).HeedsKinds [.number] .any := by
  intro args s h
  refine (h.numberAt 0 rfl).bind fun x _ => ?_
  exact (hf x).bind fun y _ => gives_pure rfl

theorem binary_heedsKinds {f : Float → Float → Outcome Float} (hf : ∀ x y, (f x y).Gives fun _ => True) :
    (body (binary f)).HeedsKinds [.number, .number] .any := by
  intro args s h
  refine (h.numberAt 0 rfl).bind fun x _ => ?_
  refine (h.numberAt 1 rfl).bind fun y _ => ?_
  exact (hf x y).bind fun z _ => gives_pure rfl

theorem ofPositive_gives (name : String) (f : Float → Float) (x : Float) : (ofPositive name f x).Gives fun _ => True := by
  unfold ofPositive
  split
  · exact gives_fault rfl
  · exact gives_ok trivial

theorem root_gives (x : Float) : (root x).Gives fun _ => True := by
  unfold root
  split
  · exact gives_fault rfl
  · exact gives_ok trivial

theorem wholeRemainder_gives (x y : Float) : (wholeRemainder x y).Gives fun _ => True := by
  simp only [wholeRemainder]
  split
  · exact gives_fault rfl
  · exact (gives_given trivial : (Outcome.remainder _ _).Gives fun _ => True).map fun _ _ => trivial

theorem fold_heedsKinds (better : Float → Float → Float) : (body (fold better)).HeedsKinds [] .number := by
  intro args s h
  refine (h.numberAt 0 rfl).bind fun first _ => ?_
  refine (h.after 1 fun _ _ => rfl).bind fun rest hrest => ?_
  refine (gives_foldlM (fun best v hv => ?_) first).bind fun best _ => gives_pure rfl
  exact (gives_of_exists_ok (exists_number (hrest v hv))).bind fun x _ => gives_pure trivial

/-- Each function on numbers heeds the kinds that it declares, unless it asks more of them. -/
theorem all_heedKinds : ∀ f ∈ all, f.name ∉ askingMore → f.body.HeedsKinds f.params f.rest := by
  simp only [all, unaries, binaries, folds, List.map_cons, List.map_nil, List.cons_append, List.nil_append, List.forall_mem_cons]
  have hok (f : Float → Float) (x : Float) : Gives (fun _ => True) (.ok (f x)) := gives_ok trivial
  exact ⟨fun _ => unary_heedsKinds (hok _), fun _ => unary_heedsKinds (hok _), fun _ => unary_heedsKinds (hok _),
    fun _ => unary_heedsKinds (hok _), fun _ => unary_heedsKinds (hok _), fun _ => unary_heedsKinds (ofPositive_gives _ _),
    fun _ => unary_heedsKinds (ofPositive_gives _ _), fun _ => unary_heedsKinds (hok _), fun _ => unary_heedsKinds (hok _),
    fun _ => unary_heedsKinds root_gives, fun _ => binary_heedsKinds wholeRemainder_gives,
    fun _ => binary_heedsKinds fun _ _ => gives_ok trivial, fun _ => fold_heedsKinds _, fun _ => fold_heedsKinds _,
    fun h => absurd (by decide) h, List.forall_mem_nil _⟩

end MathFunctions

/-! ## Functions on truth values -/

namespace LogicFunctions

theorem joined_heedsKinds (join : Bool → Bool → Bool) (start : Bool) : (body (joined join start)).HeedsKinds [] .boolean := by
  intro args s h
  refine (h.nth 0).bind fun _ _ => ?_
  refine (gives_foldlM (fun result v hv => ?_) start).bind fun result _ => gives_pure rfl
  obtain ⟨i, hi⟩ := List.mem_iff_getElem?.1 hv
  exact (gives_of_exists_ok (exists_boolean (h i v hi))).bind fun b _ => gives_pure trivial

theorem opposite_heedsKinds : (body opposite).HeedsKinds [.boolean] .any := by
  intro args s h
  refine (h.nth 0).bind fun v hv => ?_
  exact (gives_of_exists_ok (exists_boolean hv)).bind fun b _ => gives_pure rfl

theorem test_heedsKinds (p : Value → Bool) : (body (test p)).HeedsKinds [.any] .any := by
  intro args s h
  exact (h.nth 0).bind fun v _ => gives_pure rfl

theorem errorMessage_heedsKinds : (body errorMessage).HeedsKinds [.any] .any := by
  intro args s h
  refine (h.nth 0).bind fun v _ => ?_
  split <;> exact gives_pure rfl

theorem typeOf_heedsKinds : (body typeOf).HeedsKinds [.any] .any := by
  intro args s h
  exact (h.nth 0).bind fun v _ => gives_pure rfl

/-- An error among the arguments is passed over. -/
theorem coalesce_heedsKinds : (body coalesce).HeedsKinds [] .any := by
  intro args s h
  refine (h.nth 0).bind fun _ _ => gives_pure ?_
  cases hfound : args.find? fun v => !v.isNull && !v.isError with
  | none => rfl
  | some v =>
    have hv := List.find?_some hfound
    simp only [Bool.and_eq_true, Bool.not_eq_true'] at hv
    exact hv.2

/-- Each function on truth values, and each that looks into values, heeds the kinds that it declares. -/
theorem all_heedKinds : ∀ f ∈ all, f.body.HeedsKinds f.params f.rest := by
  simp only [all, joins, tests, List.map_cons, List.map_nil, List.cons_append, List.nil_append, List.forall_mem_cons]
  exact ⟨joined_heedsKinds _ _, joined_heedsKinds _ _, joined_heedsKinds _ _, opposite_heedsKinds, test_heedsKinds _, test_heedsKinds _,
    test_heedsKinds _, test_heedsKinds _, test_heedsKinds _, test_heedsKinds _, test_heedsKinds _, errorMessage_heedsKinds,
    typeOf_heedsKinds, coalesce_heedsKinds, List.forall_mem_nil _⟩

end LogicFunctions

/-! ## Conversions -/

namespace ConversionFunctions

theorem toDate_heedsKinds : toDate.HeedsKinds [.kinds [.string, .date]] .string := by
  intro args s h
  have hplaces : ∀ j, 1 ≤ j → [Param.kinds [.string, .date]].getD j .string = .string
    | _ + 1, _ => rfl
  refine (h.nth 0).bind fun v hv => ?_
  cases v with
  | date d => exact gives_pure rfl
  | string t =>
    refine (h.after 1 hplaces).bind fun rest hrest => ?_
    refine (gives_mapM fun v hv => gives_of_exists_ok (exists_text (hrest v hv))).bind fun layouts _ => ?_
    exact (gives_orFault rfl fun _ _ => trivial).bind fun d (_ : True) => gives_pure rfl
  | _ => rcases Param.accepts_pair_iff.1 hv with hv | hv <;> cases hv

theorem parseJson_heedsKinds : parseJson.HeedsKinds [.string] .any := by
  intro args s h
  refine (h.textAt 0 rfl).bind fun text _ => ?_
  split
  · exact gives_pure (Value.isError_ofJson _)
  · exact gives_error rfl

theorem jsonize_heedsKinds : jsonize.HeedsKinds [.any] .any := by
  intro args s h
  exact (h.nth 0).bind fun v _ => gives_pure rfl

/-- Each conversion heeds the kinds that it declares, unless it asks more of them. -/
theorem all_heedKinds : ∀ f ∈ all, f.name ∉ askingMore → f.body.HeedsKinds f.params f.rest := by
  simp only [all, List.forall_mem_cons]
  exact ⟨fun h => absurd (by decide) h, fun h => absurd (by decide) h, fun _ => toDate_heedsKinds, fun _ => parseJson_heedsKinds,
    fun _ => jsonize_heedsKinds, List.forall_mem_nil _⟩

end ConversionFunctions

/-! ## Functions on dates -/

namespace DateFunctions

open CellExpr.Calendar

theorem now_heedsKinds (instant : Instant) : (now instant).HeedsKinds [] .any := fun _ _ _ => gives_pure rfl

theorem datePart_heedsKinds : datePart.HeedsKinds [.date, .string] .any := by
  intro args s h
  refine (h.nth 0).bind fun v hv => ?_
  refine (gives_of_exists_ok (exists_date hv)).bind fun d _ => ?_
  refine (h.textAt 1 rfl).bind fun name _ => ?_
  refine (gives_orFault rfl fun _ _ => trivial).bind fun part (_ : True) => ?_
  split <;> exact gives_pure rfl

theorem shift_heedsKinds : shift.HeedsKinds [.date, .number, .string] .any := by
  intro args s h
  refine (h.nth 0).bind fun v hv => ?_
  refine (gives_of_exists_ok (exists_date hv)).bind fun d _ => ?_
  refine (h.numberAt 1 rfl).bind fun amount _ => ?_
  refine (h.textAt 2 rfl).bind fun name _ => ?_
  refine (gives_orFault rfl fun _ _ => trivial).bind fun unit (_ : True) => ?_
  exact (gives_orFault rfl fun _ _ => trivial).bind fun shifted (_ : True) => gives_pure rfl

/-- Each function on dates heeds the kinds that it declares, unless it asks more of them. -/
theorem all_heedKinds (instant : Instant) : ∀ f ∈ all instant, f.name ∉ askingMore → f.body.HeedsKinds f.params f.rest := by
  simp only [all, List.forall_mem_cons]
  exact ⟨fun _ => now_heedsKinds instant, fun _ => datePart_heedsKinds, fun _ => shift_heedsKinds, fun h => absurd (by decide) h, List.forall_mem_nil _⟩

end DateFunctions

/-! ## Calls -/

namespace Function

variable {f : Function} {s : Scope}

/-- There is nothing wrong with the arguments if their number is taken and each is of a kind that its place takes. -/
theorem misfit?_eq_none_iff : f.misfit? args = none ↔ f.TakesCount args.length ∧ f.TakesKinds args := by
  rw [misfit?]
  by_cases hcount : f.TakesCount args.length
  · rw [if_pos (acceptsCount_iff.2 hcount), and_iff_right hcount]
    refine ⟨fun h => ?_, misfitFrom?_of_takesKinds⟩
    by_contra hkinds
    obtain ⟨before, v, after, rfl, hbefore, hv⟩ := exists_first_of_not_takesKinds hkinds
    rw [misfitFrom?_of_first hbefore hv] at h
    cases h
  · rw [if_neg fun h => hcount (acceptsCount_iff.1 h)]
    exact iff_of_false (Option.some_ne_none _) fun h => hcount h.1

/-- The body does not run on arguments with which something is wrong. -/
theorem runs_invoke_of_misfit (h : f.misfit? args ≠ none) : (f.invoke args s).runs = [] := by
  rw [invoke]
  cases hmisfit : f.misfit? args with
  | none => exact absurd hmisfit h
  | some fault => cases (if f.acceptsErrors then none else args.find? Value.isError) <;> rfl

end Function

/-- Each standard function heeds the kinds that it declares, unless it asks more of them. -/
theorem standardFunctions_heedKinds (now : Calendar.Instant) :
    ∀ f ∈ standardFunctions now, f.name ∉ askingMore → f.body.HeedsKinds f.params f.rest := by
  simp only [standardFunctions, List.forall_mem_append]
  exact ⟨⟨⟨⟨⟨fun f hf _ => TextFunctions.all_heedKinds f hf, SequenceFunctions.all_heedKinds⟩, MathFunctions.all_heedKinds⟩,
    fun f hf _ => LogicFunctions.all_heedKinds f hf⟩, ConversionFunctions.all_heedKinds⟩, DateFunctions.all_heedKinds now⟩

/-- The body of a standard function that asks no more than it declares comes to a value that is no error, or to an error about what values
mean, on all arguments with which nothing is wrong. A conversion that failed would end it with an error about kinds, so none fails. In
a call of the function, then, an error about the kinds or the number of arguments is found before the body runs. -/
theorem kinds_of_arguments (now : Calendar.Instant) (s : Scope) {f : Function} (hf : f ∈ standardFunctions now)
    (hname : f.name ∉ askingMore) (args : List Value) :
    (f.misfit? args = none →
      (∃ v, f.body args s = .ok v ∧ v.isError = false) ∨
        ∃ e : EvalError, f.body args s = .error (.error e) ∧ e.kind = .semantic) ∧
    ∀ e : EvalError, (f.invoke args s).value = .error e → e.kind = .type ∨ e.kind = .arity → (f.invoke args s).runs = [] := by
  have hbody (hfits : f.misfit? args = none) : (∃ v, f.body args s = .ok v ∧ v.isError = false) ∨
      ∃ e : EvalError, f.body args s = .error (.error e) ∧ e.kind = .semantic := by
    obtain ⟨hcount, hkinds⟩ := Function.misfit?_eq_none_iff.1 hfits
    obtain ⟨hvalue, herror⟩ := standardFunctions_heedKinds now f hf hname args s hkinds
    have hcomplete : (f.body args s).Complete := standardFunctions_completeFrom now f hf args s hcount.1
    match hresult : f.body args s with
    | .ok v => exact .inl ⟨v, rfl, hvalue v hresult⟩
    | .error (.error e) => exact .inr ⟨e, rfl, herror e hresult⟩
    | .error .stuck => exact absurd hresult hcomplete
  refine ⟨hbody, fun e he hkind => ?_⟩
  by_cases hfits : f.misfit? args = none
  · rw [Function.invoke] at he ⊢
    cases herrors : if f.acceptsErrors then none else args.find? Value.isError with
    | some v => rfl
    | none =>
      -- the body runs, and what it comes to is no error about kinds or numbers
      simp only [herrors, hfits] at he
      rcases hbody hfits with ⟨v, hresult, hv⟩ | ⟨e', hresult, he'⟩
      · rw [hresult] at he
        obtain rfl : v = .error e := he
        cases hv
      · rw [hresult] at he
        obtain rfl : e' = e := Value.error.inj he
        rw [he'] at hkind
        rcases hkind with h | h <;> cases h
  · exact Function.runs_invoke_of_misfit hfits

/-- Lengths are numbers: whether they are counts is for the body to find out, and a text among them is found before it runs. -/
theorem kinds_of_arguments_lengths :
    ∃ f ∈ standardFunctions ⟨0, 0, by decide⟩, f.name = "splitByLengths" ∧ f.name ∉ askingMore ∧
      f.misfit? [.string "abc", .number 1, .number (-1)] = none ∧
      ((∃ v, f.body [.string "abc", .number 1, .number (-1)] [] = .ok v ∧ v.isError = false) ∨
        ∃ e : EvalError, f.body [.string "abc", .number 1, .number (-1)] [] = .error (.error e) ∧ e.kind = .semantic) ∧
      (∃ e : EvalError, (f.invoke [.string "abc", .number 1, .string "1"] []).value = .error e ∧ e.kind = .type) ∧
      (f.invoke [.string "abc", .number 1, .string "1"] []).runs = [] := by
  have hf : (Registry.standard ⟨0, 0, by decide⟩).lookup? "splitByLengths" = some _ := rfl
  have hmember := List.mem_of_find?_eq_some hf
  obtain ⟨hbody, -⟩ := kinds_of_arguments ⟨0, 0, by decide⟩ [] hmember (by decide) [.string "abc", .number 1, .number (-1)]
  obtain ⟨-, hcaught⟩ := kinds_of_arguments ⟨0, 0, by decide⟩ [] hmember (by decide) [.string "abc", .number 1, .string "1"]
  exact ⟨_, hmember, rfl, by decide, rfl, hbody rfl, ⟨_, rfl, rfl⟩, hcaught _ rfl (.inl rfl)⟩

end CellExpr
