import CellExpr.Function.Standard
import CellExpr.Proofs.Calendar.Extent
import CellExpr.Proofs.Evaluation.Positions
import CellExpr.Proofs.Pattern.Matches

/-!
# Bodies of the standard functions

Each body is complete on as many arguments as its function declares to need at least: it asks for no other arguments, and
what it takes out of texts and lists is there. So a call of a standard function is complete on all arguments, as its body
runs only on a number of arguments that is declared.
-/

namespace CellExpr

open CellExpr.Outcome

/-- A body that is complete on so many arguments and on more. -/
def Body.CompleteFrom (least : Nat) (b : Body) : Prop := ∀ args s, least ≤ args.length → (b args s).Complete

/-! ## Arguments -/

namespace Args

variable {args : List Value} {position : Nat}

theorem complete_nth (h : position < args.length) : (nth args position).Complete :=
  complete_of_eq_ok (elementAt_of_lt h)

theorem complete_after (h : position ≤ args.length) : (after args position).Complete :=
  complete_of_eq_ok (partFrom_of_le h)

theorem complete_text (v : Value) : (text v).Complete := by cases v <;> nofun

theorem complete_number (v : Value) : (number v).Complete := by cases v <;> nofun

theorem complete_boolean (v : Value) : (boolean v).Complete := by cases v <;> nofun

theorem complete_array (v : Value) : (array v).Complete := by cases v <;> nofun

theorem complete_date (v : Value) : (date v).Complete := by cases v <;> nofun

theorem complete_textAt (h : position < args.length) : (textAt args position).Complete :=
  (complete_nth h).bind fun v _ => complete_text v

theorem complete_numberAt (h : position < args.length) : (numberAt args position).Complete :=
  (complete_nth h).bind fun v _ => complete_number v

theorem complete_arrayAt (h : position < args.length) : (arrayAt args position).Complete :=
  (complete_nth h).bind fun v _ => complete_array v

theorem complete_numberAt? (args : List Value) (position : Nat) : (numberAt? args position).Complete := by
  unfold numberAt?
  split
  · exact complete_ok none
  · exact (complete_number _).map some

theorem complete_flagAt (args : List Value) (position : Nat) (default : Bool) :
    (flagAt args position default).Complete := by
  unfold flagAt
  split
  · exact complete_ok default
  · exact complete_boolean _

end Args

open CellExpr.Args

/-! ## Functions on texts -/

namespace TextFunctions

open CellExpr.Text CellExpr.Pattern

theorem mapText_completeFrom (f : List Char → List Char) : (mapText f).CompleteFrom 1 := by
  intro args s h
  exact (complete_nth h).bind fun v _ => complete_pure _

theorem testTexts_completeFrom (test : List Char → List Char → Bool) : (testTexts test).CompleteFrom 2 := by
  intro args s h
  refine (complete_textAt (by omega)).bind fun _ _ => ?_
  exact (complete_textAt h).bind fun _ _ => complete_pure _

/-- Cutting at the bytes of matches in order gives the pieces between the matches. -/
theorem cutFrom_eq {s : List Char} {place : Nat} {found : List Match} (h : InOrder s.length place found)
    (hplace : place ≤ s.length) : cutFrom s (byteLength (s.take place)) found = .ok (piecesFrom s place found) := by
  induction found generalizing place with
  | nil =>
    rw [cutFrom, textBetween_back hplace]
    rfl
  | cons m rest ih =>
    obtain ⟨⟨hstart, hm, hstop⟩, hrest⟩ := h
    rw [cutFrom, byteAt_of_le (Nat.le_trans hm hstop), ok_bind, textBetween_take hstart, ok_bind, byteAt_of_le hstop, ok_bind,
      ih hrest hstop]
    rfl

/-- Cutting a text at the matches of a regular expression gives its pieces. -/
theorem cutAtMatches_eq (r : Regex) (keepEmpty : Bool) (s : List Char) :
    cutAtMatches r keepEmpty s = .ok (r.splitPieces keepEmpty s) := by
  have hcut := cutFrom_eq ((r.findAll_inOrder s).filter (!·.isEmptyAtStart)) (Nat.zero_le s.length)
  rw [List.take_zero, byteLength_nil] at hcut
  cases keepEmpty with
  | false => rfl
  | true =>
    simp only [cutAtMatches, Regex.splitPieces, if_true]
    generalize (r.findAll s).filter (!·.isEmptyAtStart) = found at hcut ⊢
    cases found with
    | nil => rfl
    | cons m rest => exact congrArg (dropLastEmpty <$> ·) hcut

theorem split_completeFrom : split.CompleteFrom 2 := by
  intro args s h
  refine (complete_nth (by omega)).bind fun v _ => ?_
  refine (complete_flagAt args 2 false).bind fun keepEmpty _ => ?_
  refine (complete_nth h).bind fun separator _ => ?_
  split
  · exact complete_pure _
  · rw [cutAtMatches_eq]
    exact complete_pure _
  · exact complete_fault _

theorem complete_count (v : Value) : (count v).Complete := by
  refine (complete_number v).bind fun x _ => ?_
  split
  · split
    · exact complete_fault _
    · exact complete_pure _
  · exact complete_fault _

/-- Each piece lies between the end of the piece before it and the end of the text. -/
theorem complete_cutByLengths (s : List Char) {start : Nat} (hstart : start < Number.countBound) (lengths : List Value) :
    (cutByLengths s start lengths).Complete := by
  induction lengths generalizing start with
  | nil => exact complete_pure []
  | cons length rest ih =>
    rw [cutByLengths]
    split
    · exact complete_pure []
    · refine (complete_count length).bind fun n _ => ?_
      have hstop : start ≤ min (Number.saturate (start + n)) s.length ∧ min (Number.saturate (start + n)) s.length < Number.countBound := by
        unfold Number.saturate
        omega
      refine (complete_of_eq_ok (part_of_le hstop.1 (Nat.min_le_right _ _))).bind fun piece _ => ?_
      exact (ih hstop.2).bind fun pieces _ => complete_pure _

theorem splitByLengths_completeFrom : splitByLengths.CompleteFrom 2 := by
  intro args s h
  refine (complete_textAt (by omega)).bind fun text _ => ?_
  refine (complete_after (by omega)).bind fun lengths _ => ?_
  exact (complete_cutByLengths _ (by decide) _).bind fun pieces _ => complete_pure _

theorem chomp_completeFrom : chomp.CompleteFrom 2 := by
  intro args s h
  refine (complete_textAt (by omega)).bind fun text _ => ?_
  exact (complete_textAt h).bind fun ending _ => complete_pure _

theorem complete_textPart (text : String) (first : Float) (last : Option Float) : (textPart text first last).Complete := by
  obtain ⟨hstart, hstop⟩ := stretch_le text.toList.length first last
  rw [textPart, Outcome.stretch_eq, ok_bind]
  exact (complete_of_eq_ok (part_of_le hstart hstop)).bind fun _ _ => complete_pure _

theorem substring_completeFrom : substring.CompleteFrom 2 := by
  intro args s h
  refine (complete_textAt (by omega)).bind fun text _ => ?_
  refine (complete_numberAt h).bind fun first _ => ?_
  exact (complete_numberAt? args 2).bind fun last _ => complete_textPart text first last

theorem contains_completeFrom : contains.CompleteFrom 2 := by
  intro args s h
  refine (complete_textAt (by omega)).bind fun text _ => ?_
  refine (complete_nth h).bind fun pattern _ => ?_
  split
  · exact complete_pure _
  · exact (complete_text _).bind fun needle _ => complete_pure _

theorem replace_completeFrom : replace.CompleteFrom 3 := by
  intro args s h
  refine (complete_textAt (by omega)).bind fun text _ => ?_
  refine (complete_textAt h).bind fun replacement _ => ?_
  refine (complete_nth (by omega)).bind fun pattern _ => ?_
  split
  · exact complete_pure _
  · exact (complete_text _).bind fun needle _ => complete_pure _

theorem replaceChars_completeFrom : replaceChars.CompleteFrom 3 := by
  intro args s h
  refine (complete_textAt (by omega)).bind fun text _ => ?_
  refine (complete_textAt (by omega)).bind fun targets _ => ?_
  exact (complete_textAt h).bind fun into _ => complete_pure _

theorem complete_compiled (r : Except PatternFault Regex) : (compiled r).Complete := by cases r <;> nofun

theorem complete_regexOf (v : Value) : (regexOf v).Complete := by
  cases v with
  | regex r => exact complete_ok r
  | string source => exact complete_compiled _
  | _ => exact complete_fault _

theorem matchGroups_completeFrom : matchGroups.CompleteFrom 2 := by
  intro args s h
  refine (complete_textAt (by omega)).bind fun text _ => ?_
  refine (complete_nth h).bind fun pattern _ => ?_
  refine (complete_regexOf pattern).bind fun r _ => ?_
  refine (complete_compiled _).bind fun anchored _ => ?_
  split <;> exact complete_pure _

theorem find_completeFrom : find.CompleteFrom 2 := by
  intro args s h
  refine (complete_textAt (by omega)).bind fun text _ => ?_
  refine (complete_nth h).bind fun pattern _ => ?_
  exact (complete_regexOf pattern).bind fun r _ => complete_pure _

/-- A text is cut before and after a match in it. -/
theorem cutAt_eq {text : List Char} {m : Match} (h : m.IsWithin text.length 0) (fromEnd : Bool) :
    cutAt fromEnd text (some m) = .ok (m.before text, m.text text, m.after text) := by
  obtain ⟨_, hm, hstop⟩ := h
  rw [cutAt, byteAt_of_le (Nat.le_trans hm hstop), ok_bind, textBetween_front, ok_bind, byteAt_of_le hstop, ok_bind,
    textBetween_back hstop]
  rfl

theorem partition_completeFrom (fromEnd : Bool) : (partition fromEnd).CompleteFrom 2 := by
  intro args s h
  refine (complete_textAt (by omega)).bind fun text _ => ?_
  refine (complete_flagAt args 2 false).bind fun omitMatch _ => ?_
  refine (complete_nth h).bind fun pattern _ => ?_
  refine (complete_regexOf pattern).bind fun r _ => ?_
  have hfound (m : Match) (hm : (if fromEnd then (r.findAll text.toList).getLast? else r.firstMatch? text.toList) = some m) :
      m.IsWithin text.toList.length 0 := by
    split at hm
    · exact (r.findAll_inOrder text.toList).isWithin m (List.mem_of_getLast? hm)
    · exact Regex.firstMatch?_isWithin hm
  refine Complete.bind ?_ fun parts _ => complete_pure _
  generalize (if fromEnd then (r.findAll text.toList).getLast? else r.firstMatch? text.toList) = found at hfound
  cases found with
  | none => exact complete_pure _
  | some m => exact complete_of_eq_ok (cutAt_eq (hfound m rfl) fromEnd)

theorem unicode_completeFrom : unicode.CompleteFrom 1 := by
  intro args s h
  exact (complete_textAt h).bind fun text _ => complete_pure _

theorem all_completeFrom : ∀ f ∈ all, f.body.CompleteFrom f.minArgs := by
  simp only [all, List.forall_mem_cons]
  exact ⟨split_completeFrom, splitByLengths_completeFrom, mapText_completeFrom upper, mapText_completeFrom lower, mapText_completeFrom title,
    mapText_completeFrom trim, mapText_completeFrom trim, chomp_completeFrom, substring_completeFrom, testTexts_completeFrom beginsWith,
    testTexts_completeFrom finishesWith, contains_completeFrom, replace_completeFrom, replaceChars_completeFrom, matchGroups_completeFrom,
    find_completeFrom, partition_completeFrom false, partition_completeFrom true, unicode_completeFrom, mapText_completeFrom fingerprint, nofun⟩

end TextFunctions

/-! ## Functions on sequences -/

namespace SequenceFunctions

open CellExpr.Text

theorem complete_lengthOf (v : Value) : (lengthOf v).Complete := by
  cases v with
  | string s => exact complete_ok _
  | _ => exact (complete_array _).bind fun items _ => complete_pure _

theorem length_completeFrom : length.CompleteFrom 1 := by
  intro args s h
  refine (complete_nth h).bind fun v _ => ?_
  exact (complete_lengthOf v).bind fun n _ => complete_pure _

theorem join_completeFrom : join.CompleteFrom 2 := by
  intro args s h
  refine (complete_textAt h).bind fun separator _ => ?_
  exact (complete_arrayAt (by omega)).bind fun items _ => complete_pure _

theorem complete_partOf (v : Value) (first : Float) (last : Option Float) : (partOf v first last).Complete := by
  unfold partOf
  split
  · exact TextFunctions.complete_textPart _ first last
  · refine (complete_array _).bind fun items _ => ?_
    obtain ⟨hstart, hstop⟩ := stretch_le items.length first last
    rw [Outcome.stretch_eq, ok_bind]
    exact (complete_of_eq_ok (part_of_le hstart hstop)).bind fun _ _ => complete_pure _

theorem slice_completeFrom : slice.CompleteFrom 2 := by
  intro args s h
  refine (complete_numberAt h).bind fun first _ => ?_
  refine (complete_numberAt? args 2).bind fun last _ => ?_
  exact (complete_nth (by omega)).bind fun v _ => complete_partOf v first last

/-- A place below the length of a sequence is one that it has. -/
theorem complete_elementOf {v : Value} {length place : Nat} (hlength : lengthOf v = .ok length) (hplace : place < length) :
    (elementOf v place).Complete := by
  cases v with
  | string s =>
    obtain rfl := Except.ok.inj hlength
    exact (complete_of_eq_ok (elementAt_of_lt hplace)).bind fun c _ => complete_pure _
  | array items =>
    obtain rfl := Except.ok.inj hlength
    exact complete_of_eq_ok (elementAt_of_lt hplace)
  | _ => cases hlength

theorem get_completeFrom : get.CompleteFrom 2 := by
  intro args s h
  refine (complete_nth (by omega)).bind fun v _ => ?_
  refine (complete_nth h).bind fun key _ => ?_
  split
  · exact complete_orFault _ _
  · split
    · refine (complete_numberAt h).bind fun first _ => ?_
      exact (complete_numberAt? args 2).bind fun last _ => complete_partOf _ first last
    · rename_i x _ _ _
      refine (complete_lengthOf v).bind fun length hlength => ?_
      rw [Outcome.placeOf_eq, ok_bind]
      cases hfound : placeOf? length x with
      | none => exact complete_fault _
      | some place => exact complete_elementOf hlength (place?_lt hfound)
  · exact complete_fault _

theorem reverse_completeFrom : reverse.CompleteFrom 1 := by
  intro args s h
  refine (complete_nth h).bind fun v _ => ?_
  split
  · exact complete_pure _
  · exact (complete_array _).bind fun items _ => complete_pure _

theorem sort_completeFrom : sort.CompleteFrom 1 := by
  intro args s h
  refine (complete_arrayAt h).bind fun items _ => ?_
  split
  · exact complete_fault _
  · exact complete_pure _

theorem uniques_completeFrom : uniques.CompleteFrom 1 := by
  intro args s h
  exact (complete_arrayAt h).bind fun items _ => complete_pure _

theorem inArray_completeFrom : inArray.CompleteFrom 2 := by
  intro args s h
  refine (complete_arrayAt (by omega)).bind fun items _ => ?_
  exact (complete_nth h).bind fun v _ => complete_pure _

/-- The characters before an occurrence are as many as its place says. -/
theorem charsBefore?_eq (last : Bool) (needle s : List Char) :
    charsBefore? last needle s = .ok (if last then lastPosition? needle s else firstPosition? needle s) := by
  have hle {i : Nat} (h : (if last then lastPosition? needle s else firstPosition? needle s) = some i) : i ≤ s.length := by
    split at h
    · exact lastPosition?_le h
    · exact firstPosition?_le h
  unfold charsBefore?
  cases hfound : if last then lastPosition? needle s else firstPosition? needle s with
  | none => rfl
  | some i =>
    have hi := hle hfound
    simp only [byteAt_of_le hi, ok_bind, textBetween_front, List.length_take, Nat.min_eq_left hi]
    rfl

theorem position_completeFrom (last : Bool) : (position last).CompleteFrom 2 := by
  intro args s h
  refine (complete_nth (by omega)).bind fun v _ => ?_
  dsimp only
  split
  · refine (complete_textAt h).bind fun needle _ => ?_
    rw [charsBefore?_eq]
    exact complete_pure _
  · refine (complete_array _).bind fun items _ => ?_
    exact (complete_nth h).bind fun sought _ => complete_pure _

/-- The functions on sequences find what they ask for. -/
theorem all_completeFrom : ∀ f ∈ all, f.body.CompleteFrom f.minArgs := by
  simp only [all, List.forall_mem_cons]
  exact ⟨length_completeFrom, join_completeFrom, slice_completeFrom, get_completeFrom, reverse_completeFrom, sort_completeFrom, uniques_completeFrom,
    inArray_completeFrom, position_completeFrom false, position_completeFrom true, nofun⟩

end SequenceFunctions

/-! ## Functions on numbers -/

namespace MathFunctions

theorem unary_completeFrom {f : Float → Outcome Float} (hf : ∀ x, (f x).Complete) : (body (unary f)).CompleteFrom 1 := by
  intro args s h
  refine (complete_numberAt h).bind fun x _ => ?_
  exact (hf x).bind fun y _ => complete_pure _

theorem binary_completeFrom {f : Float → Float → Outcome Float} (hf : ∀ x y, (f x y).Complete) :
    (body (binary f)).CompleteFrom 2 := by
  intro args s h
  refine (complete_numberAt (by omega)).bind fun x _ => ?_
  refine (complete_numberAt h).bind fun y _ => ?_
  exact (hf x y).bind fun z _ => complete_pure _

theorem complete_ofPositive (name : String) (f : Float → Float) (x : Float) : (ofPositive name f x).Complete := by
  unfold ofPositive
  split
  · exact complete_fault _
  · exact complete_ok _

theorem complete_root (x : Float) : (root x).Complete := by
  unfold root
  split
  · exact complete_fault _
  · exact complete_ok _

/-- No number is divided by zero. -/
theorem complete_wholeRemainder (x y : Float) : (wholeRemainder x y).Complete := by
  simp only [wholeRemainder]
  split
  · exact complete_fault _
  · rename_i h
    exact (complete_of_eq_ok (given_of h _)).map _

theorem fold_completeFrom (better : Float → Float → Float) : (body (fold better)).CompleteFrom 1 := by
  intro args s h
  refine (complete_numberAt h).bind fun first _ => ?_
  refine (complete_after h).bind fun rest _ => ?_
  refine (complete_foldlM (fun best v => ?_) rest first).bind fun best _ => complete_pure _
  exact (complete_number v).bind fun x _ => complete_pure _

theorem sum_completeFrom : (body sum).CompleteFrom 1 := by
  intro args s h
  refine (complete_arrayAt h).bind fun items _ => ?_
  refine (complete_foldlM (fun total v => ?_) items 0).bind fun total _ => complete_pure _
  exact (complete_number v).bind fun x _ => complete_pure _

theorem all_completeFrom : ∀ f ∈ all, f.body.CompleteFrom f.minArgs := by
  simp only [all, unaries, binaries, folds, List.map_cons, List.map_nil, List.cons_append, List.nil_append,
    List.forall_mem_cons]
  have hok (f : Float → Float) (x : Float) : Complete (.ok (f x)) := complete_ok _
  exact ⟨unary_completeFrom (hok _), unary_completeFrom (hok _), unary_completeFrom (hok _), unary_completeFrom (hok _),
    unary_completeFrom (hok _), unary_completeFrom (complete_ofPositive _ _), unary_completeFrom (complete_ofPositive _ _),
    unary_completeFrom (hok _), unary_completeFrom (hok _), unary_completeFrom complete_root, binary_completeFrom complete_wholeRemainder,
    binary_completeFrom fun x y => complete_ok _, fold_completeFrom _, fold_completeFrom _, sum_completeFrom, nofun⟩

end MathFunctions

/-! ## Functions on truth values -/

namespace LogicFunctions

theorem joined_completeFrom (join : Bool → Bool → Bool) (start : Bool) : (body (joined join start)).CompleteFrom 1 := by
  intro args s h
  refine (complete_nth h).bind fun _ _ => ?_
  refine (complete_foldlM (fun result v => ?_) args start).bind fun result _ => complete_pure _
  exact (complete_boolean v).bind fun b _ => complete_pure _

theorem opposite_completeFrom : (body opposite).CompleteFrom 1 := by
  intro args s h
  refine (complete_nth h).bind fun v _ => ?_
  exact (complete_boolean v).bind fun b _ => complete_pure _

theorem test_completeFrom (p : Value → Bool) : (body (test p)).CompleteFrom 1 := by
  intro args s h
  exact (complete_nth h).bind fun v _ => complete_pure _

theorem errorMessage_completeFrom : (body errorMessage).CompleteFrom 1 := by
  intro args s h
  refine (complete_nth h).bind fun v _ => ?_
  split <;> exact complete_pure _

theorem typeOf_completeFrom : (body typeOf).CompleteFrom 1 := by
  intro args s h
  exact (complete_nth h).bind fun v _ => complete_pure _

theorem coalesce_completeFrom : (body coalesce).CompleteFrom 1 := by
  intro args s h
  exact (complete_nth h).bind fun _ _ => complete_pure _

theorem all_completeFrom : ∀ f ∈ all, f.body.CompleteFrom f.minArgs := by
  simp only [all, joins, tests, List.map_cons, List.map_nil, List.cons_append, List.nil_append, List.forall_mem_cons]
  exact ⟨joined_completeFrom _ _, joined_completeFrom _ _, joined_completeFrom _ _, opposite_completeFrom, test_completeFrom _,
    test_completeFrom _, test_completeFrom _, test_completeFrom _, test_completeFrom _, test_completeFrom _, test_completeFrom _,
    errorMessage_completeFrom, typeOf_completeFrom, coalesce_completeFrom, nofun⟩

end LogicFunctions

/-! ## Conversions -/

namespace ConversionFunctions

theorem toText_completeFrom : toText.CompleteFrom 1 := by
  intro args s h
  refine (complete_nth h).bind fun v _ => ?_
  split
  · exact complete_pure _
  · exact (complete_text _).bind fun layout _ => complete_pure _
  · exact complete_fault _

theorem toNumber_completeFrom : toNumber.CompleteFrom 1 := by
  intro args s h
  refine (complete_nth h).bind fun v _ => ?_
  split
  · exact complete_pure _
  · exact (complete_orFault _ _).bind fun x _ => complete_pure _
  · exact complete_fault _

theorem toDate_completeFrom : toDate.CompleteFrom 1 := by
  intro args s h
  refine (complete_nth h).bind fun v _ => ?_
  split
  · exact complete_pure _
  · refine (complete_after h).bind fun rest _ => ?_
    refine (complete_mapM complete_text rest).bind fun layouts _ => ?_
    exact (complete_orFault _ _).bind fun d _ => complete_pure _
  · exact complete_fault _

theorem parseJson_completeFrom : parseJson.CompleteFrom 1 := by
  intro args s h
  refine (complete_textAt h).bind fun text _ => ?_
  split
  · exact complete_pure _
  · exact complete_error _

theorem jsonize_completeFrom : jsonize.CompleteFrom 1 := by
  intro args s h
  exact (complete_nth h).bind fun v _ => complete_pure _

theorem all_completeFrom : ∀ f ∈ all, f.body.CompleteFrom f.minArgs := by
  simp only [all, List.forall_mem_cons]
  exact ⟨toText_completeFrom, toNumber_completeFrom, toDate_completeFrom, parseJson_completeFrom, jsonize_completeFrom, nofun⟩

end ConversionFunctions

/-! ## Functions on dates -/

namespace DateFunctions

open CellExpr.Calendar CellExpr.Text

theorem now_completeFrom (instant : Instant) : (now instant).CompleteFrom 0 := fun _ _ _ => complete_pure _

theorem datePart_completeFrom : datePart.CompleteFrom 2 := by
  intro args s h
  refine (complete_nth (by omega)).bind fun v _ => ?_
  refine (complete_date v).bind fun d _ => ?_
  refine (complete_textAt h).bind fun name _ => ?_
  refine (complete_orFault _ _).bind fun part _ => ?_
  split <;> exact complete_pure _

theorem shift_completeFrom : shift.CompleteFrom 3 := by
  intro args s h
  refine (complete_nth (by omega)).bind fun v _ => ?_
  refine (complete_date v).bind fun d _ => ?_
  refine (complete_numberAt (by omega)).bind fun amount _ => ?_
  refine (complete_textAt h).bind fun name _ => ?_
  refine (complete_orFault _ _).bind fun unit _ => ?_
  exact (complete_orFault _ _).bind fun shifted _ => complete_pure _

/-- What follows the common beginning of two texts begins with a character of the second one. -/
theorem complete_textAfterCommon (a b : List Char) : (textBetween b (commonBytes a b) (byteLength b)).Complete := by
  obtain ⟨front, back, rfl, hbytes⟩ := exists_commonBytes a b
  have h := @textBetween_back (front ++ back) front.length (by simp)
  rw [List.take_left] at h
  rw [hbytes]
  exact complete_of_eq_ok h

theorem complete_unitsBetween (stop start : Instant) (name : String) : (unitsBetween stop start name).Complete := by
  rw [unitsBetween, spanSince_eq, ok_bind]
  exact (complete_orFault _ _).bind fun unit _ => complete_of_eq_ok (wholeUnits_eq stop start unit)

theorem difference_completeFrom : difference.CompleteFrom 2 := by
  intro args s h
  refine (complete_nth (by omega)).bind fun v _ => ?_
  refine (complete_nth h).bind fun w _ => ?_
  split
  · dsimp only
    split
    · exact (complete_unitsBetween _ _ _).bind fun n _ => complete_pure _
    · refine (complete_text _).bind fun name _ => ?_
      exact (complete_unitsBetween _ _ name).bind fun n _ => complete_pure _
  · split
    · exact complete_fault _
    · exact (complete_textAfterCommon _ _).bind fun tail _ => complete_pure _
  · exact complete_fault _

theorem all_completeFrom (instant : Instant) : ∀ f ∈ all instant, f.body.CompleteFrom f.minArgs := by
  simp only [all, List.forall_mem_cons]
  exact ⟨now_completeFrom instant, datePart_completeFrom, shift_completeFrom, difference_completeFrom, nofun⟩

end DateFunctions

/-! ## All standard functions -/

/-- The body of each standard function is complete on the arguments that it declares to need. -/
theorem standardFunctions_completeFrom (now : Calendar.Instant) :
    ∀ f ∈ standardFunctions now, f.body.CompleteFrom f.minArgs := by
  simp only [standardFunctions, List.forall_mem_append]
  exact ⟨⟨⟨⟨⟨TextFunctions.all_completeFrom, SequenceFunctions.all_completeFrom⟩, MathFunctions.all_completeFrom⟩,
    LogicFunctions.all_completeFrom⟩, ConversionFunctions.all_completeFrom⟩, DateFunctions.all_completeFrom now⟩

end CellExpr
