import CellExpr.Function.Standard
import CellExpr.Proofs.Evaluation.Complete

/-!
# Errors among elements

A value hides an error if one stands among the elements of an array: the value itself, an element of it, or what an object
holds. An object is a handle, so what it holds is no element of the array in which the object stands. A value that hides no
error is open. An array is open if its elements are open and none of them is an error (`open_array_iff`).

The bodies of the standard functions give open values for open arguments, and so does what values are made of: fields,
entries, elements, and documents, which have no errors at all.
-/

namespace CellExpr

/-- `v.HidesError`: an error stands among the elements of an array in the value. -/
inductive Value.HidesError : Value → Prop where
  | element {items : List Value} {e : EvalError} (he : .error e ∈ items) : HidesError (.array items)
  | within {items : List Value} {v : Value} (hv : v ∈ items) (h : HidesError v) : HidesError (.array items)
  | cell {v : Value} (h : HidesError v) : HidesError (.object (.cell v))
  | cells {r : Row Value} {column : String} {v : Value} (hv : (column, v) ∈ r.cells) (h : HidesError v) :
      HidesError (.object (.cells r))
  | row {r : Row Value} {column : String} {v : Value} (hv : (column, v) ∈ r.cells) (h : HidesError v) :
      HidesError (.object (.row r))

namespace Value

/-- No error stands among the elements of an array in the value. -/
def Open (v : Value) : Prop := ¬v.HidesError

/-- What the elements of an open array are: open, and no errors. -/
def OpenElements (items : List Value) : Prop := ∀ v ∈ items, v.isError = false ∧ v.Open

theorem open_string (s : String) : (string s).Open := nofun

theorem open_number (x : Float) : (number x).Open := nofun

theorem open_boolean (b : Bool) : (boolean b).Open := nofun

theorem open_date (d : Calendar.Instant) : (date d).Open := nofun

theorem open_regex (r : Regex) : (regex r).Open := nofun

theorem open_error (e : EvalError) : (error e).Open := nofun

theorem open_null : null.Open := nofun

theorem open_record (fields : List (String × Json)) : (object (.record fields)).Open := nofun

theorem open_array_iff {items : List Value} : (array items).Open ↔ OpenElements items := by
  constructor
  · intro h v hv
    constructor
    · cases v with
      | error e => exact absurd (.element hv) h
      | _ => rfl
    · exact fun hhides => h (.within hv hhides)
  · intro h hhides
    cases hhides with
    | element he => exact Bool.noConfusion (h _ he).1
    | within hv hv' => exact (h _ hv).2 hv'

theorem open_cell_iff {v : Value} : (object (.cell v)).Open ↔ v.Open :=
  ⟨fun h hv => h (.cell hv), fun h hv => by cases hv with | cell hv => exact h hv⟩

theorem open_cells_iff {r : Row Value} : (object (.cells r)).Open ↔ ∀ cell ∈ r.cells, cell.2.Open :=
  ⟨fun h _ hcell hv => h (.cells hcell hv), fun h hv => by cases hv with | cells hcell hv => exact h _ hcell hv⟩

theorem open_row_iff {r : Row Value} : (object (.row r)).Open ↔ ∀ cell ∈ r.cells, cell.2.Open :=
  ⟨fun h _ hcell hv => h (.row hcell hv), fun h hv => by cases hv with | row hcell hv => exact h _ hcell hv⟩

theorem open_ofExcept_map_array {r : Result (List Value)} (h : ∀ items, r = .ok items → OpenElements items) :
    (ofExcept (r.map array)).Open := by
  cases r with
  | error e => exact open_error e
  | ok items => exact open_array_iff.2 (h items rfl)

theorem OpenElements.mono {items items' : List Value} (h : OpenElements items) (hsub : ∀ v ∈ items', v ∈ items) :
    OpenElements items' := fun v hv => h v (hsub v hv)

theorem openElements_ofTexts (texts : List (List Char)) : OpenElements (texts.map ofChars) := by
  intro v hv
  obtain ⟨s, _, rfl⟩ := List.mem_map.1 hv
  exact ⟨rfl, open_string _⟩

theorem open_ofTexts (texts : List (List Char)) : (ofTexts texts).Open := open_array_iff.2 (openElements_ofTexts texts)

/-! ## Documents, fields and entries -/

theorem isError_ofJson (j : Json) : (ofJson j).isError = false := by cases j <;> rfl

mutual

theorem open_ofJson (j : Json) : (ofJson j).Open :=
  match j with
  | .null => open_null
  | .boolean b => open_boolean b
  | .whole _ => open_number _
  | .double x => open_number x
  | .string s => open_string s
  | .array items => open_array_iff.2 (openElements_ofJsonItems items)
  | .object fields => open_record fields

theorem openElements_ofJsonItems (items : List Json) : OpenElements (ofJsonItems items) :=
  match items with
  | [] => nofun
  | j :: rest => List.forall_mem_cons.2 ⟨⟨isError_ofJson j, open_ofJson j⟩, openElements_ofJsonItems rest⟩

end

end Value

open CellExpr.Value

theorem Row.mem_cells_of_cell? {r : Row Value} {column : String} {v : Value} (h : r.cell? column = some v) :
    (column, v) ∈ r.cells := by
  obtain ⟨before, after, hcells, _⟩ := List.lookup_eq_some_iff.1 h
  rw [hcells]
  exact List.mem_append_right before List.mem_cons_self

/-- A field of an open object is open. -/
theorem HostObject.open_field? {o : HostObject Value} {name : String} {v : Value} (ho : (Value.object o).Open)
    (hv : o.field? name = some v) : v.Open := by
  cases o with
  | cell w =>
    obtain ⟨_, rfl⟩ : name = "value" ∧ w = v := by simpa [field?] using hv
    exact open_cell_iff.1 ho
  | cells r =>
    obtain ⟨w, hw, rfl⟩ := Option.map_eq_some_iff.1 hv
    exact open_cell_iff.2 (open_cells_iff.1 ho _ (Row.mem_cells_of_cell? hw))
  | row r =>
    simp only [field?] at hv
    split at hv
    · cases hv
      exact open_number _
    · split at hv
      · cases hv
        exact open_boolean _
      · split at hv
        · cases hv
          exact open_boolean _
        · split at hv
          · cases hv
            exact open_cells_iff.2 (open_row_iff.1 ho)
          · split at hv
            · cases hv
              refine open_array_iff.2 fun v hv => ?_
              obtain ⟨column, _, rfl⟩ := List.mem_map.1 hv
              exact ⟨rfl, open_string column⟩
            · cases hv
  | record fields =>
    obtain ⟨j, _, rfl⟩ := Option.map_eq_some_iff.1 hv
    exact open_ofJson j

theorem HostObject.open_entry? {o : HostObject Value} {key v : Value} (ho : (Value.object o).Open)
    (hv : o.entry? key = some v) : v.Open := by
  cases key with
  | string name => exact open_field? ho hv
  | _ => cases hv

/-! ## Outcomes and bodies -/

namespace Outcome

variable {α β : Type} {P : α → Prop} {Q : β → Prop}

/-- If the outcome is a value, it has a property. -/
def Yields (P : α → Prop) (o : Outcome α) : Prop := ∀ a, o = .ok a → P a

theorem yields_ok {a : α} (h : P a) : Yields P (.ok a) := by
  intro b hb
  cases hb
  exact h

theorem yields_pure {a : α} (h : P a) : Yields P (pure a) := yields_ok h

theorem yields_error (f : Failure) : Yields P (.error f) := nofun

theorem yields_fault (f : Fault) : Yields P (fault f) := nofun

theorem yields_orFault {f : Fault} {a : Option α} (h : ∀ b, a = some b → P b) : Yields P (orFault f a) := by
  cases a with
  | none => exact yields_fault f
  | some b => exact yields_ok (h b rfl)

theorem yields_given {condition : Prop} [Decidable condition] {a : α} (h : P a) : Yields P (given condition a) := by
  unfold given
  split
  · exact yields_ok h
  · exact yields_error _

theorem yields_bind {o : Outcome α} {f : α → Outcome β} (h : ∀ a, o = .ok a → Yields Q (f a)) : Yields Q (o >>= f) := by
  cases o with
  | error e => exact yields_error e
  | ok a => exact h a rfl

theorem yields_elementAt (items : List α) (place : Nat) : Yields (· ∈ items) (elementAt items place) := by
  unfold elementAt require
  split
  · rename_i a ha
    exact yields_ok (List.mem_of_getElem? ha)
  · exact yields_error _

theorem yields_part (items : List α) (start stop : Nat) :
    Yields (fun part => ∀ a ∈ part, a ∈ items) (part items start stop) :=
  yields_given fun _ ha => List.mem_of_mem_drop (List.mem_of_mem_take ha)

end Outcome

open CellExpr.Outcome

/-- A body that gives open values for open arguments. -/
def Body.Exposes (b : Body) : Prop := ∀ args s, (∀ v ∈ args, v.Open) → (b args s).Yields Value.Open

namespace Args

variable {args : List Value} {position : Nat} {v : Value} {items : List Value}

theorem mem_of_nth (h : nth args position = .ok v) : v ∈ args := yields_elementAt args position v h

theorem eq_array_of_array (h : array v = .ok items) : v = .array items := by
  cases v with
  | array items' =>
    cases h
    rfl
  | _ => cases h

theorem openElements_of_array (hv : v.Open) (h : array v = .ok items) : OpenElements items :=
  open_array_iff.1 (eq_array_of_array h ▸ hv)

theorem openElements_of_arrayAt (hargs : ∀ v ∈ args, v.Open) (h : arrayAt args position = .ok items) :
    OpenElements items := by
  unfold arrayAt at h
  cases hv : nth args position with
  | error e =>
    rw [hv] at h
    cases h
  | ok v =>
    rw [hv] at h
    exact openElements_of_array (hargs v (mem_of_nth hv)) h

end Args

open CellExpr.Args

/-! ### Functions on texts -/

namespace TextFunctions

theorem mapText_exposes (f : List Char → List Char) : (mapText f).Exposes := by
  intro args s _
  exact yields_bind fun v _ => yields_pure (open_string _)

theorem testTexts_exposes (test : List Char → List Char → Bool) : (testTexts test).Exposes := by
  intro args s _
  refine yields_bind fun text _ => ?_
  exact yields_bind fun other _ => yields_pure (open_boolean _)

theorem split_exposes : split.Exposes := by
  intro args s _
  refine yields_bind fun v _ => ?_
  refine yields_bind fun keepEmpty _ => ?_
  refine yields_bind fun separator _ => ?_
  split
  · exact yields_pure (open_ofTexts _)
  · exact yields_bind fun pieces _ => yields_pure (open_ofTexts pieces)
  · exact yields_fault _

theorem splitByLengths_exposes : splitByLengths.Exposes := by
  intro args s _
  refine yields_bind fun text _ => ?_
  refine yields_bind fun lengths _ => ?_
  exact yields_bind fun pieces _ => yields_pure (open_ofTexts pieces)

theorem chomp_exposes : chomp.Exposes := by
  intro args s _
  refine yields_bind fun text _ => ?_
  exact yields_bind fun ending _ => yields_pure (open_string _)

theorem textPart_yields (text : String) (first : Float) (last : Option Float) :
    (textPart text first last).Yields Value.Open := by
  refine yields_bind fun bounds _ => ?_
  exact yields_bind fun part _ => yields_pure (open_string _)

theorem substring_exposes : substring.Exposes := by
  intro args s _
  refine yields_bind fun text _ => ?_
  refine yields_bind fun first _ => ?_
  exact yields_bind fun last _ => textPart_yields text first last

theorem contains_exposes : contains.Exposes := by
  intro args s _
  refine yields_bind fun text _ => ?_
  refine yields_bind fun pattern _ => ?_
  split
  · exact yields_pure (open_boolean _)
  · exact yields_bind fun needle _ => yields_pure (open_boolean _)

theorem replace_exposes : replace.Exposes := by
  intro args s _
  refine yields_bind fun text _ => ?_
  refine yields_bind fun replacement _ => ?_
  refine yields_bind fun pattern _ => ?_
  split
  · exact yields_pure (open_string _)
  · exact yields_bind fun needle _ => yields_pure (open_string _)

theorem replaceChars_exposes : replaceChars.Exposes := by
  intro args s _
  refine yields_bind fun text _ => ?_
  refine yields_bind fun targets _ => ?_
  exact yields_bind fun into _ => yields_pure (open_string _)

/-- A group is a text, or null if it has no part in the match. -/
theorem matchGroups_exposes : matchGroups.Exposes := by
  intro args s _
  refine yields_bind fun text _ => ?_
  refine yields_bind fun pattern _ => ?_
  refine yields_bind fun r _ => ?_
  refine yields_bind fun anchored _ => ?_
  split
  · exact yields_pure open_null
  · rename_i m _
    refine yields_pure (open_array_iff.2 fun v hv => ?_)
    obtain ⟨i, _, rfl⟩ := List.mem_map.1 hv
    cases m.groupText? text.toList (i + 1) with
    | none => exact ⟨rfl, open_null⟩
    | some group => exact ⟨rfl, open_string _⟩

theorem find_exposes : find.Exposes := by
  intro args s _
  refine yields_bind fun text _ => ?_
  refine yields_bind fun pattern _ => ?_
  exact yields_bind fun r _ => yields_pure (open_ofTexts _)

theorem partition_exposes (fromEnd : Bool) : (partition fromEnd).Exposes := by
  intro args s _
  refine yields_bind fun text _ => ?_
  refine yields_bind fun omitMatch _ => ?_
  refine yields_bind fun pattern _ => ?_
  refine yields_bind fun r _ => ?_
  exact yields_bind fun parts _ => yields_pure (open_ofTexts _)

theorem unicode_exposes : unicode.Exposes := by
  intro args s _
  refine yields_bind fun text _ => yields_pure (open_array_iff.2 fun v hv => ?_)
  obtain ⟨c, _, rfl⟩ := List.mem_map.1 hv
  exact ⟨rfl, open_number _⟩

theorem all_exposes : ∀ f ∈ all, f.body.Exposes := by
  simp only [all, List.forall_mem_cons]
  exact ⟨split_exposes, splitByLengths_exposes, mapText_exposes _, mapText_exposes _, mapText_exposes _, mapText_exposes _,
    mapText_exposes _, chomp_exposes, substring_exposes, testTexts_exposes _, testTexts_exposes _, contains_exposes,
    replace_exposes, replaceChars_exposes, matchGroups_exposes, find_exposes, partition_exposes _, partition_exposes _,
    unicode_exposes, mapText_exposes _, nofun⟩

end TextFunctions

/-! ### Functions on sequences -/

namespace SequenceFunctions

theorem length_exposes : length.Exposes := by
  intro args s _
  refine yields_bind fun v _ => ?_
  exact yields_bind fun n _ => yields_pure (open_number _)

theorem join_exposes : join.Exposes := by
  intro args s _
  refine yields_bind fun separator _ => ?_
  exact yields_bind fun items _ => yields_pure (open_string _)

/-- A part of an open array has only elements of the array. -/
theorem partOf_yields {v : Value} (hv : v.Open) (first : Float) (last : Option Float) :
    (partOf v first last).Yields Value.Open := by
  unfold partOf
  split
  · exact TextFunctions.textPart_yields _ first last
  · refine yields_bind fun items hitems => ?_
    refine yields_bind fun bounds _ => ?_
    refine yields_bind fun part hpart => yields_pure (open_array_iff.2 ?_)
    exact (openElements_of_array hv hitems).mono (yields_part _ _ _ part hpart)

theorem slice_exposes : slice.Exposes := by
  intro args s hargs
  refine yields_bind fun first _ => ?_
  refine yields_bind fun last _ => ?_
  exact yields_bind fun v hv => partOf_yields (hargs v (mem_of_nth hv)) first last

theorem elementOf_yields {v : Value} (hv : v.Open) (place : Nat) : (elementOf v place).Yields Value.Open := by
  unfold elementOf
  split
  · exact yields_bind fun c _ => yields_pure (open_string _)
  · refine yields_bind fun items hitems w hw => ?_
    exact (openElements_of_array hv hitems w (yields_elementAt items place w hw)).2

theorem get_exposes : get.Exposes := by
  intro args s hargs
  refine yields_bind fun v hv => ?_
  have hopen : v.Open := hargs v (mem_of_nth hv)
  refine yields_bind fun key _ => ?_
  split
  · exact yields_orFault fun w hw => HostObject.open_entry? hopen hw
  · split
    · refine yields_bind fun first _ => ?_
      exact yields_bind fun last _ => partOf_yields hopen first last
    · refine yields_bind fun length _ => ?_
      refine yields_bind fun found _ => ?_
      exact yields_bind fun place _ => elementOf_yields hopen place
  · exact yields_fault _

theorem reverse_exposes : reverse.Exposes := by
  intro args s hargs
  refine yields_bind fun v hv => ?_
  split
  · exact yields_pure (open_string _)
  · refine yields_bind fun items hitems => yields_pure (open_array_iff.2 ?_)
    exact (openElements_of_array (hargs v (mem_of_nth hv)) hitems).mono fun _ => List.mem_reverse.1

theorem sort_exposes : sort.Exposes := by
  intro args s hargs
  refine yields_bind fun items hitems => ?_
  split
  · exact yields_fault _
  · refine yields_pure (open_array_iff.2 ?_)
    exact (openElements_of_arrayAt hargs hitems).mono fun _ => List.mem_mergeSort.1

theorem mem_of_mem_uniqueAfter {kept items : List Value} {v : Value} (h : v ∈ uniqueAfter kept items) : v ∈ items := by
  induction items generalizing kept with
  | nil => cases h
  | cons w rest ih =>
    unfold uniqueAfter at h
    split at h
    · exact List.mem_cons_of_mem w (ih h)
    · rcases List.mem_cons.1 h with rfl | h
      · exact List.mem_cons_self
      · exact List.mem_cons_of_mem w (ih h)

theorem uniques_exposes : uniques.Exposes := by
  intro args s hargs
  refine yields_bind fun items hitems => yields_pure (open_array_iff.2 ?_)
  exact (openElements_of_arrayAt hargs hitems).mono fun _ => mem_of_mem_uniqueAfter

theorem inArray_exposes : inArray.Exposes := by
  intro args s _
  refine yields_bind fun items _ => ?_
  exact yields_bind fun v _ => yields_pure (open_boolean _)

theorem position_exposes (last : Bool) : (position last).Exposes := by
  intro args s _
  refine yields_bind fun v _ => ?_
  dsimp only
  split
  · refine yields_bind fun needle _ => yields_bind fun found _ => yields_pure ?_
    split <;> exact open_number _
  · refine yields_bind fun items _ => yields_bind fun sought _ => yields_pure ?_
    split <;> exact open_number _

theorem all_exposes : ∀ f ∈ all, f.body.Exposes := by
  simp only [all, List.forall_mem_cons]
  exact ⟨length_exposes, join_exposes, slice_exposes, get_exposes, reverse_exposes, sort_exposes, uniques_exposes,
    inArray_exposes, position_exposes _, position_exposes _, nofun⟩

end SequenceFunctions

/-! ### Functions on numbers -/

namespace MathFunctions

theorem unary_exposes (f : Float → Outcome Float) : (body (unary f)).Exposes := by
  intro args s _
  refine yields_bind fun x _ => ?_
  exact yields_bind fun y _ => yields_pure (open_number y)

theorem binary_exposes (f : Float → Float → Outcome Float) : (body (binary f)).Exposes := by
  intro args s _
  refine yields_bind fun x _ => ?_
  refine yields_bind fun y _ => ?_
  exact yields_bind fun z _ => yields_pure (open_number z)

theorem fold_exposes (better : Float → Float → Float) : (body (fold better)).Exposes := by
  intro args s _
  refine yields_bind fun first _ => ?_
  refine yields_bind fun rest _ => ?_
  exact yields_bind fun best _ => yields_pure (open_number best)

theorem sum_exposes : (body sum).Exposes := by
  intro args s _
  refine yields_bind fun items _ => ?_
  exact yields_bind fun total _ => yields_pure (open_number total)

theorem all_exposes : ∀ f ∈ all, f.body.Exposes := by
  simp only [all, List.forall_mem_append, List.forall_mem_map, List.forall_mem_singleton]
  exact ⟨⟨⟨fun f _ => unary_exposes f.2, fun f _ => binary_exposes f.2⟩, fun f _ => fold_exposes f.2⟩, sum_exposes⟩

end MathFunctions

/-! ### Functions on truth values -/

namespace LogicFunctions

theorem joined_exposes (join : Bool → Bool → Bool) (start : Bool) : (body (joined join start)).Exposes := by
  intro args s _
  refine yields_bind fun _ _ => ?_
  exact yields_bind fun result _ => yields_pure (open_boolean result)

theorem opposite_exposes : (body opposite).Exposes := by
  intro args s _
  refine yields_bind fun v _ => ?_
  exact yields_bind fun b _ => yields_pure (open_boolean _)

theorem test_exposes (p : Value → Bool) : (body (test p)).Exposes := by
  intro args s _
  exact yields_bind fun v _ => yields_pure (open_boolean _)

theorem errorMessage_exposes : (body errorMessage).Exposes := by
  intro args s _
  refine yields_bind fun v _ => ?_
  split
  · exact yields_pure (open_string _)
  · exact yields_pure open_null

theorem typeOf_exposes : (body typeOf).Exposes := by
  intro args s _
  exact yields_bind fun v _ => yields_pure (open_string _)

/-- The value is one of the arguments, or null. -/
theorem coalesce_exposes : (body coalesce).Exposes := by
  intro args s hargs
  refine yields_bind fun _ _ => yields_pure ?_
  cases hfound : args.find? fun v => !v.isNull && !v.isError with
  | none => exact open_null
  | some v => exact hargs v (List.mem_of_find?_eq_some hfound)

theorem all_exposes : ∀ f ∈ all, f.body.Exposes := by
  simp only [all, joins, tests, List.map_cons, List.map_nil, List.cons_append, List.nil_append, List.forall_mem_cons]
  exact ⟨joined_exposes _ _, joined_exposes _ _, joined_exposes _ _, opposite_exposes, test_exposes _, test_exposes _,
    test_exposes _, test_exposes _, test_exposes _, test_exposes _, test_exposes _, errorMessage_exposes, typeOf_exposes,
    coalesce_exposes, nofun⟩

end LogicFunctions

/-! ### Conversions -/

namespace ConversionFunctions

theorem toText_exposes : toText.Exposes := by
  intro args s _
  refine yields_bind fun v _ => ?_
  split
  · exact yields_pure (open_string _)
  · exact yields_bind fun layout _ => yields_pure (open_string _)
  · exact yields_fault _

theorem toNumber_exposes : toNumber.Exposes := by
  intro args s _
  refine yields_bind fun v _ => ?_
  split
  · exact yields_pure (open_number _)
  · exact yields_bind fun x _ => yields_pure (open_number x)
  · exact yields_fault _

theorem toDate_exposes : toDate.Exposes := by
  intro args s _
  refine yields_bind fun v _ => ?_
  split
  · exact yields_pure (open_date _)
  · refine yields_bind fun rest _ => ?_
    refine yields_bind fun layouts _ => ?_
    exact yields_bind fun d _ => yields_pure (open_date d)
  · exact yields_fault _

theorem parseJson_exposes : parseJson.Exposes := by
  intro args s _
  refine yields_bind fun text _ => ?_
  split
  · exact yields_pure (open_ofJson _)
  · exact yields_error _

theorem jsonize_exposes : jsonize.Exposes := by
  intro args s _
  exact yields_bind fun v _ => yields_pure (open_string _)

theorem all_exposes : ∀ f ∈ all, f.body.Exposes := by
  simp only [all, List.forall_mem_cons]
  exact ⟨toText_exposes, toNumber_exposes, toDate_exposes, parseJson_exposes, jsonize_exposes, nofun⟩

end ConversionFunctions

/-! ### Functions on dates -/

namespace DateFunctions

theorem now_exposes (instant : Calendar.Instant) : (now instant).Exposes :=
  fun _ _ _ => yields_pure (open_date instant)

theorem datePart_exposes : datePart.Exposes := by
  intro args s _
  refine yields_bind fun v _ => ?_
  refine yields_bind fun d _ => ?_
  refine yields_bind fun name _ => ?_
  refine yields_bind fun part _ => ?_
  split
  · exact yields_pure (open_number _)
  · exact yields_pure (open_string _)

theorem shift_exposes : shift.Exposes := by
  intro args s _
  refine yields_bind fun v _ => ?_
  refine yields_bind fun d _ => ?_
  refine yields_bind fun amount _ => ?_
  refine yields_bind fun name _ => ?_
  refine yields_bind fun unit _ => ?_
  exact yields_bind fun shifted _ => yields_pure (open_date shifted)

theorem difference_exposes : difference.Exposes := by
  intro args s _
  refine yields_bind fun v _ => ?_
  refine yields_bind fun w _ => ?_
  split
  · dsimp only
    split <;> exact yields_bind fun name _ => yields_bind fun n _ => yields_pure (open_number _)
  · split
    · exact yields_fault _
    · exact yields_bind fun tail _ => yields_pure (open_string _)
  · exact yields_fault _

theorem all_exposes (instant : Calendar.Instant) : ∀ f ∈ all instant, f.body.Exposes := by
  simp only [all, List.forall_mem_cons]
  exact ⟨now_exposes instant, datePart_exposes, shift_exposes, difference_exposes, nofun⟩

end DateFunctions

/-- The bodies of the standard functions give open values for open arguments. -/
theorem standardFunctions_exposes (now : Calendar.Instant) : ∀ f ∈ standardFunctions now, f.body.Exposes := by
  simp only [standardFunctions, List.forall_mem_append]
  exact ⟨⟨⟨⟨⟨TextFunctions.all_exposes, SequenceFunctions.all_exposes⟩, MathFunctions.all_exposes⟩,
    LogicFunctions.all_exposes⟩, ConversionFunctions.all_exposes⟩, DateFunctions.all_exposes now⟩

end CellExpr
