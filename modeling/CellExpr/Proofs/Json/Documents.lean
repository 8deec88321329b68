import CellExpr.Proofs.Json.Scalars

/-!
# JSON texts of documents

What is written for a document is read back, in front of whatever may follow a value (`readValue_render`) and as a whole text
(`parse?_render`): the same document, with the fields of its objects in their order. The induction is on how the document is
built; in an array or an object it goes along the items, each of which is read up to the comma or the bracket after it.

The other way round, every document that is read from a text is formed (`formed_of_parse?`): a number that does not fit 64 bits
is read as a double, and of a name that an object has twice the later value is kept at the earlier place.

The text of a document has no control characters (`visible_render`): those in its strings are escaped, and there are none between
its tokens. So it stands on one line, whatever the document is.
-/

namespace CellExpr.Json

variable {ok : Float → Prop} {depth : Nat} {j : Json} {tail rest : List Char}

/-- The documents that texts and hosts give: they nest at most so deep, their whole numbers fit 64 bits, their doubles are such
as `ok` says, and the names in an object differ. -/
inductive Formed (ok : Float → Prop) : (depth : Nat) → Json → Prop where
  | null {depth : Nat} : Formed ok depth .null
  | boolean {depth : Nat} (b : Bool) : Formed ok depth (.boolean b)
  | whole {depth : Nat} {n : Int} (h : IsWord n) : Formed ok depth (.whole n)
  | double {depth : Nat} {x : Float} (h : ok x) : Formed ok depth (.double x)
  | string {depth : Nat} (s : String) : Formed ok depth (.string s)
  | array {depth : Nat} {items : List Json} (h : ∀ item ∈ items, Formed ok depth item) :
    Formed ok (depth + 1) (.array items)
  | object {depth : Nat} {fields : List (String × Json)} (hnames : (fields.map (·.1)).Nodup)
    (h : ∀ field ∈ fields, Formed ok depth field.2) : Formed ok (depth + 1) (.object fields)

/-! ## Lists of texts -/

theorem renderItems_eq_map (items : List Json) : renderItems items = items.map render := by
  induction items with
  | nil => rfl
  | cons item items ih => rw [renderItems, ih, List.map_cons]

/-- The text of a field of an object. -/
def fieldText (field : String × Json) : String := quote field.1 ++ ":" ++ field.2.render

theorem renderFields_eq_map (fields : List (String × Json)) : renderFields fields = fields.map fieldText := by
  induction fields with
  | nil => rfl
  | cons field fields ih => rw [renderFields, ih, List.map_cons, fieldText]

/-- Texts with commas between them. -/
def commaList (texts : List String) : List Char := [','].intercalate (texts.map String.toList)

theorem commaList_cons_cons (s t : String) (texts : List String) :
    commaList (s :: t :: texts) = s.toList ++ ',' :: commaList (t :: texts) := by
  simp [commaList]

theorem commaList_singleton (s : String) : commaList [s] = s.toList := by
  simp [commaList]

theorem toList_render_array (items : List Json) :
    (render (.array items)).toList = '[' :: (commaList (items.map render) ++ [']']) := by
  rw [render, String.toList_append, String.toList_append, String.toList_intercalate, renderItems_eq_map]
  rfl

theorem toList_render_object (fields : List (String × Json)) :
    (render (.object fields)).toList = '\x7b' :: (commaList (fields.map fieldText) ++ ['\x7d']) := by
  rw [render, String.toList_append, String.toList_append, String.toList_intercalate, renderFields_eq_map]
  rfl

theorem length_le_commaList (texts : List String) : texts.length ≤ (commaList texts).length + 1 := by
  induction texts with
  | nil => exact Nat.zero_le _
  | cons s texts ih =>
    cases texts with
    | nil => exact Nat.le_add_left _ _
    | cons t texts =>
      rw [commaList_cons_cons]
      simp only [List.length_append, List.length_cons] at ih ⊢
      omega

theorem exists_commaList_cons (s : String) (texts : List String) : ∃ more, commaList (s :: texts) = s.toList ++ more := by
  cases texts with
  | nil => exact ⟨[], by rw [commaList_singleton, List.append_nil]⟩
  | cons t texts => exact ⟨_, commaList_cons_cons s t texts⟩

/-- The steps that a list of texts with something after it allows are enough for its texts. -/
theorem exists_fuel (s : String) (texts : List String) (rest : List Char) :
    ∃ fuel, (commaList (s :: texts) ++ rest).length + 1 = fuel + texts.length + 1 := by
  have hlength := length_le_commaList (s :: texts)
  refine ⟨(commaList (s :: texts) ++ rest).length - texts.length, ?_⟩
  simp only [List.length_append, List.length_cons] at hlength ⊢
  omega

/-! ## Arrays -/

/-- After a bracket, an array that does not end at once is read item by item. -/
theorem readValue_bracket {c : Char} {s : List Char} (hgap : isGap c = false) (hclose : c ≠ ']') :
    readValue (depth + 1) ('[' :: c :: s) = readItems (readValue depth) ((c :: s).length + 1) [] (c :: s) := by
  rw [readValue.eq_def]
  simp only [skipGap_cons (show isGap '[' = false by decide), skipGap_cons hgap]
  split
  · rename_i heq
    exact absurd (List.cons.inj heq).1 hclose
  · rfl

/-- Items are read one after another, if each of them is read back where a value ends. -/
theorem readItems_commaList {item : Step Json} (first : Json) (items done : List Json) (fuel : Nat)
    (hitem : ∀ j ∈ first :: items, ∀ tail, Ends tail → item (j.render.toList ++ tail) = some (j, tail)) :
    readItems item (fuel + items.length + 1) done (commaList ((first :: items).map render) ++ ']' :: rest) =
      some (.array (done.reverse ++ first :: items), rest) := by
  induction items generalizing first done with
  | nil =>
    have hread := hitem first List.mem_cons_self (']' :: rest) (.cons (.inr (.inl rfl)))
    rw [List.map_singleton, commaList_singleton, readItems, hread]
    simp [skipGap, isGap]
  | cons second items ih =>
    have hread := hitem first List.mem_cons_self (',' :: (commaList ((second :: items).map render) ++ ']' :: rest))
      (.cons (.inl rfl))
    rw [List.map_cons, List.map_cons, commaList_cons_cons, ← List.map_cons, List.append_assoc, List.cons_append, readItems, hread]
    simp only [Option.bind_eq_bind, Option.bind_some, skipGap_cons (show isGap ',' = false by decide), List.length_cons]
    rw [← Nat.add_assoc, ih second (first :: done) fun j hj => hitem j (List.mem_cons_of_mem _ hj)]
    simp

/-! ## Objects -/

theorem setField_of_new {key : String} (value : Json) {fields : List (String × Json)} (h : key ∉ fields.map (·.1)) :
    setField key value fields = fields ++ [(key, value)] := by
  induction fields with
  | nil => rfl
  | cons field fields ih =>
    obtain ⟨hne, hnew⟩ := not_or.1 (mt List.mem_cons.2 h)
    rw [setField, if_neg (Ne.symm hne), ih hnew, List.cons_append]

theorem not_mem_of_nodup_append_cons {done fields : List (String × Json)} {first : String × Json}
    (h : ((done ++ first :: fields).map (·.1)).Nodup) : first.1 ∉ done.map (·.1) := by
  intro hmem
  rw [List.map_append, List.map_cons, List.nodup_append] at h
  exact h.2.2 _ hmem _ List.mem_cons_self rfl

theorem toList_fieldText (field : String × Json) (tail : List Char) :
    (fieldText field).toList ++ tail =
      '"' :: (field.1.toList.flatMap escapeChar ++ '"' :: ':' :: (field.2.render.toList ++ tail)) := by
  simp [fieldText, toList_quote]

section

variable {item : Step Json} {field : String × Json}

/-- A field with a comma after it is read back, and the next one is read. -/
theorem readFields_comma (fuel : Nat) (done : List (String × Json))
    (hread : item (field.2.render.toList ++ ',' :: rest) = some (field.2, ',' :: rest)) :
    readFields item (fuel + 1) done ((fieldText field).toList ++ ',' :: rest) =
      readFields item fuel (setField field.1 field.2 done) rest := by
  rw [toList_fieldText, readFields]
  simp only [skipGap_cons (show isGap '"' = false by decide), readString_quote, Option.bind_eq_bind, Option.bind_some,
    skipGap_cons (show isGap ':' = false by decide), hread, skipGap_cons (show isGap ',' = false by decide)]

/-- A field with a brace after it is read back as the last one. -/
theorem readFields_close (fuel : Nat) (done : List (String × Json))
    (hread : item (field.2.render.toList ++ '\x7d' :: rest) = some (field.2, '\x7d' :: rest)) :
    readFields item (fuel + 1) done ((fieldText field).toList ++ '\x7d' :: rest) =
      some (.object (setField field.1 field.2 done), rest) := by
  rw [toList_fieldText, readFields]
  simp only [skipGap_cons (show isGap '"' = false by decide), readString_quote, Option.bind_eq_bind, Option.bind_some,
    skipGap_cons (show isGap ':' = false by decide), hread, skipGap_cons (show isGap '\x7d' = false by decide)]

end

/-- Fields are read one after another, if each of their values is read back where a value ends and their names differ. -/
theorem readFields_commaList {item : Step Json} (first : String × Json) (fields done : List (String × Json)) (fuel : Nat)
    (hitem : ∀ field ∈ first :: fields, ∀ tail, Ends tail → item (field.2.render.toList ++ tail) = some (field.2, tail))
    (hnames : ((done ++ first :: fields).map (·.1)).Nodup) :
    readFields item (fuel + fields.length + 1) done (commaList ((first :: fields).map fieldText) ++ '\x7d' :: rest) =
      some (.object (done ++ first :: fields), rest) := by
  induction fields generalizing first done with
  | nil =>
    rw [List.map_singleton, commaList_singleton,
      readFields_close _ _ (hitem first List.mem_cons_self _ (.cons (.inr (.inr rfl)))),
      setField_of_new _ (not_mem_of_nodup_append_cons hnames)]
  | cons second fields ih =>
    have happend : done ++ first :: second :: fields = (done ++ [first]) ++ second :: fields := by simp
    rw [List.map_cons, List.map_cons, commaList_cons_cons, ← List.map_cons, List.append_assoc, List.cons_append,
      List.length_cons, ← Nat.add_assoc, readFields_comma _ _ (hitem first List.mem_cons_self _ (.cons (.inl rfl))),
      setField_of_new _ (not_mem_of_nodup_append_cons hnames), happend]
    exact ih second (done ++ [first]) (fun field hfield => hitem field (List.mem_cons_of_mem _ hfield)) (happend ▸ hnames)

/-- After a brace, an object that has a field is read field by field. -/
theorem readValue_brace (s : List Char) :
    readValue (depth + 1) ('\x7b' :: '"' :: s) = readFields (readValue depth) (('"' :: s).length + 1) [] ('"' :: s) := by
  rw [readValue.eq_def]
  rfl

/-! ## Documents -/

/-- A text that is read as a value begins with a character that ends no array and no object. -/
theorem Formed.render_cons (h : j.Formed IsReadBack depth) :
    ∃ c s, j.render.toList = c :: s ∧ isGap c = false ∧ c ≠ ']' := by
  have hnumeral : ∀ {c : Char}, isNumeral c = true → isGap c = false ∧ c ≠ ']' := by
    refine fun hc => ⟨isGap_of_isNumeral hc, ?_⟩
    rintro rfl
    exact absurd hc (by decide)
  cases h with
  | null => exact ⟨'n', _, rfl, by decide⟩
  | boolean b => cases b <;> exact ⟨_, _, rfl, by decide⟩
  | @whole _ n hn =>
    obtain ⟨c, s, htext, hc⟩ := exists_cons_whole n
    exact ⟨c, s, htext, hnumeral hc⟩
  | double hx =>
    obtain ⟨c, s, htext, hc⟩ := hx.exists_cons
    exact ⟨c, s, htext, hnumeral hc⟩
  | string s => exact ⟨'"', _, toList_quote s, by decide⟩
  | array => exact ⟨'[', _, toList_render_array _, by decide⟩
  | object => exact ⟨'\x7b', _, toList_render_object _, by decide⟩

/-- A document is read back from its text where a value ends. -/
theorem readValue_render (h : j.Formed IsReadBack depth) (htail : Ends tail) :
    readValue depth (j.render.toList ++ tail) = some (j, tail) := by
  induction h generalizing tail with
  | null => rw [readValue.eq_def]; rfl
  | boolean b => cases b <;> (rw [readValue.eq_def]; rfl)
  | whole hn => exact readValue_whole hn _ htail
  | double hx => exact readValue_double hx _ htail
  | string s => exact readValue_quote _ s tail
  | @array depth items h ih =>
    rw [toList_render_array, List.cons_append, List.append_assoc, List.singleton_append]
    cases items with
    | nil => rw [readValue.eq_def]; rfl
    | cons first items =>
      obtain ⟨c, s, hfirst, hgap, hclose⟩ := (h first List.mem_cons_self).render_cons
      obtain ⟨more, hmore⟩ := exists_commaList_cons first.render (items.map render)
      obtain ⟨fuel, hfuel⟩ := exists_fuel first.render (items.map render) (']' :: tail)
      have htext : commaList ((first :: items).map render) ++ ']' :: tail = c :: (s ++ more ++ ']' :: tail) := by
        rw [List.map_cons, hmore, hfirst]
        rfl
      rw [htext, readValue_bracket hgap hclose, ← htext, List.map_cons, hfuel, List.length_map, ← List.map_cons,
        readItems_commaList first items [] fuel fun item hitem tail htail => ih item hitem htail]
      rfl
  | @object depth fields hnames h ih =>
    rw [toList_render_object, List.cons_append, List.append_assoc, List.singleton_append]
    cases fields with
    | nil => rw [readValue.eq_def]; rfl
    | cons first fields =>
      obtain ⟨more, hmore⟩ := exists_commaList_cons (fieldText first) (fields.map fieldText)
      obtain ⟨fuel, hfuel⟩ := exists_fuel (fieldText first) (fields.map fieldText) ('\x7d' :: tail)
      obtain ⟨s, hs⟩ : ∃ s, (fieldText first).toList = '"' :: s := ⟨_, by simp [fieldText, toList_quote]; rfl⟩
      have htext : commaList ((first :: fields).map fieldText) ++ '\x7d' :: tail = '"' :: (s ++ more ++ '\x7d' :: tail) := by
        rw [List.map_cons, hmore, hs]
        rfl
      rw [htext, readValue_brace, ← htext, List.map_cons, hfuel, List.length_map, ← List.map_cons,
        readFields_commaList first fields [] fuel (fun field hfield tail htail => ih field hfield htail) hnames]
      rfl

/-- A document that nests no deeper than texts may is the document of its text. -/
theorem parse?_render (h : j.Formed IsReadBack maxNesting) : parse? j.render = some j := by
  have hread := readValue_render h .nil
  rw [List.append_nil] at hread
  rw [parse?, hread]
  rfl

/-! ## What is read -/

theorem map_setField (key : String) (value : Json) (fields : List (String × Json)) :
    (setField key value fields).map (·.1) = fields.map (·.1) ∨
      key ∉ fields.map (·.1) ∧ (setField key value fields).map (·.1) = fields.map (·.1) ++ [key] := by
  induction fields with
  | nil => exact .inr ⟨List.not_mem_nil, rfl⟩
  | cons field fields ih =>
    rw [setField]
    split
    · rename_i heq
      exact .inl (by rw [List.map_cons, List.map_cons, heq])
    · rename_i hne
      rw [List.map_cons, List.map_cons]
      rcases ih with ih | ⟨hnew, ih⟩
      · exact .inl (by rw [ih])
      · refine .inr ⟨?_, by rw [ih, List.cons_append]⟩
        rintro (_ | ⟨_, hmem⟩)
        · exact hne rfl
        · exact hnew hmem

theorem nodup_setField (key : String) (value : Json) {fields : List (String × Json)} (h : (fields.map (·.1)).Nodup) :
    ((setField key value fields).map (·.1)).Nodup := by
  rcases map_setField key value fields with heq | ⟨hnew, heq⟩
  · rwa [heq]
  · rw [heq, List.nodup_append]
    refine ⟨h, by simp, fun name hmem other hother => ?_⟩
    rw [List.mem_singleton.1 hother]
    rintro rfl
    exact hnew hmem

theorem mem_setField {key : String} {value : Json} {fields : List (String × Json)} {field : String × Json}
    (h : field ∈ setField key value fields) : field = (key, value) ∨ field ∈ fields := by
  induction fields with
  | nil => exact .inl (List.mem_singleton.1 h)
  | cons first fields ih =>
    rw [setField] at h
    split at h
    · rcases List.mem_cons.1 h with h | h
      · exact .inl h
      · exact .inr (List.mem_cons_of_mem _ h)
    · rcases List.mem_cons.1 h with rfl | h
      · exact .inr List.mem_cons_self
      · exact (ih h).imp_right (List.mem_cons_of_mem _)

variable {s : List Char} {item : Step Json}

theorem formed_of_readItems (hitem : ∀ s j rest, item s = some (j, rest) → j.Formed ok depth) {fuel : Nat} {done : List Json}
    (hdone : ∀ j ∈ done, j.Formed ok depth) (h : readItems item fuel done s = some (j, rest)) : j.Formed ok (depth + 1) := by
  induction fuel generalizing done s with
  | zero => cases h
  | succ fuel ih =>
    rw [readItems] at h
    obtain ⟨⟨value, after⟩, hvalue, h⟩ := Option.bind_eq_some_iff.1 h
    have hdone' : ∀ j ∈ value :: done, j.Formed ok depth := by
      rintro j (_ | ⟨_, hj⟩)
      · exact hitem _ _ _ hvalue
      · exact hdone j hj
    dsimp only at h
    split at h
    · exact ih hdone' h
    · obtain ⟨rfl, -⟩ := Prod.mk.inj (Option.some.inj h)
      exact .array fun j hj => hdone' j (List.mem_reverse.1 hj)
    · cases h

theorem formed_of_readFields (hitem : ∀ s j rest, item s = some (j, rest) → j.Formed ok depth) {fuel : Nat}
    {done : List (String × Json)} (hnames : (done.map (·.1)).Nodup) (hdone : ∀ field ∈ done, field.2.Formed ok depth)
    (h : readFields item fuel done s = some (j, rest)) : j.Formed ok (depth + 1) := by
  induction fuel generalizing done s with
  | zero => cases h
  | succ fuel ih =>
    rw [readFields] at h
    split at h
    · obtain ⟨⟨key, afterKey⟩, -, h⟩ := Option.bind_eq_some_iff.1 h
      dsimp only at h
      split at h
      · obtain ⟨⟨value, after⟩, hvalue, h⟩ := Option.bind_eq_some_iff.1 h
        have hnames' := nodup_setField key value hnames
        have hdone' : ∀ field ∈ setField key value done, field.2.Formed ok depth := by
          intro field hfield
          rcases mem_setField hfield with rfl | hfield
          · exact hitem _ _ _ hvalue
          · exact hdone field hfield
        dsimp only at h
        split at h
        · exact ih hnames' hdone' h
        · obtain ⟨rfl, -⟩ := Prod.mk.inj (Option.some.inj h)
          exact .object hnames' hdone'
        · cases h
      · cases h
    · cases h

theorem formed_of_readScaled {negative : Bool} {whole fraction : List Char}
    (h : readScaled negative whole fraction s = some (j, rest)) : j.Formed (fun _ => True) depth := by
  unfold readScaled at h
  split at h
  · split at h
    all_goals
      simp only [Option.pure_def, Option.bind_eq_bind, Option.bind_eq_some_iff, Option.some.injEq, Prod.mk.injEq] at h
    · obtain ⟨_, _, x, _, rfl, _⟩ := h
      exact .double trivial
    · obtain ⟨x, _, rfl, _⟩ := h
      exact .double trivial
  · simp only [Option.pure_def, Option.bind_eq_bind, Option.bind_eq_some_iff, Option.some.injEq, Prod.mk.injEq] at h
    obtain ⟨x, _, rfl, _⟩ := h
    exact .double trivial

/-- A number without point and exponent that does not fit 64 bits is a double. -/
theorem formed_of_wholeOf {negative : Bool} {whole : List Char}
    (h : readUnsigned.wholeOf negative whole (signOf negative) s = some (j, rest)) : j.Formed (fun _ => True) depth := by
  have hdouble : ∀ {x : Option Float}, x.map (fun x => (signOf negative x, s)) = some (j, rest) →
      j.Formed (fun _ => True) depth := by
    intro x hx
    obtain ⟨x, -, hx⟩ := Option.map_eq_some_iff.1 hx
    obtain ⟨rfl, -⟩ := Prod.mk.inj hx
    exact .double trivial
  unfold readUnsigned.wholeOf at h
  dsimp only at h
  split at h
  · split at h
    · rename_i hfits
      obtain ⟨rfl, -⟩ := Prod.mk.inj (Option.some.inj h)
      exact .whole ⟨Int.neg_le_neg (Int.ofNat_le.2 hfits.2), by omega⟩
    · exact hdouble h
  · split at h
    · rename_i hfits
      obtain ⟨rfl, -⟩ := Prod.mk.inj (Option.some.inj h)
      exact .whole ⟨by omega, Int.ofNat_le.2 hfits⟩
    · exact hdouble h

theorem formed_of_readUnsigned {negative : Bool} (h : readUnsigned negative s = some (j, rest)) :
    j.Formed (fun _ => True) depth := by
  rw [readUnsigned_eq] at h
  split at h
  · cases h
  unfold readAfterDigits at h
  split at h
  · split at h
    · cases h
    · exact formed_of_readScaled h
  · split at h
    · exact formed_of_readScaled h
    · exact formed_of_wholeOf h
  · exact formed_of_wholeOf h

theorem formed_of_readWord {word : String} {value : Json} (hvalue : value.Formed ok depth)
    (h : readWord word value s = some (j, rest)) : j.Formed ok depth := by
  unfold readWord at h
  split at h
  · obtain ⟨rfl, -⟩ := Prod.mk.inj (Option.some.inj h)
    exact hvalue
  · cases h

/-- What a step of so much nesting reads is formed, if it is with less nesting. -/
theorem formed_of_readValue (h : readValue depth s = some (j, rest)) : j.Formed (fun _ => True) depth := by
  induction depth using Nat.strongRecOn generalizing s j rest with
  | _ depth ih =>
    rw [readValue.eq_def] at h
    dsimp only at h
    split at h
    · cases h
    · obtain ⟨⟨text, after⟩, -, h⟩ := Option.map_eq_some_iff.1 h
      obtain ⟨rfl, -⟩ := Prod.mk.inj h
      exact .string text
    · split at h
      · cases h
      · split at h
        · obtain ⟨rfl, -⟩ := Prod.mk.inj (Option.some.inj h)
          exact .array (List.forall_mem_nil _)
        · exact formed_of_readItems (fun _ _ _ => ih _ (Nat.lt_succ_self _)) (List.forall_mem_nil _) h
    · split at h
      · cases h
      · split at h
        · obtain ⟨rfl, -⟩ := Prod.mk.inj (Option.some.inj h)
          exact .object List.nodup_nil (List.forall_mem_nil _)
        · refine formed_of_readFields (fun _ _ _ => ih _ (Nat.lt_succ_self _)) ?_ (List.forall_mem_nil _) h
          exact List.nodup_nil
    · exact formed_of_readUnsigned h
    · split at h
      · exact formed_of_readWord (.boolean true) h
      split at h
      · exact formed_of_readWord (.boolean false) h
      split at h
      · exact formed_of_readWord .null h
      · exact formed_of_readUnsigned h

/-- Every document that is read from a text is formed. -/
theorem formed_of_parse? {text : String} (h : parse? text = some j) : j.Formed (fun _ => True) maxNesting := by
  unfold parse? at h
  split at h
  · rename_i hread
    split at h
    · cases h
      exact formed_of_readValue hread
    · cases h
  · cases h

end CellExpr.Json

namespace CellExpr.Json

open Number

/-- No character is a control. -/
def Visible (s : List Char) : Prop := ∀ c ∈ s, ' '.toNat ≤ c.toNat

instance (s : List Char) : Decidable (Visible s) := List.decidableBAll (fun c : Char => ' '.toNat ≤ c.toNat) s

variable {s t : List Char}

namespace Visible

theorem append (hs : Visible s) (ht : Visible t) : Visible (s ++ t) := fun c hc => (List.mem_append.1 hc).elim (hs c) (ht c)

theorem cons {c : Char} (hc : ' '.toNat ≤ c.toNat) (hs : Visible s) : Visible (c :: s) := List.forall_mem_cons.2 ⟨hc, hs⟩

theorem flatMap {f : Char → List Char} (h : ∀ c, Visible (f c)) (s : List Char) : Visible (s.flatMap f) := by
  intro d hd
  obtain ⟨c, _, hd⟩ := List.mem_flatMap.1 hd
  exact h c d hd

theorem not_mem {c : Char} (hs : Visible s) (hc : c.toNat < ' '.toNat) : c ∉ s := fun hmem => absurd (hs c hmem) (Nat.not_le.2 hc)

end Visible

/-! ## Scalars -/

theorem visible_hexDigits4 (n : Nat) : Visible (hexDigits4 n) := by
  have hdigit : ∀ n < 16, ' '.toNat ≤ (Nat.digitChar n).toNat := by decide
  intro c hc
  obtain ⟨m, hm, rfl⟩ := List.mem_map.1 hc
  refine hdigit m ?_
  simp only [List.mem_cons, List.not_mem_nil, or_false] at hm
  omega

/-- A control is escaped, by other characters. -/
theorem visible_escapeChar (c : Char) : Visible (escapeChar c) := by
  unfold escapeChar
  iterate 7
    split
    · decide
  split
  · exact .cons (by decide) (.cons (by decide) (visible_hexDigits4 _))
  · rename_i hvisible
    exact .cons (Nat.le_of_not_lt hvisible) nofun

theorem visible_quote (s : String) : Visible (quote s).toList := by
  rw [toList_quote]
  exact .cons (by decide) (.append (.flatMap visible_escapeChar _) (.cons (by decide) nofun))

theorem visible_of_isNumeral (h : ∀ c ∈ s, isNumeral c = true) : Visible s := by
  intro c hc
  have hc := h c hc
  simp only [isNumeral, isDigit, Bool.or_eq_true, Bool.and_eq_true, decide_eq_true_eq, beq_iff_eq] at hc
  rcases hc with (((hdigit | rfl) | rfl) | rfl) | rfl
  · exact Nat.le_trans (by decide) (show '0'.toNat ≤ c.toNat from hdigit.1)
  all_goals decide

theorem visible_whole (n : Int) : Visible (toString n).toList := by
  have hdigits (m : Nat) : Visible (digitsText m) :=
    visible_of_isNumeral fun c hc => isNumeral_of_isDigit (isDigit_of_mem_digitsText hc)
  cases n with
  | ofNat m =>
    rw [toList_ofNat]
    exact hdigits m
  | negSucc m =>
    rw [toList_negSucc]
    exact .cons (by decide) (hdigits (m + 1))

theorem visible_doubleText (x : Float) : Visible (doubleText x).toList := by
  unfold doubleText
  split
  · exact visible_of_isNumeral fun c hc => isNumeral_of_mem_jsonText hc
  · decide

/-! ## Documents -/

theorem visible_commaList {texts : List String} (h : ∀ text ∈ texts, Visible text.toList) : Visible (commaList texts) := by
  induction texts with
  | nil => exact nofun
  | cons text texts ih =>
    obtain ⟨htext, htexts⟩ := List.forall_mem_cons.1 h
    cases texts with
    | nil => rwa [commaList_singleton]
    | cons other texts =>
      rw [commaList_cons_cons]
      exact htext.append (.cons (by decide) (ih htexts))

/-- The text of a document has no controls. -/
theorem visible_render (j : Json) : Visible j.render.toList := by
  match j with
  | .null => exact (by decide : Visible "null".toList)
  | .boolean b => cases b <;> decide
  | .whole n => exact visible_whole n
  | .double x => exact visible_doubleText x
  | .string s => exact visible_quote s
  | .array items =>
    rw [toList_render_array]
    refine .cons (by decide) ((visible_commaList fun text htext => ?_).append (by decide))
    obtain ⟨item, hitem, rfl⟩ := List.mem_map.1 htext
    exact visible_render item
  | .object fields =>
    rw [toList_render_object]
    refine .cons (by decide) ((visible_commaList fun text htext => ?_).append (by decide))
    obtain ⟨field, hfield, rfl⟩ := List.mem_map.1 htext
    rw [fieldText, String.toList_append, String.toList_append]
    exact ((visible_quote field.1).append (by decide)).append (visible_render field.2)
termination_by sizeOf j
decreasing_by
  · have hsize := List.sizeOf_lt_of_mem hitem
    simp only [Json.array.sizeOf_spec]
    omega
  · have hsize := List.sizeOf_lt_of_mem hfield
    obtain ⟨name, value⟩ := field
    simp only [Prod.mk.sizeOf_spec] at hsize
    simp only [Json.object.sizeOf_spec]
    omega

end CellExpr.Json
