import CellExpr.Proofs.Json.RoundTrip

/-!
# Documents and written forms

The document of a value and its written form are the same but for numbers that are not finite: outside objects the document has
the text of such a number and the written form has null (`toWritten_toJson`). So an array or an object without such numbers has
the same text by `toString` and by `jsonize`.
-/

namespace CellExpr.Value

variable {v : Value} {x : Float} {items : List Value}

/-! ## Numbers outside objects -/

/-- `v.Shows x`: the value is a number or an array in which the number stands at some depth. What stands in objects is not
shown. -/
inductive Shows : Value → Float → Prop where
  | number (x : Float) : Shows (.number x) x
  | element {items : List Value} {v : Value} {x : Float} (hv : v ∈ items) (h : Shows v x) : Shows (.array items) x

mutual

/-- The document of a value in which something of one's own stands for each number that is shown and not finite. -/
def documentWith (other : Float → Json) : Value → Json
  | number x => if x.isFinite then .double x else other x
  | array items => .array (itemsWith other items)
  | v => v.toJson

/-- The documents of some values with something of one's own for numbers that are not finite. -/
def itemsWith (other : Float → Json) : List Value → List Json
  | [] => []
  | v :: rest => documentWith other v :: itemsWith other rest

end

theorem itemsWith_eq_map (other : Float → Json) (items : List Value) :
    itemsWith other items = items.map (documentWith other) := by
  induction items with
  | nil => rfl
  | cons v items ih => rw [itemsWith, ih, List.map_cons]

theorem itemsToJson_eq_map (items : List Value) : itemsToJson items = items.map toJson := by
  induction items with
  | nil => rfl
  | cons v items ih => rw [itemsToJson, ih, List.map_cons]

/-- What holds of an array if it holds of its elements, and of every other value, holds of all values. -/
theorem induction_elements {motive : Value → Prop} (array : ∀ items, (∀ v ∈ items, motive v) → motive (.array items))
    (other : ∀ v, (∀ items, v ≠ .array items) → motive v) (v : Value) : motive v :=
  match v with
  | .array items => array items fun v _ => induction_elements array other v
  | .string _ | .number _ | .boolean _ | .date _ | .regex _ | .error _ | .null | .object _ => other _ nofun
termination_by sizeOf v

/-! ## The two forms -/

theorem toWritten_eq_documentWith (v : Value) : v.toWritten = v.documentWith fun _ => .null := by
  induction v using induction_elements with
  | array items ih =>
    rw [toWritten, documentWith, itemsToWritten_eq_map, itemsWith_eq_map]
    exact congrArg Json.array (List.map_congr_left ih)
  | other v hv =>
    cases v with
    | array items => exact absurd rfl (hv items)
    | _ => rfl

theorem toJson_eq_documentWith (v : Value) : v.toJson = v.documentWith fun x => .string (Number.text x) := by
  induction v using induction_elements with
  | array items ih =>
    rw [toJson, documentWith, itemsToJson_eq_map, itemsWith_eq_map]
    exact congrArg Json.array (List.map_congr_left ih)
  | other v hv =>
    cases v with
    | array items => exact absurd rfl (hv items)
    | _ => rfl

/-- Two documents of a value are the same if and only if the same stands in them for each number that is shown and not finite. -/
theorem documentWith_eq_iff {f g : Float → Json} :
    v.documentWith f = v.documentWith g ↔ ∀ x, v.Shows x → x.isFinite = false → f x = g x := by
  induction v using induction_elements with
  | array items ih =>
    rw [documentWith, documentWith, itemsWith_eq_map, itemsWith_eq_map, Json.array.injEq, List.map_inj_left]
    constructor
    · intro h x hx
      cases hx with
      | element hv hx => exact (ih _ hv).1 (h _ hv) x hx
    · intro h v hv
      exact (ih v hv).2 fun x hx => h x (.element hv hx)
  | other v hv =>
    cases v with
    | array items => exact absurd rfl (hv items)
    | number x =>
      rw [documentWith, documentWith]
      cases hfinite : x.isFinite with
      | true =>
        refine iff_of_true rfl fun y hy hnot => ?_
        cases hy with
        | number => rw [hfinite] at hnot; cases hnot
      | false =>
        constructor
        · intro h y hy _
          cases hy with
          | number => exact h
        · intro h
          exact h x (.number x) hfinite
    | _ => exact iff_of_true rfl nofun

theorem toWritten_eq_toJson_iff : v.toWritten = v.toJson ↔ ∀ x, v.Shows x → x.isFinite = true := by
  rw [toWritten_eq_documentWith, toJson_eq_documentWith, documentWith_eq_iff]
  refine forall₂_congr fun x _ => ?_
  cases x.isFinite with
  | true => exact iff_of_true nofun rfl
  | false => exact iff_of_false (fun h => nomatch h rfl) nofun

/-! ## The functions -/

theorem value_call_single (r : Registry) (name : String) (e : Expr) (s : Scope) :
    ((Expr.call name [e]).eval r s).value = (r.call name [(e.eval r s).value] s).value := by
  rw [Expr.eval]
  rfl

/-- The call of `toString` with a value that is no error is the text of the value. -/
theorem call_toString (now : Calendar.Instant) (s : Scope) (h : v.isError = false) :
    ((Registry.standard now).call "toString" [v] s).value = .string v.text := by
  cases v with
  | error => cases h
  | _ => rfl

/-- The text of an array or an object is that of its document. -/
theorem text_eq_render_toJson (h : v.kind = .array ∨ v.kind = .object) : v.text = v.toJson.render := by
  cases v with
  | array | object => rfl
  | _ => rcases h with h | h <;> cases h

/-- The written form of a value is its document, but that null stands for each number that is not finite and stands outside
objects, where the document has the text of the number. They are the same just if all numbers outside objects are finite, and then
`toString` and `jsonize` give one text for an array or an object. -/
theorem toWritten_toJson (v : Value) :
    v.toWritten = v.documentWith (fun _ => .null) ∧ v.toJson = v.documentWith (fun x => .string (Number.text x)) ∧
      (v.toWritten = v.toJson ↔ ∀ x, v.Shows x → x.isFinite = true) ∧
      ∀ (now : Calendar.Instant) (s : Scope), v.kind = .array ∨ v.kind = .object → (∀ x, v.Shows x → x.isFinite = true) →
        ((Registry.standard now).call "toString" [v] s).value = .string v.jsonText ∧
          ((Registry.standard now).call "jsonize" [v] s).value = .string v.jsonText := by
  refine ⟨toWritten_eq_documentWith v, toJson_eq_documentWith v, toWritten_eq_toJson_iff, fun now s hkind hfinite => ?_⟩
  have herror : v.isError = false := by
    cases v with
    | error => rcases hkind with h | h <;> cases h
    | _ => rfl
  have htext : v.text = v.jsonText := by
    rw [text_eq_render_toJson hkind, jsonText, toWritten_eq_toJson_iff.2 hfinite]
  exact ⟨htext ▸ call_toString now s herror, call_jsonize now s herror⟩

/-- An array with a number in an inner array, and with a cell that holds infinity. -/
def arrayOverCell : Value := .array [.array [.number 2.5, .null], .object (.cell (.number Number.infinity))]

/-- The infinity stands inside an object, so that `toString` and `jsonize` give one text for the array. -/
theorem toWritten_toJson_arrayOverCell :
    (arrayOverCell.kind = .array ∨ arrayOverCell.kind = .object) ∧ (∀ x, arrayOverCell.Shows x → x.isFinite = true) ∧
      ((Registry.standard ⟨0, 0, by decide⟩).call "toString" [arrayOverCell] []).value = .string arrayOverCell.jsonText ∧
      ((Registry.standard ⟨0, 0, by decide⟩).call "jsonize" [arrayOverCell] []).value = .string arrayOverCell.jsonText := by
  have hfinite : ∀ x, arrayOverCell.Shows x → x.isFinite = true := by
    intro x hx
    cases hx with
    | element hv hx =>
      obtain rfl | rfl := (List.mem_pair.1 hv)
      · cases hx with
        | element hv hx =>
          obtain rfl | rfl := (List.mem_pair.1 hv)
          · cases hx with
            | number => decide
          · cases hx
      · cases hx
  exact ⟨.inl rfl, hfinite, (toWritten_toJson arrayOverCell).2.2.2 _ [] (.inl rfl) hfinite⟩

end CellExpr.Value
