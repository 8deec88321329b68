import CellExpr.Evaluation.Eval
import CellExpr.Function.Standard
import CellExpr.Proofs.Json.Documents
import CellExpr.Proofs.Json.Equality
import CellExpr.Value.Equality

/-!
# Values through JSON

A value that is made of null, truth values, numbers, texts, arrays and JSON objects is the value of its JSON text
(`eval_parseJson_jsonize`). Numbers are doubles outside objects and keep their kind inside them; the written form has every
double in the same words, so that one fact about these is enough: that its text alone is read back.
-/

namespace CellExpr

open CellExpr.Json

variable {ok ok' : Float → Prop} {depth : Nat} {j : Json} {v : Value}

/-- Values made of null, truth values, texts, numbers such as `ok` says, arrays of such values, and JSON objects whose doubles
are such as `ok` says. Arrays and objects nest at most so deep. -/
inductive Value.Plain (ok : Float → Prop) : (depth : Nat) → Value → Prop where
  | null {depth : Nat} : Plain ok depth .null
  | boolean {depth : Nat} (b : Bool) : Plain ok depth (.boolean b)
  | string {depth : Nat} (s : String) : Plain ok depth (.string s)
  | number {depth : Nat} {x : Float} (h : ok x) : Plain ok depth (.number x)
  | array {depth : Nat} {items : List Value} (h : ∀ item ∈ items, Plain ok depth item) :
    Plain ok (depth + 1) (.array items)
  | record {depth : Nat} {fields : List (String × Json)} (h : (Json.object fields).Formed ok depth) :
    Plain ok depth (.object (.record fields))

/-! ## Both ways -/

theorem Json.Formed.and (h : j.Formed ok depth) (h' : j.Formed ok' depth) : j.Formed (fun x => ok x ∧ ok' x) depth := by
  induction h with
  | null => exact .null
  | boolean b => exact .boolean b
  | whole hn => exact .whole hn
  | double hx =>
    cases h' with
    | double hx' => exact .double ⟨hx, hx'⟩
  | string s => exact .string s
  | array _ ih =>
    cases h' with
    | array h' => exact .array fun item hitem => ih item hitem (h' item hitem)
  | object hnames _ ih =>
    cases h' with
    | object _ h' => exact .object hnames fun field hfield => ih field hfield (h' field hfield)

theorem Value.Plain.and (h : v.Plain ok depth) (h' : v.Plain ok' depth) : v.Plain (fun x => ok x ∧ ok' x) depth := by
  induction h with
  | null => exact .null
  | boolean b => exact .boolean b
  | string s => exact .string s
  | number hx =>
    cases h' with
    | number hx' => exact .number ⟨hx, hx'⟩
  | array _ ih =>
    cases h' with
    | array h' => exact .array fun item hitem => ih item hitem (h' item hitem)
  | record h =>
    cases h' with
    | record h' => exact .record (h.and h')

theorem Json.Formed.mono (h : j.Formed ok depth) (himp : ∀ x, ok x → ok' x) : j.Formed ok' depth := by
  induction h with
  | null => exact .null
  | boolean b => exact .boolean b
  | whole hn => exact .whole hn
  | double hx => exact .double (himp _ hx)
  | string s => exact .string s
  | array _ ih => exact .array ih
  | object hnames _ ih => exact .object hnames ih

namespace Value

theorem itemsToWritten_eq_map (items : List Value) : itemsToWritten items = items.map toWritten := by
  induction items with
  | nil => rfl
  | cons v items ih => rw [itemsToWritten, ih, List.map_cons]

theorem ofJsonItems_eq_map (items : List Json) : ofJsonItems items = items.map ofJson := by
  induction items with
  | nil => rfl
  | cons j items ih => rw [ofJsonItems, ih, List.map_cons]

/-- The document that is written for a plain value nests as deep as the value and has the same doubles. -/
theorem Plain.formed_toWritten (h : v.Plain (fun x => x.isFinite = true ∧ ok x) depth) : v.toWritten.Formed ok depth := by
  induction h with
  | null => exact .null
  | boolean b => exact .boolean b
  | string s => exact .string s
  | number hx =>
    rw [toWritten, if_pos hx.1]
    exact .double hx.2
  | array _ ih =>
    rw [toWritten, itemsToWritten_eq_map]
    refine .array fun j hj => ?_
    obtain ⟨item, hitem, rfl⟩ := List.mem_map.1 hj
    exact ih item hitem
  | record h => exact h.mono fun _ hx => hx.2

/-- A plain value is the value of the document that is written for it. -/
theorem Plain.ofJson_toWritten (h : v.Plain (fun x => x.isFinite = true) depth) : ofJson v.toWritten = v := by
  induction h with
  | null | boolean | string | record => rfl
  | number hx => rw [toWritten, if_pos hx]; rfl
  | array _ ih =>
    rw [toWritten, ofJson, itemsToWritten_eq_map, ofJsonItems_eq_map, List.map_map]
    exact congrArg _ ((List.map_congr_left fun item hitem => ih item hitem).trans (List.map_id _))

/-- A plain value is the value of its JSON text, if its doubles are read back and it nests no deeper than texts may. -/
theorem Plain.parse?_jsonText (h : v.Plain (fun x => x.isFinite = true) Json.maxNesting) (hback : v.Plain IsReadBack Json.maxNesting) :
    parse? v.jsonText = some v.toWritten :=
  parse?_render (h.and hback).formed_toWritten

end Value

/-! ## Equality -/

/-- A finite double is a number. -/
theorem isNaN_of_isFinite {x : Float} (h : x.isFinite = true) : x.isNaN = false := by
  have hfinite : x.toModel.unpack.isFinite = true := h
  show x.toModel.unpack.isNaN = false
  cases hunpack : x.toModel.unpack with
  | notANumber =>
    rw [hunpack] at hfinite
    cases hfinite
  | _ => rfl

namespace Json

/-- The doubles in a document are such as is said of it. -/
theorem Formed.of_holds (h : j.Formed ok depth) {x : Float} (hx : j.Holds x) : ok x := by
  induction h with
  | double h =>
    cases hx with
    | double => exact h
  | array _ ih =>
    cases hx with
    | item hitem hx => exact ih _ hitem hx
  | object _ _ ih =>
    cases hx with
    | field hfield hx => exact ih _ hfield hx
  | _ => cases hx

/-- A document whose doubles are finite equals itself. -/
theorem Formed.beq_self (h : j.Formed (fun x => x.isFinite = true) depth) : (j == j) = true :=
  beq_self_of_holds fun _ hx => isNaN_of_isFinite (h.of_holds hx)

end Json

namespace Value

theorem sameItems_iff {as bs : List Value} : sameItems as bs = true ↔ List.Forall₂ (fun a b => a.same b = true) as bs := by
  induction as generalizing bs with
  | nil => cases bs <;> simp [sameItems]
  | cons a as ih => cases bs <;> simp [sameItems, ih]

/-- A plain value with finite numbers equals itself. -/
theorem Plain.same_self (h : v.Plain (fun x => x.isFinite = true) depth) : v.same v = true := by
  induction h with
  | null => rfl
  | boolean b => exact beq_self_eq_true b
  | string s => exact beq_self_eq_true s
  | number hx => exact beq_self_iff.2 (isNaN_of_isFinite hx)
  | array _ ih =>
    rw [same, sameItems_iff, List.forall₂_same]
    exact ih
  | record h => exact h.beq_self

/-! ## The functions -/

/-- The call of `jsonize` with a value that is no error is the JSON text of the value. -/
theorem call_jsonize (now : Calendar.Instant) (s : Scope) (h : v.isError = false) :
    ((Registry.standard now).call "jsonize" [v] s).value = .string v.jsonText := by
  cases v with
  | error => cases h
  | _ => rfl

/-- The call of `parseJson` with a text that is a document is the value of the document. -/
theorem call_parseJson (now : Calendar.Instant) (s : Scope) {text : String} (h : parse? text = some j) :
    ((Registry.standard now).call "parseJson" [.string text] s).value = ofJson j := by
  have hcall : ((Registry.standard now).call "parseJson" [.string text] s).value =
      (Outcome.toTraced (ConversionFunctions.parseJson [.string text] s)).value := rfl
  have hbody : ConversionFunctions.parseJson [.string text] s = .ok (ofJson j) := by
    have htext : Args.textAt [.string text] 0 = .ok text := rfl
    simp only [ConversionFunctions.parseJson, Args.body, htext, bind, Except.bind, h]
    rfl
  rw [hcall, hbody]
  rfl

theorem Plain.isError_eq_false (h : v.Plain ok depth) : v.isError = false := by
  cases h <;> rfl

end Value

/-- A value that is made of null, truth values, texts, finite numbers, arrays and JSON objects and nests no deeper than JSON texts
may comes back from its JSON text: it is the same value again, so that they are equal and have the same text. Of its doubles it is
assumed that the text of each alone is read back. -/
theorem eval_parseJson_jsonize (now : Calendar.Instant) (s : Scope) {e : Expr} {v : Value}
    (he : (e.eval (.standard now) s).value = v) (hv : v.Plain (fun x => x.isFinite = true) Json.maxNesting)
    (hback : v.Plain IsReadBack Json.maxNesting) :
    ((Expr.call "jsonize" [e]).eval (.standard now) s).value = .string v.jsonText ∧
      ((Expr.call "parseJson" [.call "jsonize" [e]]).eval (.standard now) s).value = v ∧ v.same v = true ∧
      ((Expr.call "jsonize" [.call "parseJson" [.call "jsonize" [e]]]).eval (.standard now) s).value = .string v.jsonText := by
  have hjsonize : ∀ {e : Expr}, (e.eval (.standard now) s).value = v →
      ((Expr.call "jsonize" [e]).eval (.standard now) s).value = .string v.jsonText := by
    intro e he
    have hcall := Value.call_jsonize now s hv.isError_eq_false
    rw [← he] at hcall ⊢
    exact hcall
  have hparse : ((Expr.call "parseJson" [.call "jsonize" [e]]).eval (.standard now) s).value = v := by
    have hcall := Value.call_parseJson now s (hv.parse?_jsonText hback)
    rw [hv.ofJson_toWritten, ← hjsonize he] at hcall
    exact hcall
  exact ⟨hjsonize he, hparse, hv.same_self, hjsonize hparse⟩

/-- An array with a number, a text that needs escapes, an object whose fields are not in the order of their names, and null. -/
def mixedArray : Value :=
  .array [.number 0.5, .string "a\"\n\x01é", .object (.record [("n", .whole (-3)), ("a", .array [.double 2.5e-7, .null])]), .null]

theorem plain_mixedArray (h : ok 0.5) (h' : ok 2.5e-7) : mixedArray.Plain ok Json.maxNesting := by
  have hinner : (Json.array [.double 2.5e-7, .null]).Formed ok 125 := by
    refine .array fun item hitem => ?_
    obtain rfl | rfl : item = .double 2.5e-7 ∨ item = .null := by simpa using hitem
    · exact .double h'
    · exact .null
  have hobject : (Json.object [("n", .whole (-3)), ("a", .array [.double 2.5e-7, .null])]).Formed ok 126 := by
    refine .object (by decide) fun field hfield => ?_
    obtain rfl | rfl : field = ("n", .whole (-3)) ∨ field = ("a", .array [.double 2.5e-7, .null]) := by simpa using hfield
    · exact .whole ⟨by decide, by decide⟩
    · exact hinner
  refine .array fun item hitem => ?_
  obtain rfl | rfl | rfl | rfl := List.mem_cons.1 hitem |>.imp_right (by simpa using ·)
  · exact .number h
  · exact .string _
  · exact .record hobject
  · exact .null

/-- The array comes back from its JSON text. -/
theorem eval_parseJson_jsonize_mixedArray :
    mixedArray.Plain (fun x => x.isFinite = true) Json.maxNesting ∧ mixedArray.Plain IsReadBack Json.maxNesting ∧
      ((Expr.call "parseJson" [.call "jsonize" [.var "v"]]).eval (.standard ⟨0, 0, by decide⟩) [[("v", mixedArray)]]).value =
        mixedArray ∧
      mixedArray.same mixedArray = true := by
  have hfinite : mixedArray.Plain (fun x => x.isFinite = true) Json.maxNesting := plain_mixedArray (by decide) (by decide)
  have hback : mixedArray.Plain IsReadBack Json.maxNesting := plain_mixedArray (by decide +kernel) (by decide +kernel)
  obtain ⟨_, hparse, hsame, _⟩ :=
    eval_parseJson_jsonize ⟨0, 0, by decide⟩ [[("v", mixedArray)]] (e := .var "v") rfl hfinite hback
  exact ⟨hfinite, hback, hparse, hsame⟩

end CellExpr
