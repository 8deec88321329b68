import CellExpr.Evaluation.Eval
import CellExpr.Function.Standard
import CellExpr.Proofs.Evaluation.Exposure
import CellExpr.Proofs.Evaluation.Positions
import CellExpr.Proofs.Evaluation.Strictness
import CellExpr.Proofs.Json.RoundTrip

/-!
# Paths into documents

A path leads from a document to one of its parts, by the names of fields and the places of elements. An expression follows a path
by fields, by positions in brackets and by calls of `get`, whichever it likes at each step, and comes to the value of the part
(`eval_follow`): objects are opened at each step and arrays once for all, but the value of a part is the part of the value. Where
the path first asks for something that is not there, the expression comes to an error of a kind that tells what it was.
-/

namespace CellExpr

open CellExpr.Json CellExpr.Number

/-! ## Paths -/

/-- A step into a document: to the field with a name, or to the element at a place. A negative place counts from the end. -/
inductive PathStep where
  | key (name : String)
  | place (n : Int)

/-- The part of a document that a step leads to. -/
def Json.part? : Json → PathStep → Option Json
  | .object fields, .key name => fields.lookup name
  | .array items, .place (.ofNat n) => items[n]?
  | .array items, .place (.negSucc n) => items.reverse[n]?
  | _, _ => none

/-- The part of a document that a path leads to. -/
def Json.at? (j : Json) (path : List PathStep) : Option Json := path.foldlM part? j

/-- `j.Lacks step kind`: the step asks an object for a field that it does not have, or an array for an element; errors about it
have the kind. -/
inductive Json.Lacks : Json → PathStep → ErrorKind → Prop where
  | field {fields : List (String × Json)} {name : String} (h : fields.lookup name = none) :
    Lacks (.object fields) (.key name) .field
  | element {items : List Json} {n : Int} (h : (Json.array items).part? (.place n) = none) :
    Lacks (.array items) (.place n) .index

/-- The step that a value asks for as a key or a position: numbers ask for places, without their fraction. -/
inductive Value.Asks : Value → PathStep → Prop where
  | key (name : String) : Asks (.string name) (.key name)
  | place (x : Float) : Asks (.number x) (.place (truncateToWord x))

/-- One step of an expression: `base.name`, `base[position]` or `get(base, position)`. -/
inductive Access where
  | field (name : String)
  | index (position : Expr)
  | get (position : Expr)

namespace Access

/-- The step taken from a base. -/
def on : Access → Expr → Expr
  | field name, base => .field base name
  | index position, base => .index base position
  | get position, base => .call "get" [base, position]

/-- The expression that takes some steps from a base. -/
def follow (base : Expr) (accesses : List Access) : Expr := accesses.foldl (fun e a => a.on e) base

/-- The step into a document that a step of an expression comes to in a scope. -/
def Takes (now : Calendar.Instant) (s : Scope) : Access → PathStep → Prop
  | field name, step => step = .key name
  | index position, step | get position, step => (position.eval (.standard now) s).value.Asks step

end Access

/-! ## Places -/

/-- A place of an array is a position in it, counted from the start. -/
theorem Json.part?_place (items : List Json) (n : Int) :
    (Json.array items).part? (.place n) = (place? items.length n).bind fun i => items[i]? := by
  cases n with
  | ofNat n =>
    have hplace : place? items.length (.ofNat n) = if n < items.length then some n else none := by
      simp [place?]
    rw [part?, hplace]
    split
    · rfl
    · rename_i hge
      exact List.getElem?_eq_none (Nat.le_of_not_lt hge)
  | negSucc n =>
    have hplace : place? items.length (.negSucc n) = if n < items.length then some (items.length - (n + 1)) else none := by
      rw [place?, if_neg (Int.not_le.2 (Int.negSucc_lt_zero n))]
      rfl
    rw [part?, hplace]
    split
    · rename_i hlt
      rw [List.getElem?_reverse hlt, Option.bind_some]
      congr 1
      omega
    · rename_i hge
      exact List.getElem?_eq_none (by rw [List.length_reverse]; omega)

/-- The element at the place that a number stands for, or the fault. -/
theorem Outcome.value_elementAt (f : Fault) (items : List Value) (x : Float) :
    (Outcome.toTraced (Outcome.orFault f (placeOf? items.length x) >>= Outcome.elementAt items)).value =
      ((place? items.length (truncateToWord x)).bind fun i => items[i]?).getD (.error f.toError) := by
  rw [placeOf?]
  cases hplace : place? items.length (truncateToWord x) with
  | none => rfl
  | some i =>
    have hlt : i < items.length := place?_lt hplace
    rw [Option.bind_some, List.getElem?_eq_getElem hlt]
    show (Outcome.toTraced (.elementAt items i)).value = _
    rw [elementAt_of_lt hlt]
    rfl

theorem Value.placeIn_number (x : Float) (length : Nat) :
    Value.placeIn (.number x) length = .orFault (.outOfRange (Number.text x) length) (placeOf? length x) := by
  show (Outcome.placeOf length x >>= fun found => Outcome.orFault (.outOfRange (Number.text x) length) found) = _
  rw [Outcome.placeOf_eq]
  rfl

namespace Value

variable {now : Calendar.Instant} {s : Scope} {j : Json} {p v : Value} {step : PathStep}

/-! ## One step -/

/-- What a step from the value of a document comes to: the value of the part it leads to, or an error about what is lacking. -/
structure Answers (j : Json) (step : PathStep) (v : Value) : Prop where
  eq_ofJson : ∀ {j'}, j.part? step = some j' → v = ofJson j'
  error : ∀ {kind}, j.Lacks step kind → ∃ e : EvalError, e.kind = kind ∧ v = .error e

/-- An object answers with the value of its field, or else with an error about fields. -/
theorem answers_of_lookup {fields : List (String × Json)} {name : String} {f : Fault} (hf : f.kind = .field)
    (hv : v = ((fields.lookup name).map ofJson).getD (.error f.toError)) : Answers (.object fields) (.key name) v := by
  refine ⟨fun hpart => ?_, fun hlacks => ?_⟩
  · have hlookup : fields.lookup name = some _ := hpart
    rw [hv, hlookup]
    rfl
  · cases hlacks with
    | field hlookup =>
      rw [hlookup] at hv
      exact ⟨f.toError, hf, hv⟩

/-- An array answers with an element of its value, or else with an error about positions. -/
theorem answers_of_place? {items : List Json} {n : Int} {f : Fault} (hf : f.kind = .index)
    (hv : v = ((place? (ofJsonItems items).length n).bind fun i => (ofJsonItems items)[i]?).getD (.error f.toError)) :
    Answers (.array items) (.place n) v := by
  have hpart : ((place? (ofJsonItems items).length n).bind fun i => (ofJsonItems items)[i]?) =
      ((Json.array items).part? (.place n)).map ofJson := by
    simp only [part?_place, ofJsonItems_eq_map, List.length_map, List.getElem?_map, Option.map_bind, Function.comp_def]
  rw [hpart] at hv
  refine ⟨fun hsome => ?_, fun hlacks => ?_⟩
  · rw [hv, hsome]
    rfl
  · cases hlacks with
    | element hnone =>
      rw [hnone] at hv
      exact ⟨f.toError, hf, hv⟩

/-- The other documents have no parts and lack nothing that a step may ask for. -/
theorem answers_of_scalar (hobject : ∀ fields, j ≠ .object fields) (harray : ∀ items, j ≠ .array items) :
    Answers j step v := by
  refine ⟨fun hpart => ?_, fun hlacks => ?_⟩
  · cases j with
    | object fields => exact absurd rfl (hobject fields)
    | array items => exact absurd rfl (harray items)
    | _ => cases hpart
  · cases hlacks with
    | field => exact absurd rfl (hobject _)
    | element => exact absurd rfl (harray _)

theorem answers_field (j : Json) (name : String) : Answers j (.key name) ((ofJson j).field name) := by
  cases j with
  | object fields => exact answers_of_lookup (f := .noField "object" name) rfl rfl
  | array items => exact ⟨nofun, nofun⟩
  | _ => exact answers_of_scalar nofun nofun

theorem answers_atPosition (j : Json) (h : p.Asks step) : Answers j step ((ofJson j).atPosition p).toTraced.value := by
  cases j with
  | object fields =>
    cases h with
    | key name =>
      refine answers_of_lookup (f := .noEntry "object" name) rfl ?_
      show (Outcome.toTraced (.orFault _ ((fields.lookup name).map ofJson))).value = _
      cases fields.lookup name <;> rfl
    | place x => exact ⟨nofun, nofun⟩
  | array items =>
    cases h with
    | key name => exact ⟨nofun, nofun⟩
    | place x =>
      refine answers_of_place? (f := .outOfRange (Number.text x) (ofJsonItems items).length) rfl ?_
      show (Outcome.toTraced (do
        Outcome.elementAt (ofJsonItems items) (← placeIn (.number x) (ofJsonItems items).length))).value = _
      rw [placeIn_number]
      exact Outcome.value_elementAt _ _ x
  | _ => exact answers_of_scalar nofun nofun

theorem answers_get (j : Json) (h : p.Asks step) :
    Answers j step ((Registry.standard now).call "get" [ofJson j, p] s).value := by
  cases j with
  | object fields =>
    cases h with
    | key name =>
      refine answers_of_lookup (f := .noField "object" name) rfl ?_
      show (Outcome.toTraced (.orFault _ ((fields.lookup name).map ofJson))).value = _
      cases fields.lookup name <;> rfl
    | place x => exact ⟨nofun, nofun⟩
  | array items =>
    cases h with
    | key name => exact ⟨nofun, nofun⟩
    | place x =>
      refine answers_of_place? (f := .outsideSequence (Number.text x)) rfl ?_
      show (Outcome.toTraced (do
        let place ← .orFault (.outsideSequence (Number.text x)) (← Outcome.placeOf (ofJsonItems items).length x)
        Outcome.elementAt (ofJsonItems items) place)).value = _
      rw [Outcome.placeOf_eq]
      exact Outcome.value_elementAt _ _ x
  | _ => exact answers_of_scalar nofun nofun

end Value

namespace Access

variable {now : Calendar.Instant} {s : Scope} {base : Expr} {a : Access} {accesses : List Access} {step : PathStep}
  {path : List PathStep} {j j' : Json} {kind : ErrorKind} {e : EvalError}

/-- A step from an expression that comes to the value of a document. -/
theorem answers_on (hbase : (base.eval (.standard now) s).value = .ofJson j) (h : a.Takes now s step) :
    Value.Answers j step ((a.on base).eval (.standard now) s).value := by
  cases a with
  | field name =>
    obtain rfl : step = .key name := h
    show Value.Answers j _ ((base.eval (.standard now) s).value.field name)
    rw [hbase]
    exact Value.answers_field j name
  | index position =>
    rw [on, Expr.eval, Traced.unlessError_of_not_error (hbase ▸ Value.isError_ofJson j)]
    show Value.Answers j _ ((base.eval (.standard now) s).value.atPosition _).toTraced.value
    rw [hbase]
    exact Value.answers_atPosition j h
  | get position =>
    show Value.Answers j _ ((Registry.standard now).call "get" [(base.eval (.standard now) s).value, _] s).value
    rw [hbase]
    exact Value.answers_get j h

/-- A step needs the value of its base. -/
theorem strictPart_on (now : Calendar.Instant) (s : Scope) (base : Expr) (a : Access) :
    StrictPart (.standard now) s base (a.on base) := by
  cases a with
  | field name => exact .fieldBase base name
  | index position => exact .indexBase base position
  | get position => exact @StrictPart.argument _ _ _ _ rfl rfl [] base [position] nofun

theorem eval_follow_error (accesses : List Access) (hbase : (base.eval (.standard now) s).value = .error e) :
    ((follow base accesses).eval (.standard now) s).value = .error e := by
  induction accesses generalizing base with
  | nil => exact hbase
  | cons a accesses ih => exact ih ((strictPart_on now s base a).value_eval hbase)

end Access

/-! ## Paths of steps -/

open Access in
/-- An expression that follows a path from the value of a document, by fields, positions and calls of `get` in any order, comes to
the value of the part that the path leads to. If at some step the document has no such field or element, the expression comes to an
error about fields or about positions, whatever steps are left. -/
theorem eval_follow (now : Calendar.Instant) (s : Scope) {base : Expr} {j : Json}
    (hbase : (base.eval (.standard now) s).value = .ofJson j) {accesses : List Access} {path : List PathStep}
    (hpath : List.Forall₂ (Takes now s) accesses path) :
    (∀ part, j.at? path = some part → ((follow base accesses).eval (.standard now) s).value = .ofJson part) ∧
      ∀ before step after reached kind, path = before ++ step :: after → j.at? before = some reached →
        reached.Lacks step kind →
          ∃ e : EvalError, e.kind = kind ∧ ((follow base accesses).eval (.standard now) s).value = .error e := by
  induction hpath generalizing base j with
  | nil =>
    refine ⟨fun part hpart => ?_, fun before step after _ _ hsplit => ?_⟩
    · obtain rfl := Option.some.inj hpart
      exact hbase
    · exact absurd hsplit.symm (List.append_ne_nil_of_right_ne_nil before (List.cons_ne_nil step after))
  | @cons a step accesses path ha hpath ih =>
    have hanswers := answers_on hbase ha
    refine ⟨fun part hpart => ?_, fun before step' after reached kind hsplit hreached hlacks => ?_⟩
    · obtain ⟨next, hnext, hrest⟩ := Option.bind_eq_some_iff.1 hpart
      exact (ih (hanswers.eq_ofJson hnext)).1 part hrest
    · cases before with
      | nil =>
        obtain ⟨rfl, rfl⟩ := List.cons.inj hsplit
        obtain rfl := Option.some.inj hreached
        obtain ⟨e, hkind, he⟩ := hanswers.error hlacks
        exact ⟨e, hkind, eval_follow_error accesses he⟩
      | cons first before =>
        obtain ⟨rfl, hafter⟩ := List.cons.inj hsplit
        obtain ⟨next, hnext, hrest⟩ := Option.bind_eq_some_iff.1 hreached
        exact (ih (hanswers.eq_ofJson hnext)).2 before step' after reached kind hafter hrest hlacks

/-- A list of two rows, of which the last has a list of its own. -/
def rowsDocument : Json :=
  .object [("rows", .array [.object [("n", .whole 1)], .object [("n", .array [.boolean true])]])]

/-- The last row is found by its place from the end and asked for its list; there is no third row, and no list of columns. -/
theorem eval_follow_rowsDocument :
    let now : Calendar.Instant := ⟨0, 0, by decide⟩
    let s : Scope := [[("v", .ofJson rowsDocument)]]
    let lastRow : List Access := [.field "rows", .index (.unary .minus (.literal (.number 1))), .get (.literal (.string "n"))]
    let thirdRow : List Access := [.get (.literal (.string "rows")), .get (.literal (.number 2)), .field "n"]
    let columns : List Access := [.index (.literal (.string "columns")), .index (.literal (.number 0))]
    List.Forall₂ (Access.Takes now s) lastRow [.key "rows", .place (-1), .key "n"] ∧
      List.Forall₂ (Access.Takes now s) thirdRow [.key "rows", .place 2, .key "n"] ∧
      List.Forall₂ (Access.Takes now s) columns [.key "columns", .place 0] ∧
      ((Access.follow (.var "v") lastRow).eval (.standard now) s).value = .ofJson (.array [.boolean true]) ∧
      (∃ e : EvalError, e.kind = .index ∧ ((Access.follow (.var "v") thirdRow).eval (.standard now) s).value = .error e) ∧
      ∃ e : EvalError, e.kind = .field ∧ ((Access.follow (.var "v") columns).eval (.standard now) s).value = .error e := by
  intro now s lastRow thirdRow columns
  have hplaces : truncateToWord (-1) = -1 ∧ truncateToWord 2 = 2 ∧ truncateToWord 0 = 0 := by decide +kernel
  obtain ⟨hlast, hthird, hfirst⟩ := hplaces
  have hbase : ((Expr.var "v").eval (.standard now) s).value = .ofJson rowsDocument := rfl
  have hlastRow : List.Forall₂ (Access.Takes now s) lastRow [.key "rows", .place (-1), .key "n"] :=
    .cons rfl (.cons (hlast ▸ .place (-1)) (.cons (.key "n") .nil))
  have hthirdRow : List.Forall₂ (Access.Takes now s) thirdRow [.key "rows", .place 2, .key "n"] :=
    .cons (.key "rows") (.cons (hthird ▸ .place 2) (.cons rfl .nil))
  have hcolumns : List.Forall₂ (Access.Takes now s) columns [.key "columns", .place 0] :=
    .cons (.key "columns") (.cons (hfirst ▸ .place 0) .nil)
  refine ⟨hlastRow, hthirdRow, hcolumns, ?_, ?_, ?_⟩
  · exact (eval_follow now s hbase hlastRow).1 _ rfl
  · exact (eval_follow now s hbase hthirdRow).2 [.key "rows"] (.place 2) [.key "n"] _ _ rfl rfl (.element rfl)
  · exact (eval_follow now s hbase hcolumns).2 [] (.key "columns") [.place 0] _ _ rfl rfl (.field rfl)

end CellExpr
