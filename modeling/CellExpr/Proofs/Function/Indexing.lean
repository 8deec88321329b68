import CellExpr.Proofs.Evaluation.Selection
import CellExpr.Proofs.Function.Stretches
import CellExpr.Proofs.Json.Paths

/-!
# Elements of texts and arrays

A position in brackets and a call of `get` with a number find the same element of a text or an array, or both report an error about
positions (`eval_element`). What is found is told by the whole part of the number (`Selects`). A double that is no number has no
whole part, but truncation takes it for zero, so that it finds the first element (`eval_element_notANumber`).
-/

namespace CellExpr

open CellExpr.Number

/-! ## Places -/

/-- The place in a sequence of some length that a number selects: its whole part, counted from the end if it is negative. What is no
number selects the first place. -/
inductive Selects (length : Nat) (x : Float) : Nat → Prop
  | front {t : Int} (ht : whole? x = some t) (hnonneg : 0 ≤ t) (hlt : t < length) : Selects length x t.toNat
  | back {t : Int} (ht : whole? x = some t) (hneg : t < 0) (hle : -length ≤ t) : Selects length x (length + t).toNat
  | first (hnan : x.isNaN = true) (hpos : 0 < length) : Selects length x 0

theorem place?_eq_some_iff {length i : Nat} {t : Int} :
    place? length t = some i ↔ 0 ≤ t ∧ t < length ∧ i = t.toNat ∨ t < 0 ∧ -length ≤ t ∧ i = (length + t).toNat := by
  unfold place?
  split
  · split <;> simp only [Option.some.injEq, reduceCtorEq, false_iff] <;> omega
  · split <;> simp only [Option.some.injEq, reduceCtorEq, false_iff] <;> omega

/-- Where a sequence has no more elements than 64 bits can count, holding a whole part between the bounds of these changes nothing. -/
theorem place?_truncateToWord_iff {length i : Nat} {x : Float} (hlength : (length : Int) ≤ maxWord) :
    place? length (truncateToWord x) = some i ↔ Selects length x i := by
  have hword : minWord = -maxWord - 1 := by decide
  rw [place?_eq_some_iff]
  constructor
  · intro hplace
    rcases truncateToWord_cases x with ⟨t, ht, _, htruncated⟩ | ⟨_, ⟨hnan, htruncated⟩ | ⟨_, htruncated⟩⟩
    · rcases hplace with ⟨hnonneg, hlt, rfl⟩ | ⟨hneg, hle, rfl⟩
      · rw [show truncateToWord x = t by omega] at *
        exact .front ht hnonneg hlt
      · rw [show truncateToWord x = t by omega] at *
        exact .back ht hneg hle
    · obtain rfl : i = 0 := by omega
      exact .first hnan (by omega)
    · omega
  · intro hselects
    cases hselects with
    | front ht hnonneg hlt =>
      rw [truncateToWord_of_whole? ht]
      omega
    | back ht hneg hle =>
      rw [truncateToWord_of_whole? ht]
      omega
    | first hnan hpos =>
      rw [truncateToWord_of_isNaN hnan]
      omega

/-! ## Elements -/

/-- The value is a text with some characters, each a text of its own, or the array of some elements. -/
inductive Value.IsSequence : Value → List Value → Prop
  | text (s : String) : IsSequence (.string s) (s.toList.map fun c => .ofChars [c])
  | array (items : List Value) : IsSequence (.array items) items

/-- The element that a number selects, or the fault that there is none. -/
def elementOr (f : Fault) (elements : List Value) (x : Float) : Value :=
  ((placeOf? elements.length x).bind fun i => elements[i]?).getD (.error f.toError)

/-- Taking the element at a place, where each element is given by a function. -/
theorem value_elementAt_map {α : Type} (f : Fault) (items : List α) (g : α → Value) (x : Float) :
    (Outcome.toTraced (do
      let i ← .orFault f (placeOf? items.length x)
      return g (← .elementAt items i))).value = elementOr f (items.map g) x := by
  rw [elementOr, List.length_map]
  cases hplace : placeOf? items.length x with
  | none => rfl
  | some i =>
    have hlt : i < items.length := place?_lt hplace
    show (Outcome.toTraced (do return g (← .elementAt items i))).value = _
    rw [Outcome.elementAt_of_lt hlt, Option.bind_some, List.getElem?_map, List.getElem?_eq_getElem hlt]
    rfl

variable {r : Registry} {now : Calendar.Instant} {s : Scope} {base position : Expr} {v : Value} {elements : List Value} {x : Float}

theorem value_atPosition (h : v.IsSequence elements) :
    (v.atPosition (.number x)).toTraced.value = elementOr (.outOfRange (Number.text x) elements.length) elements x := by
  cases h with
  | text t =>
    show (Outcome.toTraced (do
      let c ← Outcome.elementAt t.toList (← Value.placeIn (.number x) t.toList.length)
      return .string c.toString)).value = _
    rw [Value.placeIn_number, List.length_map]
    exact value_elementAt_map _ t.toList (fun c => .ofChars [c]) x
  | array =>
    show (Outcome.toTraced (do Outcome.elementAt elements (← Value.placeIn (.number x) elements.length))).value = _
    rw [Value.placeIn_number]
    exact Outcome.value_elementAt _ elements x

theorem value_call_get (h : v.IsSequence elements) :
    ((Registry.standard now).call "get" [v, .number x] s).value = elementOr (.outsideSequence (Number.text x)) elements x := by
  cases h with
  | text t =>
    show (Outcome.toTraced (do
      let place ← .orFault (.outsideSequence (Number.text x)) (← Outcome.placeOf t.toList.length x)
      return .ofChars [← .elementAt t.toList place])).value = _
    rw [Outcome.placeOf_eq]
    exact value_elementAt_map _ t.toList (fun c => .ofChars [c]) x
  | array =>
    show (Outcome.toTraced (do
      let place ← .orFault (.outsideSequence (Number.text x)) (← Outcome.placeOf elements.length x)
      Outcome.elementAt elements place)).value = _
    rw [Outcome.placeOf_eq]
    exact Outcome.value_elementAt _ elements x

theorem elementOr_of_selects (f : Fault) {i : Nat} (hlength : (elements.length : Int) ≤ maxWord) (h : Selects elements.length x i) :
    ∃ hi : i < elements.length, elementOr f elements x = elements[i] := by
  have hplace : placeOf? elements.length x = some i := (place?_truncateToWord_iff hlength).2 h
  have hlt := place?_lt hplace
  refine ⟨hlt, ?_⟩
  rw [elementOr, hplace, Option.bind_some, List.getElem?_eq_getElem hlt, Option.getD_some]

theorem elementOr_of_not_selects (f : Fault) (hlength : (elements.length : Int) ≤ maxWord)
    (h : ∀ i, ¬Selects elements.length x i) : elementOr f elements x = .error f.toError := by
  have hplace : placeOf? elements.length x = none :=
    Option.eq_none_iff_forall_ne_some.2 fun i hi => h i ((place?_truncateToWord_iff hlength).1 hi)
  rw [elementOr, hplace, Option.bind_none, Option.getD_none]

/-! ## Expressions -/

theorem Value.IsSequence.isError (h : v.IsSequence elements) : v.isError = false := by
  cases h <;> rfl

theorem value_index (hbase : (base.eval r s).value = v) (hposition : (position.eval r s).value = .number x)
    (h : v.IsSequence elements) :
    ((Expr.index base position).eval r s).value = elementOr (.outOfRange (Number.text x) elements.length) elements x := by
  rw [Expr.eval, Traced.unlessError_of_not_error (hbase ▸ h.isError)]
  show ((base.eval r s).value.atPosition (position.eval r s).value).toTraced.value = _
  rw [hbase, hposition, value_atPosition h]

theorem value_get (hbase : (base.eval (.standard now) s).value = v) (hposition : (position.eval (.standard now) s).value = .number x)
    (h : v.IsSequence elements) :
    ((Expr.call "get" [base, position]).eval (.standard now) s).value = elementOr (.outsideSequence (Number.text x)) elements x := by
  rw [(Expr.eval_call "get" [base, position]).1]
  show ((Registry.standard now).call "get" [(base.eval (.standard now) s).value, (position.eval (.standard now) s).value] s).value = _
  rw [hbase, hposition, value_call_get h]

/-- A position in brackets and `get` come to the same element of a text or an array if the number selects a place of it, and both to
an error about positions if it selects none. -/
theorem eval_element (now : Calendar.Instant) (s : Scope) {base position : Expr} {v : Value} {elements : List Value} {x : Float}
    (hbase : (base.eval (.standard now) s).value = v) (hposition : (position.eval (.standard now) s).value = .number x)
    (hsequence : v.IsSequence elements) (hlength : (elements.length : Int) ≤ maxWord) :
    (∀ i, Selects elements.length x i → ∃ hi : i < elements.length,
      ((Expr.index base position).eval (.standard now) s).value = elements[i] ∧
        ((Expr.call "get" [base, position]).eval (.standard now) s).value = elements[i]) ∧
      ((∀ i, ¬Selects elements.length x i) →
        (∃ e : EvalError, e.kind = .index ∧ ((Expr.index base position).eval (.standard now) s).value = .error e) ∧
          ∃ e : EvalError, e.kind = .index ∧ ((Expr.call "get" [base, position]).eval (.standard now) s).value = .error e) := by
  have hindex := value_index hbase hposition hsequence
  have hget := value_get hbase hposition hsequence
  refine ⟨fun i hi => ?_, fun hnone => ⟨?_, ?_⟩⟩
  · obtain ⟨hlt, helement⟩ := elementOr_of_selects (.outOfRange (Number.text x) elements.length) hlength hi
    obtain ⟨_, helement'⟩ := elementOr_of_selects (.outsideSequence (Number.text x)) hlength hi
    exact ⟨hlt, hindex.trans helement, hget.trans helement'⟩
  · exact ⟨_, rfl, hindex.trans (elementOr_of_not_selects _ hlength hnone)⟩
  · exact ⟨_, rfl, hget.trans (elementOr_of_not_selects _ hlength hnone)⟩

/-- Minus one and a half counts from the end of an array; `2^70` is beyond it. -/
theorem eval_element_fromEnd :
    let now : Calendar.Instant := ⟨0, 0, by decide⟩
    let items : List Value := [.string "a", .null, .number 3]
    let s : Scope := [[("v", .array items), ("i", .number (-1.5)), ("j", .number 1180591620717411303424)]]
    Selects 3 (-1.5) 2 ∧ (∀ i, ¬Selects 3 1180591620717411303424 i) ∧
      ((Expr.index (.var "v") (.var "i")).eval (.standard now) s).value = .number 3 ∧
      ∃ e : EvalError, e.kind = .index ∧ ((Expr.call "get" [.var "v", .var "j"]).eval (.standard now) s).value = .error e := by
  intro now items s
  have hback : whole? (-1.5) = some (-1) := by decide +kernel
  have hbeyond : whole? 1180591620717411303424 = some 1180591620717411303424 := by decide +kernel
  have hselects : Selects 3 (-1.5) 2 := .back hback (by decide) (by decide)
  have hnone (i : Nat) : ¬Selects 3 1180591620717411303424 i := by
    rintro (⟨ht, -, hlt⟩ | ⟨ht, hneg, -⟩ | ⟨hnan, -⟩)
    · rw [hbeyond] at ht
      obtain rfl := Option.some.inj ht
      exact absurd hlt (by decide)
    · rw [hbeyond] at ht
      obtain rfl := Option.some.inj ht
      exact absurd hneg (by decide)
    · rw [isNaN_of_whole? hbeyond] at hnan
      cases hnan
  obtain ⟨hfound, -⟩ := @eval_element now s (.var "v") (.var "i") _ _ _ rfl rfl (.array items) (by decide)
  obtain ⟨-, hmissing⟩ := @eval_element now s (.var "v") (.var "j") _ _ _ rfl rfl (.array items) (by decide)
  exact ⟨hselects, hnone, (hfound 2 hselects).2.1, (hmissing hnone).2⟩

/-- What is no number selects no place by its whole part, and yet the first character is found: `"abc"[∞ - ∞]` is `"a"`. -/
theorem eval_element_notANumber :
    let now : Calendar.Instant := ⟨0, 0, by decide⟩
    let position : Expr := .binary .sub (.literal (.number infinity)) (.literal (.number infinity))
    (∃ x, (position.eval (.standard now) []).value = .number x ∧ whole? x = none) ∧
      ((Expr.index (.literal (.string "abc")) position).eval (.standard now) []).value = .string "a" ∧
      ((Expr.call "get" [.literal (.string "abc"), position]).eval (.standard now) []).value = .string "a" := by
  intro now position
  have hwhole : whole? (infinity - infinity) = none := by decide +kernel
  refine ⟨⟨infinity - infinity, rfl, hwhole⟩, ?_, ?_⟩
  · rfl
  · rfl

end CellExpr
