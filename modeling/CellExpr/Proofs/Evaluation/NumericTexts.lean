import CellExpr.Proofs.Function.Invocation
import CellExpr.Proofs.Number.Spellings
import CellExpr.Proofs.Value.Comparison

/-!
# Texts that are numbers

A text that spells a number in full, blank characters around it left aside, acts as the double nearest to it wherever a number is looked
for (`numeric_texts`): in `toNumber` and `isNumeric`, in arithmetic, and in sums and comparisons with a number. Any other text is refused
in each of these places; plus joins it to the number.
-/

namespace CellExpr

open CellExpr.Number

/-- The operators that calculate with two numbers, or texts that are numbers. -/
def BinaryOp.arithmetics : List BinaryOp := [.sub, .mul, .div, .mod]

/-- The operators that compare. -/
def BinaryOp.comparisons : List BinaryOp := [.eq, .ne, .lt, .gt, .le, .ge]

/-- A text acts as a number wherever a number is looked for. -/
structure ActsAs (r : Registry) (scope : Scope) (s : String) (x : Float) : Prop where
  toNumber : (r.call "toNumber" [.string s] scope).value = .number x
  isNumeric : (r.call "isNumeric" [.string s] scope).value = .boolean true
  arithmetic : ∀ op ∈ BinaryOp.arithmetics, ∀ v,
    op.apply (.string s) v = op.apply (.number x) v ∧ op.apply v (.string s) = op.apply v (.number x)
  withNumber : ∀ op ∈ .add :: BinaryOp.comparisons, ∀ y,
    op.apply (.string s) (.number y) = op.apply (.number x) (.number y) ∧
      op.apply (.number y) (.string s) = op.apply (.number y) (.number x)

/-- A text is refused wherever a number is looked for, and joined to a number by plus. -/
structure IsRefused (r : Registry) (scope : Scope) (s : String) : Prop where
  toNumber : (r.call "toNumber" [.string s] scope).value =
    .error { kind := .semantic, message := s!"cannot parse '{s}' as a number" }
  isNumeric : (r.call "isNumeric" [.string s] scope).value = .boolean false
  arithmetic : ∀ op ∈ BinaryOp.arithmetics, ∀ v, v.isError = false →
    op.apply (.string s) v = .fault (.expected "number") ∧ op.apply v (.string s) = .fault (.expected "number")
  comparison : ∀ op ∈ BinaryOp.comparisons, ∀ y,
    op.apply (.string s) (.number y) = .fault (.expected "number") ∧ op.apply (.number y) (.string s) = .fault (.expected "number")
  plus : ∀ y, BinaryOp.add.apply (.string s) (.number y) = .ok (.string (s ++ text y)) ∧
    BinaryOp.add.apply (.number y) (.string s) = .ok (.string (text y ++ s))

variable {s : String} {x : Float} {v : Value} {op : BinaryOp}

/-! ## Functions -/

theorem value_call_toNumber (now : Calendar.Instant) (scope : Scope) (s : String) :
    ((Registry.standard now).call "toNumber" [.string s] scope).value =
      match parse? s with
      | some x => .number x
      | none => .error { kind := .semantic, message := s!"cannot parse '{s}' as a number" } := by
  have hcall : ((Registry.standard now).call "toNumber" [.string s] scope).value =
      (ConversionFunctions.toNumber [.string s] scope).toTraced.value := rfl
  have hbody : ConversionFunctions.toNumber [.string s] scope = (Outcome.orFault (.notANumber s) (parse? s)).bind fun x =>
      .ok (.number x) := rfl
  rw [hcall, hbody]
  cases parse? s <;> rfl

theorem value_call_isNumeric (now : Calendar.Instant) (scope : Scope) (s : String) :
    ((Registry.standard now).call "isNumeric" [.string s] scope).value = .boolean (parse? s).isSome :=
  rfl

/-! ## Operators -/

namespace Value

variable {a b a' b' : Value} {y : Float}

theorem arithmetic_congr (f : Float → Float → Result Float) (ha : a.asNumber? = a'.asNumber?) (hb : b.asNumber? = b'.asNumber?) :
    arithmetic f a b = arithmetic f a' b' := by
  rw [arithmetic, ha, hb, arithmetic]

theorem arithmetic_eq_fault (f : Float → Float → Result Float) (h : a.asNumber? = none ∨ b.asNumber? = none) :
    arithmetic f a b = .fault (.expected "number") := by
  rcases h with h | h
  · rw [arithmetic, h]
  · rw [arithmetic, h]
    cases a.asNumber? <;> rfl

/-- What an operator does with two numbers, if it calculates. -/
def calculation? : BinaryOp → Option (Float → Float → Result Float)
  | .sub => some fun x y => .ok (x - y)
  | .mul => some fun x y => .ok (x * y)
  | .div => some (dividing (· / ·))
  | .mod => some (dividing remainder)
  | _ => none

theorem apply_of_calculation {f : Float → Float → Result Float} (hop : calculation? op = some f) (ha : a.isError = false)
    (hb : b.isError = false) : op.apply a b = arithmetic f a b := by
  cases a with
  | error => cases ha
  | _ =>
    cases b with
    | error => cases hb
    | _ => cases op <;> cases hop <;> rfl

theorem exists_calculation (hop : op ∈ BinaryOp.arithmetics) : ∃ f, calculation? op = some f := by
  simp only [BinaryOp.arithmetics, List.mem_cons, List.not_mem_nil, or_false] at hop
  rcases hop with rfl | rfl | rfl | rfl <;> exact ⟨_, rfl⟩

theorem apply_add (ha : a.isError = false) (hb : b.isError = false) : BinaryOp.add.apply a b = a.plus b := by
  cases a with
  | error => cases ha
  | _ =>
    cases b with
    | error => cases hb
    | _ => rfl

/-- An operator that compares looks at equality, or at the order, of its operands. -/
theorem exists_comparison (hop : op ∈ BinaryOp.comparisons) :
    (∃ f, ∀ a b : Value, a.isError = false → b.isError = false → op.apply a b = (a.equals b).map f) ∨
      ∃ f, ∀ a b : Value, a.isError = false → b.isError = false → op.apply a b = (a.compare b).map f := by
  simp only [BinaryOp.comparisons, List.mem_cons, List.not_mem_nil, or_false] at hop
  rcases hop with rfl | rfl | rfl | rfl | rfl | rfl
  · exact .inl ⟨_, fun _ _ => eq_apply⟩
  · exact .inl ⟨_, fun _ _ => ne_apply⟩
  · exact .inr ⟨_, fun _ _ => apply_of_test rfl⟩
  · exact .inr ⟨_, fun _ _ => apply_of_test rfl⟩
  · exact .inr ⟨_, fun _ _ => apply_of_test rfl⟩
  · exact .inr ⟨_, fun _ _ => apply_of_test rfl⟩

theorem plus_number (h : parse? s = some x) (y : Float) :
    (string s).plus (number y) = (number x).plus (number y) ∧ (number y).plus (string s) = (number y).plus (number x) := by
  simp only [plus, isText, arithmetic, asNumber?, h]
  exact ⟨rfl, rfl⟩

theorem equals_number (h : parse? s = some x) (y : Float) :
    (string s).equals (number y) = (number x).equals (number y) ∧ (number y).equals (string s) = (number y).equals (number x) := by
  simp only [equals, h]
  exact ⟨rfl, rfl⟩

theorem compare_number (h : parse? s = some x) (y : Float) :
    (string s).compare (number y) = (number x).compare (number y) ∧ (number y).compare (string s) = (number y).compare (number x) := by
  simp only [Value.compare, asNumber?, h, and_self]

end Value

/-! ## Texts -/

open Value

variable {now : Calendar.Instant} {scope : Scope}

/-- A text that is read as a number acts as it. -/
theorem actsAs_of_parse? (h : parse? s = some x) : ActsAs (Registry.standard now) scope s x where
  toNumber := by rw [value_call_toNumber, h]
  isNumeric := by
    rw [value_call_isNumeric, h]
    rfl
  arithmetic op hop v := by
    obtain ⟨f, hf⟩ := exists_calculation hop
    cases hv : v.isError with
    | true =>
      cases v with
      | error e => exact ⟨(BinaryOp.apply_error op rfl).trans (BinaryOp.apply_error op rfl).symm, rfl⟩
      | _ => cases hv
    | false =>
      rw [apply_of_calculation hf rfl hv, apply_of_calculation hf hv rfl, apply_of_calculation hf rfl hv, apply_of_calculation hf hv rfl]
      exact ⟨arithmetic_congr f h rfl, arithmetic_congr f rfl h⟩
  withNumber op hop y := by
    rcases List.mem_cons.1 hop with rfl | hop
    · rw [apply_add rfl rfl, apply_add rfl rfl, apply_add rfl rfl, apply_add rfl rfl]
      exact plus_number h y
    · rcases exists_comparison hop with ⟨f, hf⟩ | ⟨f, hf⟩
      · rw [hf _ _ rfl rfl, hf _ _ rfl rfl, hf _ _ rfl rfl, hf _ _ rfl rfl, (equals_number h y).1, (equals_number h y).2]
        exact ⟨rfl, rfl⟩
      · rw [hf _ _ rfl rfl, hf _ _ rfl rfl, hf _ _ rfl rfl, hf _ _ rfl rfl, (compare_number h y).1, (compare_number h y).2]
        exact ⟨rfl, rfl⟩

/-- A text that is not read is refused. -/
theorem isRefused_of_parse? (h : parse? s = none) : IsRefused (Registry.standard now) scope s where
  toNumber := by rw [value_call_toNumber, h]
  isNumeric := by
    rw [value_call_isNumeric, h]
    rfl
  arithmetic op hop v hv := by
    obtain ⟨f, hf⟩ := exists_calculation hop
    rw [apply_of_calculation hf rfl hv, apply_of_calculation hf hv rfl]
    exact ⟨arithmetic_eq_fault f (.inl h), arithmetic_eq_fault f (.inr h)⟩
  comparison op hop y := by
    rcases exists_comparison hop with ⟨f, hf⟩ | ⟨f, hf⟩
    · rw [hf _ _ rfl rfl, hf _ _ rfl rfl]
      simp only [equals, h]
      exact ⟨rfl, rfl⟩
    · rw [hf _ _ rfl rfl, hf _ _ rfl rfl]
      simp only [Value.compare, asNumber?, h]
      exact ⟨rfl, rfl⟩
  plus y := by
    rw [apply_add rfl rfl, apply_add rfl rfl]
    simp only [Value.plus, isText, asNumber?, h]
    exact ⟨rfl, rfl⟩

/-- A text is a number if and only if it spells one between blank characters, and its value is the nearest double; a character other than
digits, points, signs and the letter of the power makes it none. A text that is a number acts as its value, and any other is refused. -/
theorem numeric_texts (now : Calendar.Instant) (scope : Scope) (s : String) :
    (∀ x, parse? s = some x ↔ ∃ negative q, Spells (Text.trim s.toList) negative q ∧ IsNearest x negative q) ∧
      ((∃ c ∈ Text.trim s.toList, isDigit c = false ∧ c ∉ ['.', '+', '-', 'e', 'E']) → parse? s = none) ∧
      (∀ x, parse? s = some x ↔ ActsAs (Registry.standard now) scope s x) ∧
      (parse? s = none ↔ IsRefused (Registry.standard now) scope s) := by
  have hspells (x : Float) : parse? s = some x ↔ ∃ negative q, Spells (Text.trim s.toList) negative q ∧ IsNearest x negative q :=
    read?_eq_some_iff
  refine ⟨hspells, ?_, fun x => ⟨actsAs_of_parse?, fun hacts => ?_⟩, isRefused_of_parse?, fun hrefused => ?_⟩
  · rintro ⟨c, hc, hdigit, hother⟩
    refine Option.eq_none_iff_forall_ne_some.2 fun x hx => ?_
    obtain ⟨negative, q, hs, -⟩ := (hspells x).1 hx
    rcases hs.mem c hc with h | h
    · rw [hdigit] at h
      cases h
    · exact hother h
  · have hcall := hacts.toNumber
    rw [value_call_toNumber] at hcall
    cases hparse : parse? s with
    | none => rw [hparse] at hcall; cases hcall
    | some y => rw [hparse] at hcall; exact congrArg some (Value.number.inj hcall)
  · have hcall := hrefused.isNumeric
    rw [value_call_isNumeric] at hcall
    exact Option.isNone_iff_eq_none.1 (Option.isSome_eq_false_iff.1 (Value.boolean.inj hcall))

end CellExpr
