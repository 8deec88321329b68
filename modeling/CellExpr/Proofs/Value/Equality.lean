import CellExpr.Proofs.Evaluation.Strictness
import CellExpr.Proofs.Json.Equality
import CellExpr.Proofs.Json.WrittenForms

/-!
# Equality of values

Equality of values is symmetric and transitive, and a value equals itself just if no double among its elements is no number
(`equality_laws`). It does not depend on whether objects are known to be one and the same: an object has the same document as itself,
and so do its copies. The operators `==` and `!=` inherit the laws.
-/

namespace CellExpr

namespace Value

variable {a b c v : Value} {x y : Float}

/-! ## A partial equivalence -/

/-- What equals a value that is no array is that value, or both are doubles, or both are objects. -/
theorem eq_or_of_same (harray : ∀ items, a ≠ .array items) (h : a.same b = true) :
    b = a ∨ (∃ x y, a = .number x ∧ b = .number y ∧ (x == y) = true) ∨
      ∃ o p, a = .object o ∧ b = .object p ∧ ((object o).toJson == (object p).toJson) = true := by
  cases a with
  | array items => exact absurd rfl (harray items)
  | number x =>
    cases b with
    | number y => exact .inr (.inl ⟨x, y, rfl, rfl, h⟩)
    | _ => cases h
  | object o =>
    cases b with
    | object p => exact .inr (.inr ⟨o, p, rfl, rfl, h⟩)
    | _ => cases h
  | null =>
    cases b with
    | null => exact .inl rfl
    | _ => cases h
  | string | boolean | date | regex | error =>
    cases b <;> first
      | exact .inl (congrArg _ (eq_of_beq h).symm)
      | cases h

theorem same_symm (h : a.same b = true) : b.same a = true := by
  induction a using induction_elements generalizing b with
  | array items ih =>
    cases b with
    | array items' =>
      simp only [same, sameItems_iff] at h ⊢
      exact forall₂_symm (fun v hv _ => ih v hv) h
    | _ => cases h
  | other a harray =>
    rcases eq_or_of_same harray h with rfl | ⟨x, y, rfl, rfl, hxy⟩ | ⟨o, p, rfl, rfl, hop⟩
    · exact h
    · exact BEq.symm hxy
    · exact BEq.symm hop

theorem same_trans (h : a.same b = true) (h' : b.same c = true) : a.same c = true := by
  induction a using induction_elements generalizing b c with
  | array items ih =>
    cases b with
    | array items' =>
      cases c with
      | array items'' =>
        simp only [same, sameItems_iff] at h h' ⊢
        exact forall₂_trans (fun v hv _ _ => ih v hv) h h'
      | _ => cases h'
    | _ => cases h
  | other a harray =>
    rcases eq_or_of_same harray h with rfl | ⟨x, y, rfl, rfl, hxy⟩ | ⟨o, p, rfl, rfl, hop⟩
    · exact h'
    · cases c with
      | number z => exact BEq.trans hxy h'
      | _ => cases h'
    · cases c with
      | object q => exact BEq.trans hop h'
      | _ => cases h'

theorem same_comm (a b : Value) : a.same b = b.same a := by
  rw [Bool.eq_iff_iff]
  exact ⟨same_symm, same_symm⟩

/-- What equals something equals itself. -/
theorem same_self_of_same (h : a.same b = true) : b.same b = true := same_trans (same_symm h) h

/-! ## Values that equal themselves -/

/-- `v.InRecord x`: the double stands in a JSON object that the value is or has in it, at any depth. -/
inductive InRecord : Value → Float → Prop where
  | record {fields : List (String × Json)} {x : Float} (h : (Json.object fields).Holds x) : InRecord (.object (.record fields)) x
  | element {items : List Value} {v : Value} {x : Float} (hv : v ∈ items) (h : InRecord v x) : InRecord (.array items) x
  | cell {v : Value} {x : Float} (h : InRecord v x) : InRecord (.object (.cell v)) x
  | cells {r : Row Value} {column : String} {v : Value} {x : Float} (hv : (column, v) ∈ r.cells) (h : InRecord v x) :
      InRecord (.object (.cells r)) x
  | row {r : Row Value} {column : String} {v : Value} {x : Float} (hv : (column, v) ∈ r.cells) (h : InRecord v x) :
      InRecord (.object (.row r)) x

/-- The JSON objects in the value are such as JSON has: all doubles in them are finite. -/
def FiniteRecords (v : Value) : Prop := ∀ x, v.InRecord x → x.isFinite = true

theorem mem_ofFields {named : List (String × Json)} {field : String × Json} (h : field ∈ Json.ofFields named) : field ∈ named := by
  induction named using List.reverseRecOn with
  | nil => cases h
  | append_singleton named last ih =>
    rw [Json.ofFields, List.foldl_append] at h
    rcases Json.mem_setField h with rfl | h
    · exact List.mem_append_right _ List.mem_cons_self
    · exact List.mem_append_left _ (ih h)

theorem valuesToJson_eq_map (cells : List (String × Value)) :
    valuesToJson cells = cells.map fun cell => (cell.1, cell.2.toJson) := by
  induction cells with
  | nil => rfl
  | cons cell cells ih => rw [valuesToJson, ih, List.map_cons]

theorem cellsToJson_eq_map (cells : List (String × Value)) :
    cellsToJson cells = cells.map fun cell => (cell.1, .object [("value", cell.2.toJson)]) := by
  induction cells with
  | nil => rfl
  | cons cell cells ih => rw [cellsToJson, ih, List.map_cons]

theorem sizeOf_lt_of_mem_cells {r : Row Value} {cell : String × Value} (h : cell ∈ r.cells) : sizeOf cell.2 < sizeOf r := by
  obtain ⟨index, starred, flagged, cells⟩ := r
  obtain ⟨column, v⟩ := cell
  have hsize := List.sizeOf_lt_of_mem h
  simp only [Prod.mk.sizeOf_spec] at hsize
  simp only [Row.mk.sizeOf_spec]
  omega

/-- What holds of arrays and objects if it holds of all that they are made of, and of every other value, holds of all values. -/
theorem induction_contents {motive : Value → Prop} (array : ∀ items, (∀ v ∈ items, motive v) → motive (.array items))
    (cell : ∀ v, motive v → motive (.object (.cell v)))
    (cells : ∀ r : Row Value, (∀ cell ∈ r.cells, motive cell.2) → motive (.object (.cells r)))
    (row : ∀ r : Row Value, (∀ cell ∈ r.cells, motive cell.2) → motive (.object (.row r)))
    (record : ∀ fields, motive (.object (.record fields)))
    (scalar : ∀ v, (∀ items, v ≠ .array items) → (∀ o, v ≠ .object o) → motive v) (v : Value) : motive v :=
  match v with
  | .array items => array items fun v _ => induction_contents array cell cells row record scalar v
  | .object (.cell v) => cell v (induction_contents array cell cells row record scalar v)
  | .object (.cells r) => cells r fun c _ => induction_contents array cell cells row record scalar c.2
  | .object (.row r) => row r fun c _ => induction_contents array cell cells row record scalar c.2
  | .object (.record fields) => record fields
  | .string _ | .number _ | .boolean _ | .date _ | .regex _ | .error _ | .null => scalar _ nofun nofun
termination_by sizeOf v
decreasing_by
  · rename_i hv
    have hsize := List.sizeOf_lt_of_mem hv
    simp only [Value.array.sizeOf_spec]
    omega
  · simp only [Value.object.sizeOf_spec, HostObject.cell.sizeOf_spec]
    omega
  · rename_i hc
    have hsize := sizeOf_lt_of_mem_cells hc
    simp only [Value.object.sizeOf_spec, HostObject.cells.sizeOf_spec]
    omega
  · rename_i hc
    have hsize := sizeOf_lt_of_mem_cells hc
    simp only [Value.object.sizeOf_spec, HostObject.row.sizeOf_spec]
    omega

/-- A double in the document of a value is finite, or it stands in a JSON object. -/
theorem isFinite_or_inRecord (hx : v.toJson.Holds x) : x.isFinite = true ∨ v.InRecord x := by
  induction v using induction_contents with
  | array items ih =>
    rw [toJson, itemsToJson_eq_map] at hx
    cases hx with
    | item hitem hx =>
      obtain ⟨v, hv, rfl⟩ := List.mem_map.1 hitem
      exact (ih v hv hx).imp_right (.element hv)
  | cell v ih =>
    cases hx with
    | field hfield hx =>
      obtain rfl := List.mem_singleton.1 hfield
      exact (ih hx).imp_right .cell
  | cells r ih =>
    rw [toJson, cellsToJson_eq_map] at hx
    cases hx with
    | field hfield hx =>
      obtain ⟨⟨column, v⟩, hcell, rfl⟩ := List.mem_map.1 (mem_ofFields hfield)
      cases hx with
      | field hfield hx =>
        obtain rfl := List.mem_singleton.1 hfield
        exact (ih _ hcell hx).imp_right (.cells hcell)
  | row r ih =>
    rw [toJson, valuesToJson_eq_map] at hx
    cases hx with
    | field hfield hx =>
      simp only [List.mem_cons, List.not_mem_nil, or_false] at hfield
      rcases hfield with rfl | rfl | rfl | rfl
      · cases hx
      · cases hx
      · cases hx
      · cases hx with
        | field hfield hx =>
          obtain ⟨⟨column, v⟩, hcell, rfl⟩ := List.mem_map.1 (mem_ofFields hfield)
          exact (ih _ hcell hx).imp_right (.row hcell)
  | record fields => exact .inr (.record hx)
  | scalar v harray hobject =>
    cases v with
    | array items => exact absurd rfl (harray items)
    | object o => exact absurd rfl (hobject o)
    | number y =>
      rw [toJson] at hx
      split at hx
      · cases hx with
        | double => exact .inl ‹_›
      · cases hx
    | error e =>
      cases hx with
      | field hfield hx =>
        obtain rfl := List.mem_singleton.1 hfield
        cases hx
    | _ => cases hx

/-- The document of an object equals itself. -/
theorem FiniteRecords.toJson_beq_self (h : v.FiniteRecords) : (v.toJson == v.toJson) = true :=
  Json.beq_self_of_holds fun x hx => isNaN_of_isFinite ((isFinite_or_inRecord hx).elim id (h x))

/-- A value that equals itself shows no double that is no number. -/
theorem isNaN_of_same_self (h : v.same v = true) (hx : v.Shows x) : x.isNaN = false := by
  induction hx with
  | number x => exact beq_self_iff.1 h
  | element hv _ ih =>
    rw [same, sameItems_iff, List.forall₂_same] at h
    exact ih (h _ hv)

/-- A value equals itself just if all doubles that it shows are numbers. -/
theorem FiniteRecords.same_self_iff (h : v.FiniteRecords) : v.same v = true ↔ ∀ x, v.Shows x → x.isNaN = false := by
  refine ⟨fun hself x hx => isNaN_of_same_self hself hx, fun hnumbers => ?_⟩
  induction v using induction_elements with
  | array items ih =>
    rw [same, sameItems_iff, List.forall₂_same]
    exact fun v hv => ih v hv (fun x hx => h x (.element hv hx)) fun x hx => hnumbers x (.element hv hx)
  | other v harray =>
    cases v with
    | array items => exact absurd rfl (harray items)
    | number x => exact beq_self_iff.2 (hnumbers x (.number x))
    | object o => exact h.toJson_beq_self
    | null => rfl
    | string s => exact beq_self_eq_true s
    | boolean b => exact beq_self_eq_true b
    | date d => exact beq_self_eq_true d
    | regex r => exact beq_self_eq_true r
    | error e => exact beq_self_eq_true e

/-! ## Objects that are one and the same -/

/-- Which objects of two values are one and the same in memory. Each pair is given by the path on which both objects are met: the
places in arrays, the outer ones first. -/
abbrev Sharing := List Nat → Bool

/-- The objects that are one and the same inside the elements at a place. -/
def Sharing.under (shared : Sharing) (place : Nat) : Sharing := fun path => shared (place :: path)

mutual

/-- Equality of values that knows which objects are one and the same: these are equal whatever their documents are. -/
def sameBy : Sharing → Value → Value → Bool
  | _, string s, string t => s == t
  | _, number x, number y => x == y
  | _, boolean b, boolean c => b == c
  | _, date d, date e => d == e
  | shared, array as, array bs => as.length == bs.length && sameItemsBy shared 0 as bs
  | _, regex r, regex q => r == q
  | _, error e, error f => e == f
  | _, null, null => true
  | shared, object o, object p => shared [] || (object o).toJson == (object p).toJson
  | _, _, _ => false

/-- Whether two lists have equal elements from a place on, as far as both go. -/
def sameItemsBy : Sharing → (place : Nat) → List Value → List Value → Bool
  | shared, place, a :: as, b :: bs => sameBy (shared.under place) a b && sameItemsBy shared (place + 1) as bs
  | _, _, _, _ => true

end

mutual

/-- Structural equality of values: it takes arrays apart by itself and leaves all other values to `sameBy`. -/
def structurallySame : Sharing → Value → Value → Bool
  | shared, array as, array bs => as.length == bs.length && structurallySameItems shared 0 as bs
  | shared, a, b => sameBy shared a b

/-- Whether two lists have structurally equal elements from a place on, as far as both go. -/
def structurallySameItems : Sharing → (place : Nat) → List Value → List Value → Bool
  | shared, place, a :: as, b :: bs => structurallySame (shared.under place) a b && structurallySameItems shared (place + 1) as bs
  | _, _, _, _ => true

end

/-- `Meets a b path o p`: on the path the first value has the one object and the second value has the other. -/
inductive Meets : Value → Value → List Nat → HostObject Value → HostObject Value → Prop where
  | here (o p : HostObject Value) : Meets (.object o) (.object p) [] o p
  | element {as bs : List Value} {a b : Value} {place : Nat} {path : List Nat} {o p : HostObject Value}
      (ha : as[place]? = some a) (hb : bs[place]? = some b) (h : Meets a b path o p) :
      Meets (.array as) (.array bs) (place :: path) o p

/-- Objects that are one and the same are the same. -/
def Sharing.Agrees (shared : Sharing) (a b : Value) : Prop := ∀ path o p, Meets a b path o p → shared path = true → o = p

/-- A value and itself have the same object on each path. -/
theorem Meets.eq_of_self {path : List Nat} {o p : HostObject Value} (h : Meets v v path o p) : o = p := by
  induction path generalizing v with
  | nil =>
    cases h
    rfl
  | cons place path ih =>
    cases h with
    | element ha hb h =>
      rw [ha] at hb
      obtain rfl := Option.some.inj hb
      exact ih h

theorem structurallySame_eq (shared : Sharing) (a b : Value) : structurallySame shared a b = sameBy shared a b := by
  induction a using induction_elements generalizing shared b with
  | array as ih =>
    cases b with
    | array bs =>
      have hitems : ∀ place bs, structurallySameItems shared place as bs = sameItemsBy shared place as bs := by
        induction as with
        | nil => intro place bs; rfl
        | cons a as ihrest =>
          intro place bs
          obtain ⟨ha, has⟩ := List.forall_mem_cons.1 ih
          cases bs with
          | nil => rfl
          | cons b bs => rw [structurallySameItems, sameItemsBy, ha, ihrest has]
      rw [structurallySame, sameBy, hitems]
    | _ => rfl
  | other a harray =>
    cases a with
    | array items => exact absurd rfl (harray items)
    | _ => rfl

/-- Lists whose elements are equal place by place are equal if they are equally long. -/
theorem sameItemsBy_eq {shared : Sharing} {as bs : List Value} (place : Nat)
    (h : ∀ i a b, as[i]? = some a → bs[i]? = some b → sameBy (shared.under (place + i)) a b = a.same b) :
    (as.length == bs.length && sameItemsBy shared place as bs) = sameItems as bs := by
  induction as generalizing place bs with
  | nil => cases bs <;> simp [sameItemsBy, sameItems]
  | cons a as ih =>
    cases bs with
    | nil => simp [sameItems]
    | cons b bs =>
      have hfirst : sameBy (shared.under place) a b = a.same b := h 0 a b rfl rfl
      have hrest : (as.length == bs.length && sameItemsBy shared (place + 1) as bs) = sameItems as bs := by
        refine ih (place + 1) fun i a b ha hb => ?_
        rw [Nat.add_right_comm]
        exact h (i + 1) a b ha hb
      rw [sameItemsBy, sameItems, hfirst, ← hrest, Bool.and_left_comm]
      simp

theorem sameBy_eq (shared : Sharing) (hagrees : shared.Agrees a b) (h : a.FiniteRecords) : sameBy shared a b = a.same b := by
  induction a using induction_elements generalizing shared b with
  | array as ih =>
    cases b with
    | array bs =>
      rw [sameBy, same]
      refine sameItemsBy_eq 0 fun i a b ha hb => ?_
      have hmem : a ∈ as := List.mem_of_getElem? ha
      rw [Nat.zero_add]
      exact ih a hmem (shared.under i) (fun path o p hmeets => hagrees (i :: path) o p (.element ha hb hmeets))
        fun x hx => h x (.element hmem hx)
    | _ => rfl
  | other a harray =>
    cases a with
    | array items => exact absurd rfl (harray items)
    | object o =>
      cases b with
      | object p =>
        rw [sameBy, same]
        cases hshared : shared [] with
        | false => rfl
        | true =>
          obtain rfl := hagrees [] o p (.here o p) hshared
          rw [h.toJson_beq_self]
          rfl
      | _ => rfl
    | _ => cases b <;> rfl


/-! ## The operators -/

/-- Values of one kind are compared by their contents. -/
theorem equals_of_kind_eq (h : a.kind = b.kind) : a.equals b = .ok (a.same b) := by
  cases a <;> cases b <;> first
    | rfl
    | cases h

theorem equals_comm (a b : Value) : a.equals b = b.equals a := by
  by_cases hkind : a.kind = b.kind
  · rw [equals_of_kind_eq hkind, equals_of_kind_eq hkind.symm, same_comm]
  · cases a <;> cases b <;> first
      | rfl
      | exact absurd rfl hkind
      | simp only [equals, BEq.comm]

theorem eq_apply (ha : a.isError = false) (hb : b.isError = false) : BinaryOp.eq.apply a b = (a.equals b).map .boolean := by
  cases a with
  | error => cases ha
  | _ =>
    cases b with
    | error => cases hb
    | _ => rfl

theorem ne_apply (ha : a.isError = false) (hb : b.isError = false) :
    BinaryOp.ne.apply a b = (a.equals b).map fun equal => .boolean !equal := by
  cases a with
  | error => cases ha
  | _ =>
    cases b with
    | error => cases hb
    | _ => rfl

/-- The two operators come to the same error, or to opposite truth values. -/
theorem eq_apply_ne_apply (a b : Value) :
    (∃ e, BinaryOp.eq.apply a b = .error e ∧ BinaryOp.ne.apply a b = .error e) ∨
      ∃ equal, BinaryOp.eq.apply a b = .ok (.boolean equal) ∧ BinaryOp.ne.apply a b = .ok (.boolean !equal) := by
  cases ha : a.isError with
  | true =>
    cases a with
    | error e => exact .inl ⟨e, rfl, rfl⟩
    | _ => cases ha
  | false =>
    cases hb : b.isError with
    | true =>
      cases b with
      | error e => exact .inl ⟨e, BinaryOp.apply_error _ ha, BinaryOp.apply_error _ ha⟩
      | _ => cases hb
    | false =>
      rw [eq_apply ha hb, ne_apply ha hb]
      cases a.equals b with
      | error e => exact .inl ⟨e, rfl, rfl⟩
      | ok equal => exact .inr ⟨equal, rfl, rfl⟩

/-- Structural equality is equality of values, and neither depends on which objects are one and the same. Equality is symmetric and
transitive, and a value equals itself just if all doubles that it shows are numbers. So `==` has the same outcome with its operands
swapped, compares values of one kind by their contents, and comes to the same error as `!=` or to the opposite truth value. -/
theorem equality_laws :
    (∀ shared a b, structurallySame shared a b = sameBy shared a b) ∧
      (∀ (shared : Sharing) a b, shared.Agrees a b → a.FiniteRecords → sameBy shared a b = a.same b) ∧
      (∀ a b : Value, a.same b = b.same a) ∧
      (∀ a b c : Value, a.same b = true → b.same c = true → a.same c = true) ∧
      (∀ shared (v : Value), v.FiniteRecords →
        (structurallySame shared v v = true ↔ ∀ x, v.Shows x → x.isNaN = false)) ∧
      (∀ a b : Value, a.equals b = b.equals a) ∧
      (∀ a b : Value, a.kind = b.kind → a.equals b = .ok (a.same b)) ∧
      (∀ a b : Value, a.isError = false → b.isError = false → BinaryOp.eq.apply a b = (a.equals b).map .boolean) ∧
      ∀ a b, (∃ e, BinaryOp.eq.apply a b = .error e ∧ BinaryOp.ne.apply a b = .error e) ∨
        ∃ equal, BinaryOp.eq.apply a b = .ok (.boolean equal) ∧ BinaryOp.ne.apply a b = .ok (.boolean !equal) := by
  refine ⟨structurallySame_eq, fun shared a b hagrees h => sameBy_eq shared hagrees h, same_comm, fun a b c => same_trans,
    fun shared v h => ?_, equals_comm, fun a b => equals_of_kind_eq, fun a b => eq_apply, eq_apply_ne_apply⟩
  have hself : shared.Agrees v v := fun path o p hmeets _ => hmeets.eq_of_self
  rw [structurallySame_eq, sameBy_eq shared hself h]
  exact h.same_self_iff

/-- An array with a cell that holds a double that is no number, and a zero. -/
def cellAndZero (zero : Float) : Value := .array [.object (.cell (.number Number.notANumber)), .number zero]

/-- An array in an array, with a double that is no number. -/
def nestedNaN : Value := .array [.array [.number Number.notANumber]]

theorem finiteRecords_cellAndZero (zero : Float) : (cellAndZero zero).FiniteRecords := by
  intro x hx
  cases hx with
  | element hv hx =>
    obtain rfl | rfl := List.mem_pair.1 hv
    · cases hx with
      | cell hx => cases hx
    · cases hx

theorem finiteRecords_nestedNaN : nestedNaN.FiniteRecords := by
  intro x hx
  cases hx with
  | element hv hx =>
    obtain rfl := List.mem_singleton.1 hv
    cases hx with
    | element hv hx =>
      obtain rfl := List.mem_singleton.1 hv
      cases hx

/-- The cell may be one and the same in both arrays. What stands in it is not shown, so that the first array equals itself, and the
zero with a sign equals the one without. The array in an array shows what is no number, and differs from itself. -/
theorem equality_laws_cellAndZero :
    let cellShared : Sharing := fun path => path == [0]
    cellShared.Agrees (cellAndZero 0) (cellAndZero (-0)) ∧ (cellAndZero 0).FiniteRecords ∧ nestedNaN.FiniteRecords ∧
      sameBy cellShared (cellAndZero 0) (cellAndZero (-0)) = true ∧
      structurallySame cellShared (cellAndZero 0) (cellAndZero 0) = true ∧
      ¬structurallySame cellShared nestedNaN nestedNaN = true ∧
      (cellAndZero 0).same (cellAndZero 0) = true ∧
      (cellAndZero 0).equals (cellAndZero (-0)) = .ok true ∧
      BinaryOp.eq.apply (cellAndZero 0) (cellAndZero (-0)) = .ok (.boolean true) := by
  intro cellShared
  have hagrees : cellShared.Agrees (cellAndZero 0) (cellAndZero (-0)) := by
    intro path o p hmeets hshared
    obtain rfl : path = [0] := by simpa [cellShared] using hshared
    cases hmeets with
    | element ha hb hmeets =>
      obtain rfl := Option.some.inj ha
      obtain rfl := Option.some.inj hb
      cases hmeets
      rfl
  have hfinite := finiteRecords_cellAndZero 0
  obtain ⟨_, hsameBy, hcomm, htrans, hself, _, hkind, hop, _⟩ := equality_laws
  have hsame : (cellAndZero 0).same (cellAndZero (-0)) = true := rfl
  have hnumbers : ∀ x, (cellAndZero 0).Shows x → x.isNaN = false := by
    intro x hx
    cases hx with
    | element hv hx =>
      obtain rfl | rfl := List.mem_pair.1 hv
      · cases hx
      · cases hx with
        | number => decide
  have hshows : nestedNaN.Shows Number.notANumber := .element List.mem_cons_self (.element List.mem_cons_self (.number _))
  have hnested : ¬structurallySame cellShared nestedNaN nestedNaN = true := by
    intro hself'
    have hnumber := (hself cellShared _ finiteRecords_nestedNaN).1 hself' _ hshows
    exact absurd hnumber (by decide)
  have hequals : (cellAndZero 0).equals (cellAndZero (-0)) = .ok true := by
    rw [hkind (cellAndZero 0) (cellAndZero (-0)) rfl, hsame]
  refine ⟨hagrees, hfinite, finiteRecords_nestedNaN, ?_, (hself cellShared _ hfinite).2 hnumbers, hnested,
    htrans _ _ _ hsame ?_, hequals, ?_⟩
  · rw [hsameBy _ _ _ hagrees hfinite, hsame]
  · rw [hcomm, hsame]
  · rw [hop _ _ rfl rfl, hequals]
    rfl

end Value

end CellExpr
