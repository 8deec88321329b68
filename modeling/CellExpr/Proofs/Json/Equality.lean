import CellExpr.Json.Document
import CellExpr.Proofs.Number.Order
import Mathlib.Data.List.Forall2

/-!
# Equality of documents

Equality of documents is symmetric and transitive, as equality of doubles is. It is not reflexive by itself: a double that is no
number differs from itself. A document whose doubles are all numbers equals itself (`beq_self_of_holds`).
-/

namespace CellExpr

open CellExpr.Number

/-! ## Doubles and lists -/

instance instPartialEquivBEqFloat : PartialEquivBEq Float where
  symm h := by
    simp only [beq_iff] at h ⊢
    exact ⟨h.2.1, h.1, h.2.2.symm⟩
  trans h h' := by
    simp only [beq_iff] at h h' ⊢
    exact ⟨h.1, h'.2.1, h.2.2.trans h'.2.2⟩

theorem beq_self_iff {x : Float} : (x == x) = true ↔ x.isNaN = false := by
  rw [beq_iff]
  exact ⟨fun h => h.1, fun h => ⟨h, h, rfl⟩⟩

section Lists

variable {α : Type} {R : α → α → Prop} {as bs cs : List α}

/-- Lists are related both ways at all places if the elements of one of them are related both ways. -/
theorem forall₂_symm (h : ∀ a ∈ as, ∀ b, R a b → R b a) (hab : List.Forall₂ R as bs) : List.Forall₂ R bs as := by
  induction hab with
  | nil => exact .nil
  | cons hfirst _ ih =>
    obtain ⟨ha, hrest⟩ := List.forall_mem_cons.1 h
    exact .cons (ha _ hfirst) (ih hrest)

theorem forall₂_trans (h : ∀ a ∈ as, ∀ b c, R a b → R b c → R a c) (hab : List.Forall₂ R as bs) (hbc : List.Forall₂ R bs cs) :
    List.Forall₂ R as cs := by
  induction hab generalizing cs with
  | nil =>
    cases hbc
    exact .nil
  | cons hfirst _ ih =>
    obtain ⟨ha, hrest⟩ := List.forall_mem_cons.1 h
    cases hbc with
    | cons hfirst' hbc => exact .cons (ha _ _ hfirst hfirst') (ih hrest hbc)

end Lists

namespace Json

variable {a b c j : Json} {x : Float}

/-- What holds of an array if it holds of its items, of an object if it holds of the values of its fields, and of every other
document, holds of all documents. -/
theorem induction_parts {motive : Json → Prop} (array : ∀ items, (∀ item ∈ items, motive item) → motive (.array items))
    (object : ∀ fields, (∀ field ∈ fields, motive field.2) → motive (.object fields))
    (scalar : ∀ j, (∀ items, j ≠ .array items) → (∀ fields, j ≠ .object fields) → motive j) (j : Json) : motive j :=
  match j with
  | .array items => array items fun item _ => induction_parts array object scalar item
  | .object fields => object fields fun field _ => induction_parts array object scalar field.2
  | .null | .boolean _ | .whole _ | .double _ | .string _ => scalar _ nofun nofun
termination_by sizeOf j
decreasing_by
  · rename_i hitem
    have hsize := List.sizeOf_lt_of_mem hitem
    simp only [Json.array.sizeOf_spec]
    omega
  · rename_i hfield
    have hsize := List.sizeOf_lt_of_mem hfield
    obtain ⟨name, value⟩ := field
    simp only [Prod.mk.sizeOf_spec] at hsize
    simp only [Json.object.sizeOf_spec]
    omega

/-! ## A partial equivalence -/

theorem identicalItems_iff {as bs : List Json} :
    identicalItems as bs = true ↔ List.Forall₂ (fun a b => identical a b = true) as bs := by
  induction as generalizing bs with
  | nil => cases bs <;> simp [identicalItems]
  | cons a as ih => cases bs <;> simp [identicalItems, ih]

theorem identicalFields_iff {as bs : List (String × Json)} :
    identicalFields as bs = true ↔ List.Forall₂ (fun a b => a.1 = b.1 ∧ identical a.2 b.2 = true) as bs := by
  induction as generalizing bs with
  | nil => cases bs <;> simp [identicalFields]
  | cons a as ih => cases bs <;> simp [identicalFields, ih]

/-- What equals a document without parts is that document, or both are doubles. -/
theorem eq_or_double_of_identical (harray : ∀ items, a ≠ .array items) (hobject : ∀ fields, a ≠ .object fields)
    (h : identical a b = true) : b = a ∨ ∃ x y, a = .double x ∧ b = .double y ∧ (x == y) = true := by
  cases a with
  | array items => exact absurd rfl (harray items)
  | object fields => exact absurd rfl (hobject fields)
  | double x =>
    cases b with
    | double y => exact .inr ⟨x, y, rfl, rfl, h⟩
    | _ => cases h
  | null =>
    cases b with
    | null => exact .inl rfl
    | _ => cases h
  | boolean | whole | string =>
    cases b <;> first
      | exact .inl (congrArg _ (eq_of_beq h).symm)
      | cases h

theorem identical_symm (h : identical a b = true) : identical b a = true := by
  induction a using induction_parts generalizing b with
  | array items ih =>
    cases b with
    | array items' =>
      simp only [identical, identicalItems_iff] at h ⊢
      exact forall₂_symm (fun item hitem _ => ih item hitem) h
    | _ => cases h
  | object fields ih =>
    cases b with
    | object fields' =>
      simp only [identical, identicalFields_iff] at h ⊢
      exact forall₂_symm (fun field hfield _ hab => ⟨hab.1.symm, ih field hfield hab.2⟩) h
    | _ => cases h
  | scalar a harray hobject =>
    rcases eq_or_double_of_identical harray hobject h with rfl | ⟨x, y, rfl, rfl, hxy⟩
    · exact h
    · exact BEq.symm hxy

theorem identical_trans (h : identical a b = true) (h' : identical b c = true) : identical a c = true := by
  induction a using induction_parts generalizing b c with
  | array items ih =>
    cases b with
    | array items' =>
      cases c with
      | array items'' =>
        simp only [identical, identicalItems_iff] at h h' ⊢
        exact forall₂_trans (fun item hitem _ _ => ih item hitem) h h'
      | _ => cases h'
    | _ => cases h
  | object fields ih =>
    cases b with
    | object fields' =>
      cases c with
      | object fields'' =>
        simp only [identical, identicalFields_iff] at h h' ⊢
        exact forall₂_trans (fun field hfield _ _ hab hbc => ⟨hab.1.trans hbc.1, ih field hfield hab.2 hbc.2⟩) h h'
      | _ => cases h'
    | _ => cases h
  | scalar a harray hobject =>
    rcases eq_or_double_of_identical harray hobject h with rfl | ⟨x, y, rfl, rfl, hxy⟩
    · exact h'
    · cases c with
      | double z => exact BEq.trans hxy h'
      | _ => cases h'

instance : PartialEquivBEq Json where
  symm := identical_symm
  trans := identical_trans

/-! ## Documents that equal themselves -/

/-- `j.Holds x`: the double stands in the document, at any depth. -/
inductive Holds : Json → Float → Prop where
  | double (x : Float) : Holds (.double x) x
  | item {items : List Json} {item : Json} {x : Float} (hitem : item ∈ items) (h : Holds item x) : Holds (.array items) x
  | field {fields : List (String × Json)} {field : String × Json} {x : Float} (hfield : field ∈ fields)
      (h : Holds field.2 x) : Holds (.object fields) x

theorem canonicalItems_eq_map (items : List Json) : canonicalItems items = items.map canonical := by
  induction items with
  | nil => rfl
  | cons item items ih => rw [canonicalItems, ih, List.map_cons]

theorem mem_insertByName {key : String} {value : Json} {fields : List (String × Json)} {field : String × Json}
    (h : field ∈ insertByName key value fields) : field = (key, value) ∨ field ∈ fields := by
  induction fields with
  | nil => exact .inl (List.mem_singleton.1 h)
  | cons first fields ih =>
    rw [insertByName] at h
    split at h
    · exact List.mem_cons.1 h
    · rcases List.mem_cons.1 h with rfl | h
      · exact .inr List.mem_cons_self
      · exact (ih h).imp_right (List.mem_cons_of_mem _)

/-- The fields of a canonical object are fields of the object with canonical values. -/
theorem mem_canonicalFields {fields : List (String × Json)} {field : String × Json} (h : field ∈ canonicalFields fields) :
    ∃ field' ∈ fields, field.2 = field'.2.canonical := by
  induction fields with
  | nil => cases h
  | cons first fields ih =>
    obtain ⟨key, value⟩ := first
    rw [canonicalFields] at h
    split at h
    · obtain ⟨field', hfield', heq⟩ := ih h
      exact ⟨field', List.mem_cons_of_mem _ hfield', heq⟩
    · rcases mem_insertByName h with rfl | h
      · exact ⟨_, List.mem_cons_self, rfl⟩
      · obtain ⟨field', hfield', heq⟩ := ih h
        exact ⟨field', List.mem_cons_of_mem _ hfield', heq⟩

/-- A document equals itself if all doubles in it are numbers. -/
theorem beq_self_of_holds (h : ∀ x, j.Holds x → x.isNaN = false) : (j == j) = true := by
  change identical j.canonical j.canonical = true
  induction j using induction_parts with
  | array items ih =>
    simp only [canonical, identical, canonicalItems_eq_map, identicalItems_iff, List.forall₂_same]
    intro item hitem
    obtain ⟨item', hitem', rfl⟩ := List.mem_map.1 hitem
    exact ih item' hitem' fun x hx => h x (.item hitem' hx)
  | object fields ih =>
    simp only [canonical, identical, identicalFields_iff, List.forall₂_same, true_and]
    intro field hfield
    obtain ⟨field', hfield', heq⟩ := mem_canonicalFields hfield
    rw [heq]
    exact ih field' hfield' fun x hx => h x (.field hfield' hx)
  | scalar j harray hobject =>
    cases j with
    | array items => exact absurd rfl (harray items)
    | object fields => exact absurd rfl (hobject fields)
    | double x => exact beq_self_iff.2 (h x (.double x))
    | null => rfl
    | boolean b => exact beq_self_eq_true b
    | whole n => exact beq_self_eq_true n
    | string s => exact beq_self_eq_true s

end Json

end CellExpr
