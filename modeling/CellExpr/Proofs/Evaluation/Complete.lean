import CellExpr.Evaluation.Eval

/-!
# Complete outcomes

An outcome is complete if nothing is missing in it: it is a value or reports an error. Outcomes that are joined are complete
if each of them is, and a checked operation is complete on the operands that it is meant for.
-/

namespace CellExpr

variable {α β : Type}

namespace Outcome

/-- Nothing is missing: the outcome is a value or an error. -/
def Complete (o : Outcome α) : Prop := o ≠ .error .stuck

theorem complete_ok (a : α) : Complete (.ok a) := nofun

theorem complete_pure (a : α) : Complete (pure a) := nofun

theorem complete_error (e : EvalError) : Complete (.error (.error e) : Outcome α) := nofun

theorem complete_fault (f : Fault) : Complete (fault f : Outcome α) := nofun

theorem complete_orFault (f : Fault) (a : Option α) : Complete (orFault f a) := by
  cases a with
  | none => exact complete_fault f
  | some a => exact complete_ok a

/-- An outcome that is known to be a value is complete. -/
theorem complete_of_eq_ok {o : Outcome α} {a : α} (h : o = .ok a) : o.Complete := h ▸ complete_ok a

@[simp] theorem ok_bind (a : α) (f : α → Outcome β) : (Except.ok a >>= f) = f a := rfl

theorem Complete.bind {o : Outcome α} {f : α → Outcome β} (ho : o.Complete) (hf : ∀ a, o = .ok a → (f a).Complete) :
    (o >>= f).Complete := by
  match o, ho with
  | .ok a, _ => exact hf a rfl
  | .error (.error e), _ => exact complete_error e
  | .error .stuck, ho => exact absurd rfl ho

theorem Complete.map {o : Outcome α} (ho : o.Complete) (f : α → β) : (f <$> o).Complete := by
  match o, ho with
  | .ok a, _ => exact complete_ok (f a)
  | .error (.error e), _ => exact complete_error e
  | .error .stuck, ho => exact absurd rfl ho

theorem complete_foldlM {f : β → α → Outcome β} (hf : ∀ b a, (f b a).Complete) (items : List α) (b : β) :
    (items.foldlM f b).Complete := by
  induction items generalizing b with
  | nil => exact complete_pure b
  | cons a items ih =>
    rw [List.foldlM_cons]
    exact (hf b a).bind fun b _ => ih b

theorem complete_mapM {f : α → Outcome β} (hf : ∀ a, (f a).Complete) (items : List α) : (items.mapM f).Complete := by
  induction items with
  | nil => exact complete_pure []
  | cons a items ih =>
    rw [List.mapM_cons]
    exact (hf a).bind fun b _ => ih.bind fun bs _ => complete_pure (b :: bs)

/-- The value that stands for an outcome that is a value. -/
theorem value_toTraced {o : Outcome Value} {v : Value} (h : o = .ok v) : o.toTraced.value = v := by
  rw [h]
  rfl

/-! ## Checked operations -/

theorem given_of {condition : Prop} [Decidable condition] (h : condition) (a : α) : given condition a = .ok a := if_pos h

theorem elementAt_of_lt {items : List α} {place : Nat} (h : place < items.length) :
    elementAt items place = .ok items[place] := by
  rw [elementAt, List.getElem?_eq_getElem h, require]

theorem part_of_le {items : List α} {start stop : Nat} (h : start ≤ stop) (hstop : stop ≤ items.length) :
    part items start stop = .ok ((items.drop start).take (stop - start)) := given_of ⟨h, hstop⟩ _

theorem partFrom_of_le {items : List α} {start : Nat} (h : start ≤ items.length) :
    partFrom items start = .ok (items.drop start) := by
  rw [partFrom, part_of_le h (Nat.le_refl _), ← List.length_drop, List.take_length]

theorem inBits_of_le {bits : Nat} {n : Int} (h : -((1 <<< (bits - 1) : Nat) : Int) ≤ n)
    (h' : n < (1 <<< (bits - 1) : Nat)) : inBits bits n = .ok n := given_of ⟨h, h'⟩ n

end Outcome

/-! ## Traces -/

namespace Traced

/-- Nothing was missing on the way to a result. -/
def Complete (t : Traced α) : Prop := t.stuck = false

theorem complete_just (a : α) : Complete (just a) := rfl

theorem Complete.map {t : Traced α} (ht : t.Complete) (f : α → β) : (t.map f).Complete := ht

theorem Complete.bind {t : Traced α} {f : α → Traced β} (ht : t.Complete) (hf : ∀ a, (f a).Complete) :
    (t.bind f).Complete := Bool.or_eq_false_iff.2 ⟨ht, hf t.value⟩

theorem Complete.unlessError {t : Traced Value} {f : Value → Traced Value} (ht : t.Complete) (hf : ∀ v, (f v).Complete) :
    (t.unlessError f).Complete := by
  refine ht.bind fun v => ?_
  split
  · exact complete_just _
  · exact hf _

end Traced

theorem Outcome.Complete.toTraced {o : Outcome Value} (h : o.Complete) : o.toTraced.Complete := by
  match o, h with
  | .ok v, _ => exact Traced.complete_just v
  | .error (.error e), _ => exact Traced.complete_just (Value.error e)
  | .error .stuck, h => exact absurd rfl h

end CellExpr
