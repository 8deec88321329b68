import CellExpr.Proofs.Evaluation.FreeVariables
import CellExpr.Proofs.Evaluation.Selection
import CellExpr.Proofs.Evaluation.Strictness

/-!
# Control forms by other forms

Three control forms say what other forms say (`eval_eq_other_forms`). The fallback of `forNonBlank` is the case of a conditional in
which a value is bound; a loop over elements is a loop over places whose body does not look at the place; and `if` is a conditional
with another fault. The functions on both sides are the same ones, so all that differs is what is looked at twice.
-/

namespace CellExpr

variable {condition : Traced Value} {fault fault' : Fault} {yes no : Unit → Traced Value}

/-! ## Conditions -/

theorem Traced.value_bind {α β : Type} (t : Traced α) (f : α → Traced β) : (t.bind f).value = (f t.value).value := rfl

theorem value_choose_of_boolean {b : Bool} (h : condition.value = .boolean b) :
    (choose condition fault yes no).value = (if b then yes () else no ()).value := by
  obtain ⟨v, runs, stuck⟩ := condition
  obtain rfl : v = .boolean b := h
  cases b <;> rfl

/-- What goes wrong with another condition does not matter to a truth value, nor to an error. -/
theorem choose_congr_fault (h : (∃ b, condition.value = .boolean b) ∨ ∃ err, condition.value = .error err) :
    choose condition fault yes no = choose condition fault' yes no := by
  obtain ⟨v, runs, stuck⟩ := condition
  rcases h with ⟨b, rfl : v = _⟩ | ⟨err, rfl : v = _⟩
  · cases b <;> rfl
  · rfl

/-- Any other condition is the fault. -/
theorem value_choose_of_other (h : ¬((∃ b, condition.value = .boolean b) ∨ ∃ err, condition.value = .error err)) :
    (choose condition fault yes no).value = .error fault.toError := by
  obtain ⟨v, runs, stuck⟩ := condition
  cases v with
  | boolean b => exact absurd (.inl ⟨b, rfl⟩) h
  | error err => exact absurd (.inr ⟨err, rfl⟩) h
  | _ => rfl

/-! ## Loops -/

/-- A loop over elements does not show its form if it has elements, or an error in their place. -/
theorem overElements_congr_form {form form' : ControlForm} {source : Traced Value}
    (loop : List Value → Traced (Result (List Value)))
    (h : (∃ items, source.value = .array items) ∨ ∃ err, source.value = .error err) :
    overElements form source loop = overElements form' source loop := by
  obtain ⟨v, runs, stuck⟩ := source
  rcases h with ⟨items, rfl : v = _⟩ | ⟨err, rfl : v = _⟩ <;> rfl

/-- A place that is bound beside the element does not matter to a body in which it is not free. -/
theorem eval_with_place {r : Registry} (hr : ∀ f ∈ r.functions, f.IgnoresScope) {body : Expr} {i x : String}
    (hi : i ∉ body.freeVars) (hx : i ≠ x) (s : Scope) (place item : Value) :
    body.eval r (s.enter (.ofParams [i, x] [place, item])) = body.eval r (s.enter (.ofParams [x] [item])) := by
  refine Expr.eval_congr_freeVars hr fun name hname => ?_
  have hne : name ≠ i := fun heq => hi (heq ▸ hname)
  have hframe : Frame.ofParams [i, x] [place, item] = [(i, place), (x, item)] := if_neg hx
  rw [Scope.get?_enter, Scope.get?_enter, hframe, Frame.lookup_cons, if_neg hne]
  rfl

/-! ## The function that looks for blanks -/

theorem Registry.value_call_isNonBlank (now : Calendar.Instant) (v : Value) (s : Scope) :
    (((standard now).without "now").call "isNonBlank" [v] s).value = .boolean (!v.isBlank && !v.isError) := rfl

/-- Under the standard functions, that which tells the time left out, three control forms are other forms in disguise.

* The value of `forNonBlank(e, v, b, d)` is that of `isNonBlank(e) ? with(e, v, b) : d`.
* A loop over the elements of an array, or over an error, is the loop over places and elements, if the place is bound to a name
  other than the element's that is not free in the body.
* `if(c, p, q)` is `c ? p : q` where `c` is a truth value or an error. Elsewhere both are type errors. -/
theorem eval_eq_other_forms (now : Calendar.Instant) (s : Scope) :
    (∀ (e b d : Expr) (v : String),
      ((Expr.control .forNonBlank [e, d] (some ⟨[v], b⟩)).eval ((Registry.standard now).without "now") s).value =
        ((Expr.conditional (.call "isNonBlank" [e]) (.control .with [e] (some ⟨[v], b⟩)) d).eval
          ((Registry.standard now).without "now") s).value) ∧
      (∀ (a e : Expr) (i x : String), i ∉ e.freeVars → i ≠ x →
        ((∃ items, (a.eval ((Registry.standard now).without "now") s).value = .array items) ∨
          ∃ err, (a.eval ((Registry.standard now).without "now") s).value = .error err) →
        (Expr.control .forEach [a] (some ⟨[x], e⟩)).eval ((Registry.standard now).without "now") s =
          (Expr.control .forEachIndex [a] (some ⟨[i, x], e⟩)).eval ((Registry.standard now).without "now") s) ∧
      ∀ c p q : Expr,
        (((∃ b, (c.eval ((Registry.standard now).without "now") s).value = .boolean b) ∨
            ∃ err, (c.eval ((Registry.standard now).without "now") s).value = .error err) →
          (Expr.control .if [c, p, q] none).eval ((Registry.standard now).without "now") s =
            (Expr.conditional c p q).eval ((Registry.standard now).without "now") s) ∧
        (¬((∃ b, (c.eval ((Registry.standard now).without "now") s).value = .boolean b) ∨
            ∃ err, (c.eval ((Registry.standard now).without "now") s).value = .error err) →
          ∃ err err',
            ((Expr.control .if [c, p, q] none).eval ((Registry.standard now).without "now") s).value = .error err ∧
              ((Expr.conditional c p q).eval ((Registry.standard now).without "now") s).value = .error err' ∧
              err.kind = .type ∧ err'.kind = .type) := by
  have hignores := Registry.ignoresScope_without now "now"
  have hblank := Registry.value_call_isNonBlank now
  generalize (Registry.standard now).without "now" = r at hignores hblank
  refine ⟨fun e b d v => ?_, fun a e i x hi hx ha => ?_, fun c p q => ⟨fun hc => ?_, fun hc => ?_⟩⟩
  · have hcall : ((Expr.call "isNonBlank" [e]).eval r s).value =
        .boolean (!(e.eval r s).value.isBlank && !(e.eval r s).value.isError) := hblank (e.eval r s).value s
    rw [Expr.eval, Expr.eval, value_choose_of_boolean hcall, ← Bool.not_or, Expr.eval]
    generalize e.eval r s = t
    rw [Traced.value_bind]
    by_cases hfallback : (t.value.isBlank || t.value.isError) = true
    · rw [if_pos hfallback, hfallback]
      rfl
    · rw [Bool.not_eq_true] at hfallback
      have hnoError : t.value.isError = false := (Bool.or_eq_false_iff.1 hfallback).2
      rw [hfallback, Bool.not_false, if_pos rfl, if_neg Bool.false_ne_true, Traced.unlessError_of_not_error hnoError]
      rfl
  · rw [Expr.eval, Expr.eval, overElements_congr_form _ ha]
    refine overElements_congr fun items _ => ?_
    rw [collect_eq_collectPlaces _ 0]
    refine collectPlaces_congr 0 fun n item _ _ => ?_
    exact (eval_with_place hignores hi hx s _ item).symm
  · rw [Expr.eval, Expr.eval]
    exact choose_congr_fault hc
  · rw [Expr.eval, Expr.eval]
    exact ⟨_, _, value_choose_of_other hc, value_choose_of_other hc, rfl, rfl⟩

/-- `with(x, i, i + x)` -/
def boundPlace : Expr := .control .with [.var "x"] (some ⟨["i"], .binary .add (.var "i") (.var "x")⟩)

/-- A body that binds the name of the place itself: it is bound there, not free. The array of the loop is no condition, but whether it
is blank is one. -/
theorem eval_eq_other_forms_boundPlace :
    "i" ∉ boundPlace.freeVars ∧
      (Expr.control .forEach [.var "xs"] (some ⟨["x"], boundPlace⟩)).eval
          ((Registry.standard ⟨0, 0, by decide⟩).without "now") [[("xs", .array [.string "a", .string "b"]), ("i", .null)]] =
        (Expr.control .forEachIndex [.var "xs"] (some ⟨["i", "x"], boundPlace⟩)).eval
          ((Registry.standard ⟨0, 0, by decide⟩).without "now") [[("xs", .array [.string "a", .string "b"]), ("i", .null)]] ∧
      (Expr.control .if [.call "isBlank" [.var "xs"], .var "i", .var "xs"] none).eval
          ((Registry.standard ⟨0, 0, by decide⟩).without "now") [[("xs", .array [.string "a", .string "b"]), ("i", .null)]] =
        (Expr.conditional (.call "isBlank" [.var "xs"]) (.var "i") (.var "xs")).eval
          ((Registry.standard ⟨0, 0, by decide⟩).without "now") [[("xs", .array [.string "a", .string "b"]), ("i", .null)]] ∧
      ∃ err err',
        ((Expr.control .if [.var "xs", .var "i", .var "xs"] none).eval
            ((Registry.standard ⟨0, 0, by decide⟩).without "now")
            [[("xs", .array [.string "a", .string "b"]), ("i", .null)]]).value = .error err ∧
          ((Expr.conditional (.var "xs") (.var "i") (.var "xs")).eval
            ((Registry.standard ⟨0, 0, by decide⟩).without "now")
            [[("xs", .array [.string "a", .string "b"]), ("i", .null)]]).value = .error err' ∧
          err.kind = .type ∧ err'.kind = .type := by
  have hfree : "i" ∉ boundPlace.freeVars := by decide
  obtain ⟨_, hloop, hchoice⟩ :=
    eval_eq_other_forms ⟨0, 0, by decide⟩ [[("xs", .array [.string "a", .string "b"]), ("i", .null)]]
  refine ⟨hfree, hloop _ _ _ _ hfree (by decide) (.inl ⟨_, rfl⟩), (hchoice _ _ _).1 (.inl ⟨false, rfl⟩), (hchoice _ _ _).2 ?_⟩
  rintro (⟨b, hb⟩ | ⟨err, herr⟩)
  · cases hb
  · cases herr

end CellExpr
