import CellExpr.Proofs.Grammar.Derivation
import CellExpr.Syntax.Grammar

/-!
# Calls and control forms

The reader of calls gives exactly what the grammar says a name with arguments stands for.
-/

namespace CellExpr

namespace ControlForm

theorem mem_all (form : ControlForm) : form ∈ all := by
  cases form <;> decide

/-- A name is that of one control form. -/
theorem ofName?_name (form : ControlForm) : ofName? form.name = some form := by
  cases form <;> decide

theorem name_of_ofName? {name : String} {form : ControlForm} (h : ofName? name = some form) : form.name = name := by
  simpa using List.find?_some h

theorem ofName?_eq_none_iff {name : String} : ofName? name = none ↔ ∀ form : ControlForm, form.name ≠ name := by
  simp only [ofName?, List.find?_eq_none, beq_iff_eq]
  exact ⟨fun h form => h form (mem_all form), fun h form _ => h form⟩

/-- Nothing follows the parameters of `if` alone. -/
theorem eq_if_of_trailing {form : ControlForm} (h : form.trailing = 0) : form = .if := by
  cases form <;> first | rfl | cases h

end ControlForm

namespace TokenReader

/-- Parameters have names if they are plain variables. -/
theorem parameterNames_eq_ok_iff {form : ControlForm} {position number : Nat} {args : List Expr} {names : List String} :
    parameterNames form position number args = .ok names ↔ args = names.map .var := by
  induction args generalizing number names with
  | nil => cases names <;> simp [parameterNames]
  | cons arg rest ih =>
    cases arg with
    | var name =>
      cases names with
      | nil => cases h : parameterNames form position (number + 1) rest <;> simp [parameterNames, h, Except.map]
      | cons first others =>
        have h := @ih (number + 1) others
        simp only [parameterNames, List.map_cons, List.cons.injEq, Expr.var.injEq]
        rw [← h]
        cases parameterNames form position (number + 1) rest <;> simp [Except.map]
    | _ => cases names <;> simp [parameterNames]

/-- A list of arguments taken apart as a control form takes it. -/
theorem take_drop_parts (args : List Expr) (leading parameters : Nat) :
    args = args.take leading ++ (args.drop leading).take parameters ++ args.drop (leading + parameters) := by
  rw [List.append_assoc, ← List.drop_drop, List.take_append_drop, List.take_append_drop]

/-- A control form is read from arguments of its shape alone. -/
theorem callOf_of_controlOf {form : ControlForm} {args : List Expr} {position : Nat} {e : Expr}
    (h : controlOf form args position = .ok e) : CallOf form.name args e := by
  unfold controlOf at h
  split at h
  · cases h
  rename_i harity
  have hlength : args.length = form.leading + form.parameters + form.trailing := Decidable.not_not.1 harity
  have hparts := take_drop_parts args form.leading form.parameters
  simp only at h
  split at h
  · cases h
  · rename_i hdrop
    have htrailing : form.trailing = 0 := by
      have := List.drop_eq_nil_iff.1 hdrop
      omega
    obtain rfl := ControlForm.eq_if_of_trailing htrailing
    obtain rfl := Except.ok.inj h
    match args, hlength with
    | [condition, yes, no], _ => exact .choice condition yes no
  · rename_i params body after hparams hdrop
    obtain rfl := Except.ok.inj h
    rw [parameterNames_eq_ok_iff] at hparams
    have hbefore : (args.take form.leading).length = form.leading := by
      rw [List.length_take]
      omega
    have hp : params.length = form.parameters := by
      rw [← List.length_map (f := Expr.var), ← hparams, List.length_take, List.length_drop]
      omega
    have hafter : after.length + 1 = form.trailing := by
      rw [← List.length_cons, ← hdrop, List.length_drop]
      omega
    have hcall := CallOf.binding form (args.take form.leading) params body after hbefore hp hafter
    rwa [← hparams, ← hdrop, ← hparts] at hcall

/-- Arguments of the shape of a control form are read as that form. -/
theorem controlOf_binding {form : ControlForm} {before : List Expr} {params : List String} {body : Expr}
    {after : List Expr} {position : Nat} (hbefore : before.length = form.leading)
    (hparams : params.length = form.parameters) (hafter : after.length + 1 = form.trailing) :
    controlOf form (before ++ params.map Expr.var ++ body :: after) position =
      .ok (.control form (before ++ after) (some ⟨params, body⟩)) := by
  have hlength : (before ++ params.map Expr.var ++ body :: after).length = form.arity := by
    simp only [List.length_append, List.length_map, List.length_cons, ControlForm.arity]
    omega
  have htake : (before ++ params.map Expr.var ++ body :: after).take form.leading = before := by
    rw [List.append_assoc, ← hbefore, List.take_left]
  have hmiddle : ((before ++ params.map Expr.var ++ body :: after).drop form.leading).take form.parameters =
      params.map Expr.var := by
    rw [List.append_assoc, ← hbefore, List.drop_left, ← hparams, ← List.length_map (f := Expr.var), List.take_left]
  have hdrop : (before ++ params.map Expr.var ++ body :: after).drop (form.leading + form.parameters) = body :: after := by
    rw [← hbefore, ← hparams, ← List.length_map (f := Expr.var), ← List.length_append, List.drop_left]
  have hnames : parameterNames form position (form.leading + 1) (params.map Expr.var) = .ok params :=
    parameterNames_eq_ok_iff.2 rfl
  unfold controlOf
  rw [if_neg (fun h => h hlength)]
  simp only [htake, hmiddle, hdrop, hnames]

/-- A call is read as what the grammar says it stands for, whatever its position. -/
theorem callOf_eq_ok_iff {name : String} {args : List Expr} {position : Nat} {e : Expr} :
    callOf name args position = .ok e ↔ CallOf name args e := by
  unfold callOf
  constructor
  · intro h
    split at h
    · rename_i form hform
      obtain rfl := ControlForm.name_of_ofName? hform
      exact callOf_of_controlOf h
    · rename_i hnone
      obtain rfl := Except.ok.inj h
      exact .function args (ControlForm.ofName?_eq_none_iff.1 hnone)
  · intro h
    cases h with
    | function _ hname => rw [ControlForm.ofName?_eq_none_iff.2 hname]
    | choice => rw [ControlForm.ofName?_name]; rfl
    | binding form _ _ _ _ hbefore hparams hafter =>
      rw [ControlForm.ofName?_name]
      exact controlOf_binding hbefore hparams hafter

end TokenReader

end CellExpr
