import CellExpr.Evaluation.Eval

/-!
# Cases of control forms

A control form without its body, or with fewer arguments than it evaluates, is stuck at once (`eval_control_bare`,
`eval_control_few`); no text is read as such a tree. What is left are the forms with the arguments that they evaluate by name
(`controlCases`). Arguments after those are never looked at.
-/

namespace CellExpr

/-- How many arguments a control form evaluates, its body left aside. -/
def ControlForm.needs : ControlForm → Nat
  | .if | .forRange => 3
  | .forNonBlank => 2
  | _ => 1

/-- Those are the arguments that it is written with, the parameters and the body left aside. -/
theorem ControlForm.needs_of_trailing {form : ControlForm} (h : 0 < form.trailing) : form.needs + 1 = form.leading + form.trailing := by
  cases form <;> first | rfl | cases h

namespace Expr

variable {r : Registry} {s : Scope} {form : ControlForm} {args : List Expr} {body : Option (Lambda Expr)}

theorem eval_control_bare (h : form ≠ .if) : (control form args none).eval r s = .stuckAt (.noBody form.name) := by
  rw [eval]
  · exact fun _ _ _ _ hform _ => h hform
  · exact h

theorem eval_control_few (h : args.length < form.needs) :
    (control form args body).eval r s =
      .stuckAt (if form = .if ∨ body.isSome then .missing else .noBody form.name) := by
  rcases body with _ | ⟨params, body⟩
  · by_cases hform : form = .if
    · subst hform
      match args, h with
      | [], _ | [_], _ | [_, _], _ => rfl
    · rw [eval_control_bare hform, if_neg (by simp [hform])]
  · rw [if_pos (.inr rfl)]
    cases form with
    | «if» | forRange =>
      match args, h with
      | [], _ | [_], _ | [_, _], _ => rfl
    | forNonBlank =>
      match args, h with
      | [], _ | [_], _ => rfl
    | _ =>
      match args, h with
      | [], _ => rfl

/-- Every control form has too few arguments, or lacks a body, or has what it evaluates. -/
theorem controlCases {motive : ControlForm → List Expr → Option (Lambda Expr) → Prop}
    (few : ∀ form args body, args.length < form.needs → motive form args body)
    (bare : ∀ form args, form ≠ .if → motive form args none)
    (choice : ∀ condition yes no rest body, motive .if (condition :: yes :: no :: rest) body)
    (binding : ∀ value rest params body, motive .with (value :: rest) (some ⟨params, body⟩))
    (forEach : ∀ source rest params body, motive .forEach (source :: rest) (some ⟨params, body⟩))
    (forEachIndex : ∀ source rest params body, motive .forEachIndex (source :: rest) (some ⟨params, body⟩))
    (filter : ∀ source rest params body, motive .filter (source :: rest) (some ⟨params, body⟩))
    (forRange : ∀ first last step rest params body,
      motive .forRange (first :: last :: step :: rest) (some ⟨params, body⟩))
    (forNonBlank : ∀ value fallback rest params body, motive .forNonBlank (value :: fallback :: rest) (some ⟨params, body⟩))
    (form : ControlForm) (args : List Expr) (body : Option (Lambda Expr)) : motive form args body := by
  by_cases hfew : args.length < form.needs
  · exact few form args body hfew
  · have hargs : form.needs ≤ args.length := Nat.le_of_not_lt hfew
    by_cases hform : form = .if
    · subst hform
      obtain _ | ⟨condition, _ | ⟨yes, _ | ⟨no, rest⟩⟩⟩ := args
      · exact absurd hargs (by decide)
      · exact absurd hargs (by simp [ControlForm.needs])
      · exact absurd hargs (by simp [ControlForm.needs])
      · exact choice condition yes no rest body
    · obtain _ | ⟨params, body⟩ := body
      · exact bare form args hform
      · cases form with
        | «if» => exact absurd rfl hform
        | «with» =>
          obtain _ | ⟨value, rest⟩ := args
          · exact absurd hargs (by decide)
          · exact binding value rest params body
        | forEach =>
          obtain _ | ⟨source, rest⟩ := args
          · exact absurd hargs (by decide)
          · exact forEach source rest params body
        | forEachIndex =>
          obtain _ | ⟨source, rest⟩ := args
          · exact absurd hargs (by decide)
          · exact forEachIndex source rest params body
        | filter =>
          obtain _ | ⟨source, rest⟩ := args
          · exact absurd hargs (by decide)
          · exact filter source rest params body
        | forRange =>
          obtain _ | ⟨first, _ | ⟨last, _ | ⟨step, rest⟩⟩⟩ := args
          · exact absurd hargs (by decide)
          · exact absurd hargs (by simp [ControlForm.needs])
          · exact absurd hargs (by simp [ControlForm.needs])
          · exact forRange first last step rest params body
        | forNonBlank =>
          obtain _ | ⟨value, _ | ⟨fallback, rest⟩⟩ := args
          · exact absurd hargs (by decide)
          · exact absurd hargs (by simp [ControlForm.needs])
          · exact forNonBlank value fallback rest params body

/-- Arguments after those that a control form evaluates do not matter. -/
theorem eval_control_take (h : form.needs ≤ args.length) :
    (control form (args.take form.needs) body).eval r s = (control form args body).eval r s := by
  induction form, args, body using controlCases with
  | few _ _ _ hfew => exact absurd h (Nat.not_le_of_lt hfew)
  | bare form args hform => rw [eval_control_bare hform, eval_control_bare hform]
  | choice | binding | forEach | forEachIndex | filter | forRange | forNonBlank => rfl

end Expr

end CellExpr
