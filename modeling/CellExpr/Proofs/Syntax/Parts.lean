import CellExpr.Syntax.Expr

/-!
# The parts of an expression

The parts of an expression are the expressions that it is directly made of, in the order in which they are written; the body
of a control form comes last. A path counts its way down from part to part, and what stands at its end can be replaced. What
holds of every expression of whose parts it holds, holds of all expressions (`induction_parts`).
-/

namespace CellExpr.Expr

/-- The parts of an expression. -/
def parts : Expr → List Expr
  | literal _ | var _ => []
  | field base _ => [base]
  | index base position => [base, position]
  | array items => items
  | call _ args => args
  | control _ args none => args
  | control _ args (some ⟨_, body⟩) => args ++ [body]
  | unary _ operand => [operand]
  | binary _ left right => [left, right]
  | conditional condition yes no => [condition, yes, no]

/-- A part is smaller than the expression. -/
theorem sizeOf_lt_of_mem_parts {part e : Expr} (h : part ∈ e.parts) : sizeOf part < sizeOf e := by
  cases e with
  | literal l => cases h
  | var name => cases h
  | array items =>
    have hlt : sizeOf part < sizeOf items := List.sizeOf_lt_of_mem h
    simp only [array.sizeOf_spec]
    omega
  | call name args =>
    have hlt : sizeOf part < sizeOf args := List.sizeOf_lt_of_mem h
    simp only [call.sizeOf_spec]
    omega
  | control form args body =>
    rcases body with _ | ⟨params, body⟩
    · have hlt : sizeOf part < sizeOf args := List.sizeOf_lt_of_mem h
      simp only [control.sizeOf_spec]
      omega
    · simp only [control.sizeOf_spec, Option.some.sizeOf_spec, Lambda.mk.sizeOf_spec]
      rcases List.mem_append.1 h with h | h
      · have hlt : sizeOf part < sizeOf args := List.sizeOf_lt_of_mem h
        omega
      · obtain rfl := List.mem_singleton.1 h
        omega
  | field base name =>
    obtain rfl := List.mem_singleton.1 h
    simp only [field.sizeOf_spec]
    omega
  | unary op operand =>
    obtain rfl := List.mem_singleton.1 h
    simp only [unary.sizeOf_spec]
    omega
  | index base position =>
    simp only [parts, List.mem_cons, List.not_mem_nil, or_false] at h
    simp only [index.sizeOf_spec]
    rcases h with rfl | rfl <;> omega
  | binary op left right =>
    simp only [parts, List.mem_cons, List.not_mem_nil, or_false] at h
    simp only [binary.sizeOf_spec]
    rcases h with rfl | rfl <;> omega
  | conditional condition yes no =>
    simp only [parts, List.mem_cons, List.not_mem_nil, or_false] at h
    simp only [conditional.sizeOf_spec]
    rcases h with rfl | rfl | rfl <;> omega

/-- What holds of an expression if it holds of its parts, holds of all expressions. -/
theorem induction_parts {motive : Expr → Prop} (step : ∀ e : Expr, (∀ part ∈ e.parts, motive part) → motive e)
    (e : Expr) : motive e :=
  step e fun part _ => induction_parts step part
termination_by sizeOf e
decreasing_by exact sizeOf_lt_of_mem_parts ‹_›

/-! ## Replacing a part -/

/-- The expression with another part in the place of one of its parts. -/
def setPart : Expr → Nat → Expr → Expr
  | field _ name, 0, new => field new name
  | index _ position, 0, new => index new position
  | index base _, 1, new => index base new
  | array items, i, new => array (items.set i new)
  | call name args, i, new => call name (args.set i new)
  | control form args none, i, new => control form (args.set i new) none
  | control form args (some ⟨params, body⟩), i, new =>
    if i = args.length then control form args (some ⟨params, new⟩) else control form (args.set i new) (some ⟨params, body⟩)
  | unary op _, 0, new => unary op new
  | binary op _ right, 0, new => binary op new right
  | binary op left _, 1, new => binary op left new
  | conditional _ yes no, 0, new => conditional new yes no
  | conditional condition _ no, 1, new => conditional condition new no
  | conditional condition yes _, 2, new => conditional condition yes new
  | e, _, _ => e

theorem parts_setPart (e : Expr) (i : Nat) (new : Expr) : (e.setPart i new).parts = e.parts.set i new := by
  cases e with
  | control form args body =>
    rcases body with _ | ⟨params, body⟩
    · rfl
    · rw [setPart]
      by_cases hbody : i = args.length
      · simp [hbody, parts]
      · rw [if_neg hbody, parts, parts, List.set_append]
        by_cases harg : i < args.length
        · rw [if_pos harg]
        · rw [if_neg harg, List.set_eq_of_length_le (by omega), List.set_eq_of_length_le (by rw [List.length_singleton]; omega)]
  | array items => rfl
  | call name args => rfl
  | _ => rcases i with _ | _ | _ | i <;> rfl

/-- What stands at the end of a path, if the expression has the path. -/
def at? (e : Expr) : List Nat → Option Expr
  | [] => some e
  | i :: path => e.parts[i]?.bind fun part => part.at? path

/-- The expression with another expression at the end of a path, if it has the path. -/
def replaceAt (e : Expr) : List Nat → Expr → Expr
  | [], new => new
  | i :: path, new =>
    match e.parts[i]? with
    | some part => e.setPart i (part.replaceAt path new)
    | none => e

theorem at?_replaceAt {e sub : Expr} {path : List Nat} (h : e.at? path = some sub) (new : Expr) :
    (e.replaceAt path new).at? path = some new := by
  induction path generalizing e with
  | nil => rfl
  | cons i path ih =>
    obtain ⟨part, hpart, hsub⟩ := Option.bind_eq_some_iff.1 h
    have hlt : i < e.parts.length := (List.getElem?_eq_some_iff.1 hpart).1
    rw [replaceAt, hpart, at?, parts_setPart, List.getElem?_set_self hlt]
    exact ih hsub

end CellExpr.Expr
