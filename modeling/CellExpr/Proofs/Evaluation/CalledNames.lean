import CellExpr.Proofs.Evaluation.Congruence
import CellExpr.Proofs.Function.Registration

/-!
# What is called

An expression calls functions by names that stand in it, in bodies of loops and branches that are not taken as well. Two
registries in which these names stand for the same functions are the same to the expression: its value and its trace do not
change (`eval_congr_lookup?`). So a function that is added does not matter to expressions that do not call it
(`eval_of_not_called`).
-/

namespace CellExpr

variable {r r' : Registry} {s : Scope}

namespace Expr

/-! ## Called names -/

mutual

/-- The names under which an expression calls functions, those of its parts at any depth included. -/
def calledNames : Expr → List String
  | literal _ | var _ => []
  | field base _ => base.calledNames
  | index base position => base.calledNames ++ position.calledNames
  | array items => namesCalledIn items
  | call name args => name :: namesCalledIn args
  | control _ args none => namesCalledIn args
  | control _ args (some ⟨_, body⟩) => namesCalledIn args ++ body.calledNames
  | unary _ operand => operand.calledNames
  | binary _ left right => left.calledNames ++ right.calledNames
  | conditional condition yes no => condition.calledNames ++ yes.calledNames ++ no.calledNames

/-- The names under which some expressions call functions. -/
def namesCalledIn : List Expr → List String
  | [] => []
  | e :: rest => e.calledNames ++ namesCalledIn rest

end

theorem namesCalledIn_eq_flatMap (es : List Expr) : namesCalledIn es = es.flatMap calledNames := by
  induction es with
  | nil => rfl
  | cons e rest ih => rw [namesCalledIn, ih, List.flatMap_cons]

/-- What a part calls is called in the expression. -/
theorem calledNames_subset_of_mem_parts {part e : Expr} (h : part ∈ e.parts) : part.calledNames ⊆ e.calledNames := by
  have hlist {es : List Expr} (h : part ∈ es) : part.calledNames ⊆ namesCalledIn es := by
    rw [namesCalledIn_eq_flatMap]
    exact fun name hname => List.mem_flatMap.2 ⟨part, h, hname⟩
  cases e with
  | literal l => cases h
  | var name => cases h
  | array items => exact hlist h
  | call name args => exact List.subset_cons_of_subset name (hlist h)
  | control form args body =>
    rcases body with _ | ⟨params, body⟩
    · exact hlist h
    · rcases List.mem_append.1 h with h | h
      · exact List.subset_append_of_subset_left _ (hlist h)
      · obtain rfl := List.mem_singleton.1 h
        exact List.subset_append_right _ _
  | field base name =>
    obtain rfl := List.mem_singleton.1 h
    exact List.Subset.refl _
  | unary op operand =>
    obtain rfl := List.mem_singleton.1 h
    exact List.Subset.refl _
  | index base position =>
    simp only [parts, List.mem_cons, List.not_mem_nil, or_false] at h
    rcases h with rfl | rfl <;> simp [calledNames]
  | binary op left right =>
    simp only [parts, List.mem_cons, List.not_mem_nil, or_false] at h
    rcases h with rfl | rfl <;> simp [calledNames]
  | conditional condition yes no =>
    simp only [parts, List.mem_cons, List.not_mem_nil, or_false] at h
    rcases h with rfl | rfl | rfl <;> simp [calledNames]

/-! ## Two registries -/

/-- Registries in which the called names stand for the same are the same to an expression. -/
theorem eval_congr_lookup? {e : Expr} (h : ∀ name ∈ e.calledNames, r'.lookup? name = r.lookup? name) (s : Scope) :
    e.eval r' s = e.eval r s := by
  induction e using induction_parts generalizing s with
  | step e ih =>
    have hpart (part : Expr) (hpart : part ∈ e.parts) (s : Scope) : part.eval r' s = part.eval r s :=
      ih part hpart (fun name hname => h name (calledNames_subset_of_mem_parts hpart hname)) s
    refine eval_congr_parts (fun part hmem => hpart part (mem_parts_of_mem_outerParts hmem) s) ?_ (fun _ _ => rfl) ?_
    · rintro form args params b rfl values _
      exact hpart b (List.mem_append_right args List.mem_cons_self) _
    · rintro name args rfl values
      simp only [Registry.call, h name List.mem_cons_self]

end Expr

/-- A function that was added to a registry does not matter to an expression that does not call it, at any depth: its value is the
same and the same bodies run. Nor does it matter which of two registries an expression is evaluated in, if the names that it calls
stand for the same functions in both, or for none. -/
theorem eval_of_not_called (r : Registry) (e : Expr) (s : Scope) :
    (∀ f r', r.register f = .ok r' → f.name ∉ e.calledNames →
      (e.eval r' s).value = (e.eval r s).value ∧ (e.eval r' s).runs = (e.eval r s).runs) ∧
      ∀ r', (∀ name ∈ e.calledNames, r'.lookup? name = r.lookup? name) → e.eval r' s = e.eval r s := by
  refine ⟨fun f r' hregister hcalled => ?_, fun r' h => Expr.eval_congr_lookup? h s⟩
  have hsame : e.eval r' s = e.eval r s := by
    refine Expr.eval_congr_lookup? (fun name hname => ?_) s
    have hother : f.name ≠ name := fun heq => hcalled (heq ▸ hname)
    rw [Registry.lookup?_of_register hregister, if_neg hother]
  rw [hsame]
  exact ⟨rfl, rfl⟩

/-- `forEach(["a", " b"], v, trim(v))` -/
def trimLoop : Expr :=
  .control .forEach [.array [.literal (.string "a"), .literal (.string " b")]] (some ⟨["v"], .call "trim" [.var "v"]⟩)

/-- To a loop that calls one standard function, another function makes no difference, and the one alone is as good as all. -/
theorem eval_of_not_called_trimLoop :
    ∃ more trim, (Registry.standard ⟨0, 0, by decide⟩).register shout = .ok more ∧
      (Registry.standard ⟨0, 0, by decide⟩).lookup? "trim" = some trim ∧
      (trimLoop.eval more []).runs = (trimLoop.eval (.standard ⟨0, 0, by decide⟩) []).runs ∧
      trimLoop.eval ⟨[trim]⟩ [] = trimLoop.eval (.standard ⟨0, 0, by decide⟩) [] := by
  have hregister : (Registry.standard ⟨0, 0, by decide⟩).register shout = .ok _ := rfl
  have hlookup : (Registry.standard ⟨0, 0, by decide⟩).lookup? "trim" = some _ := rfl
  obtain ⟨hadded, hsame⟩ := eval_of_not_called (.standard ⟨0, 0, by decide⟩) trimLoop []
  refine ⟨_, _, hregister, hlookup, (hadded _ _ hregister (by decide)).2, hsame _ fun name hname => ?_⟩
  obtain rfl : name = "trim" := List.mem_singleton.1 hname
  rw [hlookup]
  rfl

end CellExpr
