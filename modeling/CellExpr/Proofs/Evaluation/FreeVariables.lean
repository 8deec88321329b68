import CellExpr.Function.Standard
import CellExpr.Proofs.Evaluation.Congruence
import Mathlib.Data.List.Induction
import Mathlib.Data.List.Nodup

/-!
# Free variables

The value of an expression depends on its free variables alone, if its functions look at their arguments alone
(`eval_congr_freeVars`). All standard functions do, so two scopes in which the free variables stand for the same are the same to
an expression; frames within each other may be merged into one (`eval_of_agree`).
-/

namespace CellExpr

/-! ## Scopes -/

namespace Frame

theorem lookup_cons (name : String) (value : Value) (f : Frame) (other : String) :
    List.lookup other ((name, value) :: f) = if other = name then some value else f.lookup other := by
  rw [List.lookup_cons]
  by_cases h : other = name
  · rw [if_pos h, beq_iff_eq.2 h]
  · rw [if_neg h, beq_eq_false_iff_ne.2 h]

theorem lookup_set (f : Frame) (name : String) (value : Value) (other : String) :
    (f.set name value).lookup other = if other = name then some value else f.lookup other := by
  induction f with
  | nil => exact lookup_cons name value [] other
  | cons p f ih =>
    obtain ⟨n, v⟩ := p
    rw [set]
    by_cases hn : n = name
    · subst hn
      rw [if_pos rfl, lookup_cons, lookup_cons]
      split <;> rfl
    · rw [if_neg hn, lookup_cons, lookup_cons, ih]
      by_cases h : other = n
      · rw [if_pos h, if_pos h, if_neg fun heq => hn (h ▸ heq)]
      · rw [if_neg h, if_neg h]

theorem mem_names_set {f : Frame} {name other : String} {value : Value} (h : other ∈ (f.set name value).names) :
    other = name ∨ other ∈ f.names := by
  induction f with
  | nil => exact .inl (List.mem_singleton.1 h)
  | cons p f ih =>
    rw [set] at h
    split at h
    · rename_i hn
      rcases List.mem_cons.1 h with h | h
      · exact .inl h
      · exact .inr (List.mem_cons_of_mem _ h)
    · rcases List.mem_cons.1 h with h | h
      · exact .inr (List.mem_cons.2 (.inl h))
      · exact (ih h).imp_right (List.mem_cons_of_mem _)

/-- Setting a variable keeps names apart. -/
theorem nodup_names_set {f : Frame} (hf : f.names.Nodup) (name : String) (value : Value) : (f.set name value).names.Nodup := by
  induction f with
  | nil => exact List.nodup_singleton name
  | cons p f ih =>
    obtain ⟨hp, hf⟩ := List.nodup_cons.1 hf
    rw [set]
    split
    · rename_i hn
      exact List.nodup_cons.2 ⟨hn ▸ hp, hf⟩
    · rename_i hn
      refine List.nodup_cons.2 ⟨fun hmem => ?_, ih hf⟩
      rcases mem_names_set hmem with h | h
      · exact hn h
      · exact hp h

theorem exists_lookup_ofPairs {pairs : List (String × Value)} {name : String} (h : name ∈ pairs.map (·.1)) :
    ∃ value, (ofPairs pairs).lookup name = some value := by
  induction pairs using List.reverseRecOn with
  | nil => cases h
  | append_singleton pairs p ih =>
    rw [ofPairs, List.foldl_concat, ← ofPairs, lookup_set]
    by_cases hp : name = p.1
    · exact ⟨p.2, if_pos hp⟩
    · rw [if_neg hp]
      rw [List.map_append, List.mem_append] at h
      exact ih (h.resolve_right fun hmem => hp (List.mem_singleton.1 hmem))

/-- In the frame of parameters each one that has a value stands for something. -/
theorem exists_lookup_ofParams {params : List String} {values : List Value} {name : String}
    (h : name ∈ params.take values.length) : ∃ value, (ofParams params values).lookup name = some value := by
  refine exists_lookup_ofPairs ?_
  induction params generalizing values with
  | nil =>
    rw [List.take_nil] at h
    cases h
  | cons param params ih =>
    cases values with
    | nil => cases h
    | cons v values =>
      rcases List.mem_cons.1 h with h | h
      · exact List.mem_cons.2 (.inl h)
      · exact List.mem_cons_of_mem _ (ih h)

theorem not_mem_of_lookup_ofParams {params : List String} {values : List Value} {name : String}
    (h : (ofParams params values).lookup name = none) : name ∉ params.take values.length := by
  intro hmem
  obtain ⟨value, hvalue⟩ := exists_lookup_ofParams hmem
  cases h.symm.trans hvalue

/-- The frame with what another frame outside it has besides. -/
def atop (f outer : Frame) : Frame := f.foldr (fun (name, value) g => g.set name value) outer

theorem lookup_atop (f outer : Frame) (name : String) :
    (atop f outer).lookup name = (f.lookup name).or (outer.lookup name) := by
  induction f with
  | nil => rfl
  | cons p f ih =>
    have hstep : atop (p :: f) outer = (atop f outer).set p.1 p.2 := rfl
    rw [hstep, lookup_set, ih, lookup_cons]
    split <;> rfl

end Frame

namespace Scope

variable {s s' : Scope}

theorem get?_enter (s : Scope) (f : Frame) (name : String) : (s.enter f).get? name = (f.lookup name).or (s.get? name) := by
  rw [enter, get?, List.findSome?_cons, ← get?]
  cases f.lookup name <;> rfl

/-- Within frames that have the same for two names these stand for the same, if they do outside where the frames have nothing. -/
theorem get?_enter_congr {f f' : Frame} {name name' : String} (hframe : f'.lookup name' = f.lookup name)
    (h : f.lookup name = none → s'.get? name' = s.get? name) : (s'.enter f').get? name' = (s.enter f).get? name := by
  rw [get?_enter, get?_enter, hframe]
  cases hlookup : f.lookup name with
  | none => exact h hlookup
  | some => rfl

/-- All frames in one: what an inner frame has overrides what outer ones have. -/
def merged (s : Scope) : Frame := s.foldr Frame.atop []

theorem lookup_merged (s : Scope) (name : String) : s.merged.lookup name = s.get? name := by
  induction s with
  | nil => rfl
  | cons f s ih =>
    have hstep : merged (f :: s) = Frame.atop f (merged s) := rfl
    rw [hstep, Frame.lookup_atop, ih]
    exact (get?_enter s f name).symm

theorem get?_merged (s : Scope) (name : String) : get? [s.merged] name = s.get? name := by
  rw [get?, List.findSome?_cons, List.findSome?_nil, lookup_merged]
  cases s.get? name <;> rfl

/-- In the merged frame each name occurs once. -/
theorem nodup_names_merged (s : Scope) : s.merged.names.Nodup := by
  have hatop (f : Frame) {outer : Frame} (h : outer.names.Nodup) : (Frame.atop f outer).names.Nodup := by
    induction f with
    | nil => exact h
    | cons p f ih => exact Frame.nodup_names_set ih p.1 p.2
  induction s with
  | nil => exact List.nodup_nil
  | cons f s ih => exact hatop f ih

end Scope

/-! ## Functions of their arguments -/

/-- The body gives the same in all scopes. -/
def Function.IgnoresScope (f : Function) : Prop := ∀ args s s', f.body args s' = f.body args s

/-- No standard function looks at variables. -/
theorem ignoresScope_standard (now : Calendar.Instant) : ∀ f ∈ standardFunctions now, f.IgnoresScope := by
  intro f hf args s s'
  have hsame : (standardFunctions now).map (fun f => f.body args s') = (standardFunctions now).map (fun f => f.body args s) := rfl
  exact List.map_inj_left.1 hsame f hf

namespace Registry

variable {r : Registry} {s s' : Scope}

theorem call_congr_scope (hr : ∀ f ∈ r.functions, f.IgnoresScope) (name : String) (args : List Value) :
    r.call name args s' = r.call name args s := by
  rw [call, call]
  cases hf : r.lookup? name with
  | none => rfl
  | some f =>
    have hbody := hr f (List.mem_of_find?_eq_some hf) args s s'
    simp only [Function.invoke, hbody]

/-- The registry without the function of a name. -/
def without (r : Registry) (name : String) : Registry := ⟨r.functions.filter (·.name ≠ name)⟩

theorem ignoresScope_without (now : Calendar.Instant) (name : String) :
    ∀ f ∈ ((standard now).without name).functions, f.IgnoresScope :=
  fun f hf => ignoresScope_standard now f (List.mem_filter.1 hf).1

/-- Without the function that tells the time, the standard functions are the same at any time. -/
theorem standard_without_now (now now' : Calendar.Instant) : (standard now').without "now" = (standard now).without "now" := by
  simp [without, standard, ofFunctions, standardFunctions, DateFunctions.all, Function.new]

end Registry

/-! ## Expressions -/

namespace Expr

variable {r : Registry} {s s' : Scope}

mutual

/-- The variables that an expression does not bind itself. A control form binds its parameters in its body alone; parameters
for which it has no values are not bound. -/
def freeVars : Expr → List String
  | literal _ => []
  | var name => [name]
  | field base _ => base.freeVars
  | index base position => base.freeVars ++ position.freeVars
  | array items => freeVarsIn items
  | call _ args => freeVarsIn args
  | control _ args none => freeVarsIn args
  | control form args (some ⟨params, body⟩) =>
    freeVarsIn args ++ body.freeVars.filter (· ∉ params.take form.parameters)
  | unary _ operand => operand.freeVars
  | binary _ left right => left.freeVars ++ right.freeVars
  | conditional condition yes no => condition.freeVars ++ yes.freeVars ++ no.freeVars

/-- The variables that some expressions do not bind themselves. -/
def freeVarsIn : List Expr → List String
  | [] => []
  | e :: rest => e.freeVars ++ freeVarsIn rest

end

theorem freeVarsIn_eq_flatMap (es : List Expr) : freeVarsIn es = es.flatMap freeVars := by
  induction es with
  | nil => rfl
  | cons e rest ih => rw [freeVarsIn, ih, List.flatMap_cons]

theorem freeVars_subset_of_mem_outerParts {part e : Expr} (h : part ∈ e.outerParts) : part.freeVars ⊆ e.freeVars := by
  have hlist {es : List Expr} (h : part ∈ es) : part.freeVars ⊆ freeVarsIn es := by
    rw [freeVarsIn_eq_flatMap]
    exact fun name hname => List.mem_flatMap.2 ⟨part, h, hname⟩
  cases e with
  | literal l => cases h
  | var name => cases h
  | array items => exact hlist h
  | call name args => exact hlist h
  | control form args body =>
    rcases body with _ | ⟨params, body⟩
    · exact hlist h
    · exact List.subset_append_of_subset_left _ (hlist h)
  | _ =>
    simp only [outerParts, parts, List.mem_cons, List.not_mem_nil, or_false] at h
    rcases h with rfl | rfl | rfl <;> simp [freeVars]

theorem mem_freeVars_control {form : ControlForm} {args : List Expr} {params : List String} {body : Expr} {name : String}
    (h : name ∈ body.freeVars) (hname : name ∉ params.take form.parameters) :
    name ∈ (control form args (some ⟨params, body⟩)).freeVars :=
  List.mem_append_right _ (List.mem_filter.2 ⟨h, by simpa using hname⟩)

end Expr

/-- Within a frame of parameters, scopes that agree on the other variables agree. -/
theorem Scope.get?_enter_ofParams {s s' : Scope} {params : List String} {values : List Value} {name : String}
    (h : name ∉ params.take values.length → s'.get? name = s.get? name) :
    (s'.enter (.ofParams params values)).get? name = (s.enter (.ofParams params values)).get? name :=
  get?_enter_congr rfl fun hnone => h (Frame.not_mem_of_lookup_ofParams hnone)

/-- Scopes that agree on the free variables of an expression are the same to it, if the functions ignore scopes. -/
theorem Expr.eval_congr_freeVars {r : Registry} (hr : ∀ f ∈ r.functions, f.IgnoresScope) {e : Expr} {s s' : Scope}
    (h : ∀ name ∈ e.freeVars, s'.get? name = s.get? name) : e.eval r s' = e.eval r s := by
  induction e using induction_parts generalizing s s' with
  | step e ih =>
    refine eval_congr_parts (fun part hpart => ?_) ?_ ?_ (fun name _ _ values => r.call_congr_scope hr name values)
    · refine ih part (mem_parts_of_mem_outerParts hpart) fun name hname => h name ?_
      exact freeVars_subset_of_mem_outerParts hpart hname
    · rintro form args params body rfl values hvalues
      refine ih body (List.mem_append_right args List.mem_cons_self) fun name hname => ?_
      refine Scope.get?_enter_ofParams fun hparam => h name ?_
      exact mem_freeVars_control hname (hvalues ▸ hparam)
    · rintro name rfl
      exact h name List.mem_cons_self

/-- Two scopes in which the free variables of an expression stand for the same are the same to it under the standard functions,
that which tells the time left out: the value and the trace do not change. So one frame, in which inner frames override outer
ones, is as good as all frames within each other. -/
theorem eval_of_agree (now now' : Calendar.Instant) (e : Expr) (s : Scope) :
    (∀ s' : Scope, (∀ name ∈ e.freeVars, s'.get? name = s.get? name) →
      e.eval ((Registry.standard now').without "now") s' = e.eval ((Registry.standard now).without "now") s) ∧
      s.merged.names.Nodup ∧
      e.eval ((Registry.standard now').without "now") [s.merged] = e.eval ((Registry.standard now).without "now") s := by
  have hignores := Registry.ignoresScope_without now "now"
  rw [Registry.standard_without_now now now']
  refine ⟨fun s' h => Expr.eval_congr_freeVars hignores h, s.nodup_names_merged, ?_⟩
  exact Expr.eval_congr_freeVars hignores fun name _ => s.get?_merged name

/-- `forEach([x], v, forEach([v, y], x, x + v))` -/
def shadowingLoop : Expr :=
  .control .forEach [.array [.var "x"]] (some ⟨["v"],
    .control .forEach [.array [.var "v", .var "y"]] (some ⟨["x"], .binary .add (.var "x") (.var "v")⟩)⟩)

/-- The loops bind `v` and the `x` of the innermost body, so what the scopes have for `v` does not matter, nor what an outer frame
has for `x`. -/
theorem eval_of_agree_shadowingLoop :
    shadowingLoop.freeVars = ["x", "y"] ∧
      (shadowingLoop.eval ((Registry.standard ⟨1, 0, by decide⟩).without "now")
          [[("v", .null), ("y", .string "b"), ("x", .string "a")]]).value =
        (shadowingLoop.eval ((Registry.standard ⟨0, 0, by decide⟩).without "now")
          [[("x", .string "a")], [("y", .string "b"), ("x", .null)]]).value := by
  have hfree : shadowingLoop.freeVars = ["x", "y"] := by decide
  refine ⟨hfree, congrArg Traced.value ((eval_of_agree _ _ shadowingLoop _).1 _ fun name hname => ?_)⟩
  rw [hfree] at hname
  rcases List.mem_cons.1 hname with rfl | hname
  · rfl
  · obtain rfl := List.mem_singleton.1 hname
    rfl

end CellExpr
