import CellExpr.Function.Descriptor
import CellExpr.Proofs.Evaluation.Strictness
import Mathlib.Data.List.Induction

/-!
# Calls of declared functions

A function is declared step by step, and a later step may overwrite what an earlier one set. What is in force at the end can be
read off the steps, the latest first: the last step that sets a bound sets it for good, and the places are those of the last step
that starts them anew, followed by all that later steps add (`inForce_declared`).

A body runs once if the arguments fit the declaration that is in force, and not at all if they do not (`invoke_declared`). What
does not fit is looked for in order: the first error among the arguments, unless the function looks into errors; then their
number; then the first one of a kind that its place does not take. A call whose arguments do not fit comes to the same whatever
the body is.
-/

namespace CellExpr

/-- A step of a declaration. -/
inductive Declaration where
  | arity (least : Nat) (most : Option Nat)
  | taking (params : List Param)
  | optionally (params : List Param)
  | variadic (rest : Param)
  | acceptingErrors
  | describedAs (text : String)
  deriving DecidableEq, Repr

namespace Declaration

/-- The function after a step. -/
def apply (f : Function) : Declaration → Function
  | arity least most => f.withArity least most
  | taking params => f.taking params
  | optionally params => f.optionally params
  | variadic rest => f.variadic rest
  | acceptingErrors => f.acceptingErrors
  | describedAs text => f.describedAs text

/-! ## What a step sets -/

/-- The least number of arguments that a step sets. -/
def least? : Declaration → Option Nat
  | arity least _ => some least
  | taking params => some params.length
  | _ => none

/-- The greatest number of arguments that a step sets, if it is the last one to set it and there are so many places at the end. -/
def most? (places : Nat) : Declaration → Option (Option Nat)
  | arity _ most => some most
  | taking _ | optionally _ => some (some places)
  | variadic _ => some none
  | _ => none

/-- What a step sets for the places after those that are declared. -/
def rest? : Declaration → Option Param
  | variadic rest => some rest
  | _ => none

/-- The description that a step sets. -/
def description? : Declaration → Option String
  | describedAs text => some text
  | _ => none

/-- The places after some steps, the latest of which comes first. -/
def placesOf : List Declaration → List Param
  | [] => []
  | taking params :: _ => params
  | optionally params :: earlier => placesOf earlier ++ params
  | _ :: earlier => placesOf earlier

end Declaration

namespace Function

/-- The function with a name and a body that some steps declare, one after the other. -/
def declared (name : String) (body : Body) (steps : List Declaration) : Function :=
  steps.foldl Declaration.apply (new name body)

/-- What is in force in a declaration by some steps, the latest of which comes first. -/
structure InForce (f : Function) (name : String) (body : Body) (latest : List Declaration) : Prop where
  name_eq : f.name = name
  body_eq : f.body = body
  params_eq : f.params = Declaration.placesOf latest
  minArgs_eq : f.minArgs = (latest.findSome? Declaration.least?).getD 0
  maxArgs_eq : f.maxArgs = (latest.findSome? (Declaration.most? f.params.length)).getD (some 0)
  rest_eq : f.rest = (latest.findSome? Declaration.rest?).getD .any
  acceptsErrors_eq : f.acceptsErrors = latest.contains .acceptingErrors
  description_eq : f.description = latest.findSome? Declaration.description?

variable {f : Function} {name : String} {body : Body} {latest : List Declaration}

theorem inForce_new (name : String) (body : Body) : (new name body).InForce name body [] :=
  ⟨rfl, rfl, rfl, rfl, rfl, rfl, rfl, rfl⟩

/-- A step overwrites what it sets and keeps the rest. -/
theorem InForce.apply (h : f.InForce name body latest) (step : Declaration) :
    (step.apply f).InForce name body (step :: latest) := by
  obtain ⟨hname, hbody, hparams, hmin, hmax, hrest, herrors, hdescription⟩ := h
  cases step with
  | arity least most => exact ⟨hname, hbody, hparams, rfl, rfl, hrest, herrors, hdescription⟩
  | taking params => exact ⟨hname, hbody, rfl, rfl, rfl, hrest, herrors, hdescription⟩
  | optionally params =>
    refine ⟨hname, hbody, congrArg (· ++ params) hparams, hmin, ?_, hrest, herrors, hdescription⟩
    exact congrArg some List.length_append.symm
  | variadic rest => exact ⟨hname, hbody, hparams, hmin, rfl, rfl, herrors, hdescription⟩
  | acceptingErrors => exact ⟨hname, hbody, hparams, hmin, hmax, hrest, rfl, hdescription⟩
  | describedAs text => exact ⟨hname, hbody, hparams, hmin, hmax, hrest, herrors, rfl⟩

/-- What is in force is what the latest step that sets it has set. -/
theorem inForce_declared (name : String) (body : Body) (steps : List Declaration) :
    (declared name body steps).InForce name body steps.reverse := by
  induction steps using List.reverseRecOn with
  | nil => exact inForce_new name body
  | append_singleton steps step ih =>
    rw [declared, List.foldl_append, List.reverse_append]
    exact ih.apply step

end Function

end CellExpr

namespace CellExpr.Function

variable {f : Function} {args before after : List Value} {v : Value} {s : Scope}

/-! ## What fits -/

/-- No argument is an error, or the function looks into errors. -/
def LetsPass (f : Function) (args : List Value) : Prop := f.acceptsErrors = true ∨ ∀ v ∈ args, v.isError = false

/-- A number of arguments is within the bounds. There may be no upper one. -/
def TakesCount (f : Function) (count : Nat) : Prop := f.minArgs ≤ count ∧ ∀ most, f.maxArgs = some most → count ≤ most

/-- Each argument is of a kind that its place takes. -/
def TakesKinds (f : Function) (args : List Value) : Prop :=
  ∀ i v, args[i]? = some v → (f.paramAt i).accepts v = true

/-- The arguments fit: there is no error in the way, and their number and kinds are right. -/
structure Fits (f : Function) (args : List Value) : Prop where
  letsPass : f.LetsPass args
  takesCount : f.TakesCount args.length
  takesKinds : f.TakesKinds args

theorem acceptsCount_iff {count : Nat} : f.acceptsCount count = true ↔ f.TakesCount count := by
  rw [acceptsCount, Bool.and_eq_true, decide_eq_true_iff, TakesCount, Option.all_eq_true]
  simp only [decide_eq_true_iff]

theorem errorArgument?_eq_none_iff :
    (if f.acceptsErrors then none else args.find? Value.isError) = none ↔ f.LetsPass args := by
  rw [LetsPass]
  cases f.acceptsErrors with
  | true => simp
  | false => simp

/-! ## The first argument of a wrong kind -/

/-- Arguments that their places take are passed over. -/
theorem misfitFrom?_append {position : Nat}
    (h : ∀ i v, before[i]? = some v → (f.paramAt (position + i)).accepts v = true) (after : List Value) :
    f.misfitFrom? position (before ++ after) = f.misfitFrom? (position + before.length) after := by
  induction before generalizing position with
  | nil => rfl
  | cons v rest ih =>
    have hrest : ∀ i w, rest[i]? = some w → (f.paramAt (position + 1 + i)).accepts w = true := by
      intro i w hw
      rw [Nat.add_right_comm]
      exact h (i + 1) w hw
    have hfirst : (f.paramAt position).accepts v = true := h 0 v rfl
    rw [List.cons_append, misfitFrom?, if_pos hfirst, ih hrest, List.length_cons, Nat.add_assoc, Nat.add_comm 1]

theorem misfitFrom?_append_of_takesKinds (h : f.TakesKinds before) (after : List Value) :
    f.misfitFrom? 0 (before ++ after) = f.misfitFrom? before.length after := by
  rw [misfitFrom?_append (fun i v hv => by rw [Nat.zero_add]; exact h i v hv), Nat.zero_add]

theorem misfitFrom?_of_takesKinds (h : f.TakesKinds args) : f.misfitFrom? 0 args = none := by
  have happend := misfitFrom?_append_of_takesKinds h []
  rwa [List.append_nil] at happend

/-- The first argument that its place does not take is what is wrong with the kinds. -/
theorem misfitFrom?_of_first (hbefore : f.TakesKinds before) (hv : (f.paramAt before.length).accepts v = false)
    (after : List Value) :
    f.misfitFrom? 0 (before ++ v :: after) =
      some (.wrongKind f.name (f.paramAt before.length).describe (before.length + 1) v.typeName) := by
  rw [misfitFrom?_append_of_takesKinds hbefore, misfitFrom?, if_neg (by rw [hv]; decide)]

/-- Kinds that do not all fit have a first one that does not. -/
theorem exists_first_of_not_takesKinds (h : ¬f.TakesKinds args) :
    ∃ before v after, args = before ++ v :: after ∧ f.TakesKinds before ∧ (f.paramAt before.length).accepts v = false := by
  induction args using List.reverseRecOn with
  | nil => exact absurd nofun h
  | append_singleton rest v ih =>
    by_cases hrest : f.TakesKinds rest
    · refine ⟨rest, v, [], rfl, hrest, Bool.eq_false_iff.2 fun hv => h fun i w hw => ?_⟩
      rcases Nat.lt_trichotomy i rest.length with hlt | rfl | hgt
      · exact hrest i w ((List.getElem?_append_left hlt).symm.trans hw)
      · obtain rfl := Option.some.inj (List.getElem?_concat_length.symm.trans hw)
        exact hv
      · rw [List.getElem?_eq_none (by rw [List.length_append, List.length_singleton]; omega)] at hw
        cases hw
    · obtain ⟨before, w, after, rfl, hbefore, hw⟩ := ih hrest
      exact ⟨before, w, after ++ [v], by rw [List.append_assoc]; rfl, hbefore, hw⟩

/-! ## Calls -/

theorem invoke_of_misfit {fault : Fault} (hpass : f.LetsPass args) (h : f.misfit? args = some fault) :
    f.invoke args s = .just (.error fault.toError) := by
  rw [invoke, errorArgument?_eq_none_iff.2 hpass]
  simp only [h]

/-- A number of arguments that is not taken. -/
theorem invoke_of_not_takesCount (hpass : f.LetsPass args) (hcount : ¬f.TakesCount args.length) :
    f.invoke args s = .just (.error (Fault.wrongCount f.name f.countText args.length).toError) :=
  invoke_of_misfit hpass (if_neg fun h => hcount (acceptsCount_iff.1 h))

/-- A first argument of a kind that its place does not take. -/
theorem invoke_of_not_accepts (hpass : f.LetsPass (before ++ v :: after))
    (hcount : f.TakesCount (before ++ v :: after).length) (hbefore : f.TakesKinds before)
    (hv : (f.paramAt before.length).accepts v = false) :
    f.invoke (before ++ v :: after) s =
      .just (.error
        (Fault.wrongKind f.name (f.paramAt before.length).describe (before.length + 1) v.typeName).toError) := by
  refine invoke_of_misfit hpass ?_
  rw [misfit?, if_pos (acceptsCount_iff.2 hcount), misfitFrom?_of_first hbefore hv]

/-- The body runs on arguments that fit. -/
theorem invoke_of_fits (h : f.Fits args) :
    f.invoke args s = { (f.body args s).toTraced with runs := [⟨f.name, args⟩] } := by
  have hmisfit : f.misfit? args = none := by
    rw [misfit?, if_pos (acceptsCount_iff.2 h.takesCount), misfitFrom?_of_takesKinds h.takesKinds]
  rw [invoke, errorArgument?_eq_none_iff.2 h.letsPass]
  simp only [hmisfit]

/-- What a call comes to if the arguments do not fit. The body does not occur in it. -/
theorem exists_invoke_of_not_fits (h : ¬f.Fits args) :
    ∃ e : EvalError, ∀ body s, ({ f with body } : Function).invoke args s = .just (.error e) := by
  by_cases hpass : f.LetsPass args
  · by_cases hcount : f.TakesCount args.length
    · obtain ⟨before, v, after, rfl, hbefore, hv⟩ := exists_first_of_not_takesKinds fun hkinds => h ⟨hpass, hcount, hkinds⟩
      exact ⟨(Fault.wrongKind f.name (f.paramAt before.length).describe (before.length + 1) v.typeName).toError,
        fun body s => invoke_of_not_accepts (f := { f with body }) hpass hcount hbefore hv⟩
    · exact ⟨(Fault.wrongCount f.name f.countText args.length).toError,
        fun body s => invoke_of_not_takesCount (f := { f with body }) hpass hcount⟩
  · have hfind := mt errorArgument?_eq_none_iff.1 hpass
    obtain ⟨v, hv⟩ := Option.ne_none_iff_exists'.1 hfind
    have herrors : f.acceptsErrors = false := by
      by_contra haccepts
      exact hpass (.inl (by simpa using haccepts))
    rw [herrors, if_neg Bool.false_ne_true] at hv
    cases v with
    | error e =>
      refine ⟨e, fun body s => ?_⟩
      rw [invoke]
      simp only [herrors, Bool.false_eq_true, if_false, hv]
    | _ => cases List.find?_some hv

theorem declared_body (name : String) (body other : Body) (steps : List Declaration) :
    declared name other steps = { declared name body steps with body := other } := by
  induction steps using List.reverseRecOn with
  | nil => rfl
  | append_singleton steps step ih =>
    simp only [declared, List.foldl_append, List.foldl_cons, List.foldl_nil] at ih ⊢
    rw [ih]
    cases step <;> rfl

/-- A function is called with any arguments after any steps of declaration, of which the latest that sets something is in force.
The body runs once if the arguments fit, and the result is its value or its error. If they do not fit it does not run, and what it
is does not matter. The result is then the first error among the arguments, if the function does not look into errors; otherwise an
error about their number, if it is not taken; otherwise one that names the first place that does not take its argument. -/
theorem invoke_declared (name : String) (body : Body) (steps : List Declaration) (args : List Value) (s : Scope) :
    let f := declared name body steps
    let t := f.invoke args s
    f.InForce name body steps.reverse ∧
      (f.Fits args →
        t.runs = [⟨name, args⟩] ∧ (∀ v, body args s = .ok v → t.value = v) ∧
          ∀ e, body args s = .error (.error e) → t.value = .error e) ∧
      (¬f.Fits args → t.runs = [] ∧ ∀ other, (declared name other steps).invoke args s = t) ∧
      (f.acceptsErrors = false → ∀ before e after, args = before ++ .error e :: after →
        (∀ v ∈ before, v.isError = false) → t.value = .error e) ∧
      (f.LetsPass args → ¬f.TakesCount args.length →
        t.value = .error {
          kind := .arity
          message := "type error: " ++ s!"{name} expects {f.countText} arguments, got {args.length}" }) ∧
      (f.LetsPass args → f.TakesCount args.length → ∀ before v after, args = before ++ v :: after →
        f.TakesKinds before → (f.paramAt before.length).accepts v = false →
        t.value = .error {
          kind := .type
          message := "type error: " ++
            s!"{name} expects {(f.paramAt before.length).describe} as argument {before.length + 1}, got {v.typeName}" }) := by
  intro f t
  have hforce : f.InForce name body steps.reverse := inForce_declared name body steps
  have hname : f.name = name := hforce.name_eq
  refine ⟨hforce, fun hfits => ?_, fun hfits => ?_, fun herrors before e after hargs hbefore => ?_,
    fun hpass hcount => ?_, fun hpass hcount before v after hargs hbefore hv => ?_⟩
  · have ht : t = { (body args s).toTraced with runs := [⟨name, args⟩] } := by
      rw [← hforce.body_eq, ← hname]
      exact invoke_of_fits hfits
    rw [ht]
    exact ⟨rfl, fun v hv => by rw [hv]; rfl, fun e he => by rw [he]; rfl⟩
  · obtain ⟨e, he⟩ := exists_invoke_of_not_fits hfits
    have ht : t = .just (.error e) := he f.body s
    rw [ht]
    exact ⟨rfl, fun other => by rw [declared_body name body other]; exact he other s⟩
  · subst hargs
    exact value_invoke_of_error herrors hbefore after
  · have ht : t = _ := invoke_of_not_takesCount hpass hcount
    rw [ht, hname]
    rfl
  · subst hargs
    have ht : t = _ := invoke_of_not_accepts hpass hcount hbefore hv
    rw [ht, hname]
    rfl

/-- A declaration whose later steps bound what the first one left open. -/
def countSteps : List Declaration :=
  [.variadic .date, .taking [.string], .optionally [.boolean], .describedAs "the arguments"]

/-- The body that gives its arguments back. -/
def listBody : Body := fun args _ => .ok (.array args)

/-- Two arguments that fit, an error behind an argument of a wrong kind, a wrong kind in the second place, and one argument too
many. -/
theorem invoke_declared_count :
    let f := declared "count" listBody countSteps
    let e : EvalError := { kind := .semantic, message := "upstream" }
    (f.invoke [.string "x", .boolean true] []).runs = [⟨"count", [.string "x", .boolean true]⟩] ∧
      (f.invoke [.string "x", .boolean true] []).value = .array [.string "x", .boolean true] ∧
      (f.invoke [.null, .error e] []).value = .error e ∧
      (f.invoke [.string "x", .null] []).value = .error {
        kind := .type
        message := "type error: count expects boolean as argument 2, got null" } ∧
      (f.invoke [.string "x", .boolean true, .null] []).value = .error {
        kind := .arity
        message := "type error: count expects between 1 and 2 arguments, got 3" } := by
  intro f e
  have hcount : f.TakesCount 2 := ⟨by decide, fun most hmost => Nat.le_of_eq (Option.some.inj hmost)⟩
  have hfirst : f.TakesKinds [.string "x"] := by
    intro i v hv
    match i, hv with
    | 0, hv =>
      obtain rfl := Option.some.inj hv
      rfl
  have hfits : f.Fits [.string "x", .boolean true] := by
    refine ⟨.inr (by decide), hcount, fun i v hv => ?_⟩
    match i, hv with
    | 0, hv | 1, hv =>
      obtain rfl := Option.some.inj hv
      rfl
  obtain ⟨_, hruns, _⟩ := invoke_declared "count" listBody countSteps [.string "x", .boolean true] []
  obtain ⟨_, _, _, herror, _⟩ := invoke_declared "count" listBody countSteps [.null, .error e] []
  obtain ⟨_, _, _, _, _, hkind⟩ := invoke_declared "count" listBody countSteps [.string "x", .null] []
  obtain ⟨_, _, _, _, harity, _⟩ := invoke_declared "count" listBody countSteps [.string "x", .boolean true, .null] []
  refine ⟨(hruns hfits).1, (hruns hfits).2.1 _ rfl, herror rfl [.null] e [] rfl (by decide), ?_, ?_⟩
  · rw [hkind (.inr (by decide)) hcount [.string "x"] .null [] rfl hfirst rfl]
    exact congrArg Value.error (by decide)
  · rw [harity (.inr (by decide)) fun h => absurd (h.2 2 rfl) (by decide)]
    exact congrArg Value.error (by decide)

end CellExpr.Function
