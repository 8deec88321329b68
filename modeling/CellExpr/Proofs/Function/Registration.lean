import CellExpr.Function.Standard
import Mathlib.Data.List.Nodup

/-!
# Runs of registrations

Functions are registered one after the other, and some of them are rejected. A rejected one changes nothing; an accepted one
changes what its own name stands for, and nothing else (`register_eq_ok_iff`, `lookup?_of_register`). So a name stands for the
first function accepted under it, whatever follows (`registrations`).

Every registry that comes about is sound (`Sound`): names differ and declarations are right. For the registry of the standard
functions, which are put in without a check, this is checked here (`sound_standard`).
-/

namespace CellExpr

/-- There is a name, and the greatest number of arguments, if there is one, is enough for the least number and for all places. -/
structure Function.WellDeclared (f : Function) : Prop where
  name_ne : f.name ≠ ""
  le_most : ∀ most, f.maxArgs = some most → f.minArgs ≤ most ∧ f.params.length ≤ most

theorem Function.declarationError?_eq_none_iff {f : Function} : f.declarationError? = none ↔ f.WellDeclared := by
  rw [declarationError?]
  by_cases hname : f.name = ""
  · rw [if_pos hname]
    exact ⟨nofun, fun h => absurd hname h.name_ne⟩
  · rw [if_neg hname]
    cases hmost : f.maxArgs with
    | none => exact ⟨fun _ => ⟨hname, fun most h => by rw [hmost] at h; cases h⟩, fun _ => rfl⟩
    | some most =>
      have hbounds : f.WellDeclared ↔ f.minArgs ≤ most ∧ f.params.length ≤ most :=
        ⟨fun h => h.le_most most hmost, fun h => ⟨hname, fun _ heq => Option.some.inj (hmost.symm.trans heq) ▸ h⟩⟩
      simp only [hbounds]
      by_cases hleast : most < f.minArgs
      · rw [if_pos hleast]
        exact ⟨nofun, fun h => absurd h.1 (Nat.not_le.2 hleast)⟩
      · rw [if_neg hleast]
        by_cases hplaces : most < f.params.length
        · rw [if_pos hplaces]
          exact ⟨nofun, fun h => absurd h.2 (Nat.not_le.2 hplaces)⟩
        · rw [if_neg hplaces]
          exact ⟨fun _ => ⟨Nat.le_of_not_lt hleast, Nat.le_of_not_lt hplaces⟩, fun _ => rfl⟩

namespace Registry

variable {r r' : Registry} {f g : Function} {name : String} {e : RegistryError}

/-! ## One registration -/

theorem lookup?_cons (f : Function) (fs : List Function) (name : String) :
    (⟨f :: fs⟩ : Registry).lookup? name = if f.name = name then some f else (⟨fs⟩ : Registry).lookup? name := by
  rw [lookup?, lookup?, List.find?_cons]
  by_cases h : f.name = name
  · rw [if_pos h, h, beq_self_eq_true]
  · rw [if_neg h, beq_eq_false_iff_ne.2 h]

theorem name_of_lookup? (h : r.lookup? name = some f) : f.name = name := by
  have hname := List.find?_some h
  exact eq_of_beq hname

/-- What it takes to be accepted, and what becomes of the registry then. -/
theorem register_eq_ok_iff :
    r.register f = .ok r' ↔ (f.WellDeclared ∧ r.lookup? f.name = none) ∧ r' = ⟨f :: r.functions⟩ := by
  rw [register, ← Function.declarationError?_eq_none_iff, has]
  cases f.declarationError? with
  | some e => simp
  | none =>
    cases r.lookup? f.name with
    | some g => simp
    | none => simp [eq_comm]

theorem isOk_register_iff : (r.register f).isOk = true ↔ f.WellDeclared ∧ r.lookup? f.name = none := by
  constructor
  · intro h
    cases hregister : r.register f with
    | error e =>
      rw [hregister] at h
      cases h
    | ok r' => exact (register_eq_ok_iff.1 hregister).1
  · intro h
    rw [register_eq_ok_iff.2 ⟨h, rfl⟩]
    rfl

/-- An accepted function is what its name stands for; other names stand for what they stood for. -/
theorem lookup?_of_register (h : r.register f = .ok r') (name : String) :
    r'.lookup? name = if f.name = name then some f else r.lookup? name := by
  obtain ⟨_, rfl⟩ := register_eq_ok_iff.1 h
  exact lookup?_cons f r.functions name

/-- The registry after a function was registered or rejected. -/
def after (r : Registry) (f : Function) : Registry :=
  match r.register f with
  | .ok r' => r'
  | .error _ => r

theorem after_of_error (h : r.register f = .error e) : r.after f = r := by rw [after, h]

theorem after_of_ok (h : r.register f = .ok r') : r.after f = r' := by rw [after, h]

/-! ## Sound registries -/

/-- Names differ, and all declarations are right. -/
structure Sound (r : Registry) : Prop where
  nodup_names : (r.functions.map (·.name)).Nodup
  wellDeclared : ∀ f ∈ r.functions, f.WellDeclared

/-- In a sound registry each function is what its name stands for. -/
theorem Sound.lookup?_name (h : r.Sound) (hf : f ∈ r.functions) : r.lookup? f.name = some f := by
  obtain ⟨g, hg⟩ : ∃ g, r.lookup? f.name = some g := by
    refine Option.isSome_iff_exists.1 (List.find?_isSome.2 ⟨f, hf, ?_⟩)
    exact beq_self_eq_true _
  have hsame : g = f := List.inj_on_of_nodup_map h.nodup_names (List.mem_of_find?_eq_some hg) hf (name_of_lookup? hg)
  rw [hg, hsame]

theorem sound_empty : empty.Sound := ⟨List.nodup_nil, nofun⟩

/-- The standard functions have names that differ, and their declarations are right. -/
theorem sound_standard (now : Calendar.Instant) : (standard now).Sound where
  nodup_names := by
    -- Names do not depend on the instant, so those at one instant are compared.
    have hnames : (standardFunctions now).map (·.name) = (standardFunctions ⟨0, 0, by decide⟩).map (·.name) := rfl
    have hnodup : ((standardFunctions ⟨0, 0, by decide⟩).map (·.name)).Nodup := by decide +kernel
    exact hnames ▸ hnodup
  wellDeclared f hf := by
    have hall : (standardFunctions now).all (fun f => f.declarationError?.isNone) = true := rfl
    exact Function.declarationError?_eq_none_iff.1 (Option.isNone_iff_eq_none.1 (List.all_eq_true.1 hall f hf))

/-- A registration keeps a registry sound, accepted or not. -/
theorem Sound.after (h : r.Sound) (f : Function) : (r.after f).Sound := by
  cases hregister : r.register f with
  | error e => rwa [after_of_error hregister]
  | ok r' =>
    rw [after_of_ok hregister]
    obtain ⟨⟨hdeclared, hnew⟩, rfl⟩ := register_eq_ok_iff.1 hregister
    refine ⟨List.nodup_cons.2 ⟨fun hmem => ?_, h.nodup_names⟩, List.forall_mem_cons.2 ⟨hdeclared, h.wellDeclared⟩⟩
    obtain ⟨g, hg, hname⟩ := List.mem_map.1 hmem
    have hname : g.name = f.name := hname
    rw [← hname, h.lookup?_name hg] at hnew
    cases hnew

/-! ## Runs -/

/-- The registry after some functions were registered or rejected, one after the other. -/
def afterAll (r : Registry) (calls : List Function) : Registry := calls.foldl after r

/-- The functions that are accepted among some that are registered one after the other. -/
def accepted (r : Registry) : List Function → List Function
  | [] => []
  | f :: calls => if (r.register f).isOk then f :: (r.after f).accepted calls else (r.after f).accepted calls

theorem afterAll_append (calls more : List Function) : r.afterAll (calls ++ more) = (r.afterAll calls).afterAll more :=
  List.foldl_append

theorem accepted_cons_of_ok (h : r.register f = .ok r') (calls : List Function) :
    r.accepted (f :: calls) = f :: r'.accepted calls := by
  rw [accepted, h, after_of_ok h]
  rfl

theorem accepted_cons_of_error (h : r.register f = .error e) (calls : List Function) :
    r.accepted (f :: calls) = r.accepted calls := by
  rw [accepted, h, after_of_error h]
  rfl

theorem Sound.afterAll (h : r.Sound) (calls : List Function) : (r.afterAll calls).Sound := by
  induction calls generalizing r with
  | nil => exact h
  | cons f calls ih => exact ih (h.after f)

/-- After a run a name stands for what it stood for before, or else for the first function accepted under it. -/
theorem lookup?_afterAll (r : Registry) (calls : List Function) (name : String) :
    (r.afterAll calls).lookup? name = (r.lookup? name).or ((r.accepted calls).find? (·.name == name)) := by
  induction calls generalizing r with
  | nil => exact (Option.or_none).symm
  | cons f calls ih =>
    rw [afterAll, List.foldl_cons, ← afterAll, ih]
    cases hregister : r.register f with
    | error e => rw [after_of_error hregister, accepted_cons_of_error hregister]
    | ok r' =>
      rw [after_of_ok hregister, accepted_cons_of_ok hregister, lookup?_of_register hregister, List.find?_cons]
      by_cases hname : f.name = name
      · have hnew : r.lookup? name = none := hname ▸ (register_eq_ok_iff.1 hregister).1.2
        rw [if_pos hname, hnew, hname, beq_self_eq_true]
        rfl
      · rw [if_neg hname, beq_eq_false_iff_ne.2 hname]

theorem size_afterAll (r : Registry) (calls : List Function) :
    (r.afterAll calls).size = r.size + (r.accepted calls).length := by
  induction calls generalizing r with
  | nil => rfl
  | cons f calls ih =>
    rw [afterAll, List.foldl_cons, ← afterAll, ih]
    cases hregister : r.register f with
    | error e => rw [after_of_error hregister, accepted_cons_of_error hregister]
    | ok r' =>
      obtain ⟨_, rfl⟩ := register_eq_ok_iff.1 hregister
      rw [after_of_ok hregister, accepted_cons_of_ok hregister, size, size, List.length_cons, List.length_cons]
      omega

/-- Functions are registered in a registry that is empty or has the standard functions, and some of them are rejected. Each time a
function is accepted exactly if it has a name, which is not yet taken, and its declaration is right; if it is rejected nothing
changes, and otherwise what its own name stands for. So a name stands for the first function accepted under it for good, the
number of functions grows with those that are accepted, and of all functions that are there the names differ and the declarations
are right. -/
theorem registrations (now : Calendar.Instant) {start : Registry} (hstart : start = .empty ∨ start = .standard now)
    (calls : List Function) :
    (∀ before f after, calls = before ++ f :: after →
      let r := start.afterAll before
      let next := start.afterAll (before ++ [f])
      ((r.register f).isOk = true ↔
        f.name ≠ "" ∧ r.lookup? f.name = none ∧
          ∀ most, f.maxArgs = some most → f.minArgs ≤ most ∧ f.params.length ≤ most) ∧
      (∀ e, r.register f = .error e → next.size = r.size ∧ ∀ name, next.lookup? name = r.lookup? name) ∧
      ∀ r', r.register f = .ok r' →
        next = r' ∧ next.lookup? f.name = some f ∧ ∀ name, name ≠ f.name → next.lookup? name = r.lookup? name) ∧
    (∀ name, (start.afterAll calls).lookup? name =
      (start.lookup? name).or ((start.accepted calls).find? (·.name == name))) ∧
    (∀ before later name f, calls = before ++ later → (start.afterAll before).lookup? name = some f →
      (start.afterAll calls).lookup? name = some f) ∧
    (start.afterAll calls).size = start.size + (start.accepted calls).length ∧
    ((start.afterAll calls).functions.map (·.name)).Nodup ∧
    ∀ f ∈ (start.afterAll calls).functions, f.WellDeclared := by
  have hsound : (start.afterAll calls).Sound := by
    rcases hstart with rfl | rfl
    · exact sound_empty.afterAll calls
    · exact (sound_standard now).afterAll calls
  refine ⟨fun before f after _ => ?_, lookup?_afterAll start calls, ?_, size_afterAll start calls, hsound.nodup_names,
    hsound.wellDeclared⟩
  · intro r next
    have hnext : next = r.after f := afterAll_append before [f]
    refine ⟨?_, fun e he => ?_, fun r' hr' => ?_⟩
    · rw [isOk_register_iff]
      exact ⟨fun ⟨⟨hname, hmost⟩, hnew⟩ => ⟨hname, hnew, hmost⟩, fun ⟨hname, hnew, hmost⟩ => ⟨⟨hname, hmost⟩, hnew⟩⟩
    · rw [hnext, after_of_error he]
      exact ⟨rfl, fun _ => rfl⟩
    · rw [hnext, after_of_ok hr']
      refine ⟨rfl, ?_, fun name hname => ?_⟩
      · rw [lookup?_of_register hr', if_pos rfl]
      · rw [lookup?_of_register hr', if_neg fun h => hname h.symm]
  · rintro before later name f rfl hf
    rw [afterAll_append, lookup?_afterAll, hf]
    rfl

end Registry

/-- A function that takes a text. -/
def shout : Function := (Function.new "SPLIT" fun args _ => .ok (.array args)).taking [.string]

/-- A name that is taken, two declarations that are not right, no name, a function, and a second one under its name. -/
def mixedCalls : List Function :=
  [{ shout with name := "split" }, shout.withArity 3 (some 1), shout.withArity 0 (some 0), { shout with name := "" }, shout,
    shout.acceptingErrors]

/-- Of these one function is accepted, and its name stands for it also after the last call. -/
theorem Registry.registrations_mixed :
    let start := Registry.standard ⟨0, 0, by decide⟩
    (start.afterAll mixedCalls).size = start.size + 1 ∧
      (start.afterAll mixedCalls).lookup? "SPLIT" = some shout ∧
      (start.afterAll (mixedCalls.take 4)).lookup? "SPLIT" = none ∧
      ((start.afterAll (mixedCalls.take 4)).register shout).isOk = true := by
  intro start
  obtain ⟨hcall, hlookup, hkept, hsize, _⟩ := registrations ⟨0, 0, by decide⟩ (.inr rfl : start = _ ∨ _) mixedCalls
  have hnone : (start.afterAll (mixedCalls.take 4)).lookup? "SPLIT" = none := rfl
  obtain ⟨haccepted, _, hnext⟩ := hcall (mixedCalls.take 4) shout [shout.acceptingErrors] rfl
  have hok : ((start.afterAll (mixedCalls.take 4)).register shout).isOk = true :=
    haccepted.2 ⟨by decide, hnone, fun most hmost => Option.some.inj hmost ▸ ⟨Nat.le_refl 1, Nat.le_refl 1⟩⟩
  refine ⟨hsize.trans rfl, ?_, hnone, hok⟩
  refine hkept (mixedCalls.take 5) [shout.acceptingErrors] "SPLIT" shout rfl ?_
  exact (hnext _ (register_eq_ok_iff.2 ⟨isOk_register_iff.1 hok, rfl⟩)).2.1

end CellExpr
