import CellExpr.Proofs.Evaluation.FreeVariables

/-!
# Nested frames

Frames are entered and left, and variables are set and looked up in them, in any order, but the outermost frame is never left. A name
stands for the value that was set last for it in the innermost open frame in which it was set at all; setting it changes nothing for other
names and in other frames; and after a frame has been entered and left, everything is as before, whatever happened in between
(`nested_frames`).

What a name stands for is told here by the steps alone, the latest first, without a look at what frames hold.
-/

namespace CellExpr

/-- What is done with nested frames. -/
inductive FrameStep where
  | enter
  | leave
  | set (name : String) (value : Value)
  | get (name : String)

/-! ## Steps -/

namespace Scope

/-- The scope after a step. There is none if the outermost frame would be left. A lookup leaves everything as it is. -/
def step? (s : Scope) : FrameStep → Option Scope
  | .enter => some (s.enter [])
  | .leave =>
    match s with
    | _ :: outer :: others => some (outer :: others)
    | _ => none
  | .set name value => some (s.set name value)
  | .get _ => some s

/-- The scope after some steps. -/
def run? (s : Scope) (steps : List FrameStep) : Option Scope := steps.foldlM step? s

/-- What the lookups among some steps find, in order. -/
def lookups (s : Scope) : List FrameStep → List (Option Value)
  | [] => []
  | .get name :: rest => s.get? name :: s.lookups rest
  | step :: rest => ((s.step? step).map fun t => t.lookups rest).getD []

end Scope

namespace FrameStep

/-! ## What the steps tell -/

/-- The frames that are open after some steps, of which the latest comes first. The innermost frame comes first. A frame has the number of
the step that entered it, and the outermost one has the number 0. -/
def openFrames : List FrameStep → List Nat
  | [] => [0]
  | .enter :: earlier => (earlier.length + 1) :: openFrames earlier
  | .leave :: earlier => (openFrames earlier).tail
  | _ :: earlier => openFrames earlier

/-- The value that was set last for a name in a frame by some steps, of which the latest comes first. -/
def latest? (frame : Nat) (name : String) : List FrameStep → Option Value
  | [] => none
  | .set other value :: earlier =>
    if other = name ∧ (openFrames earlier).head? = some frame then some value else latest? frame name earlier
  | _ :: earlier => latest? frame name earlier

/-- The value that was set last for a name in the innermost open frame in which it was set. -/
def current? (name : String) (history : List FrameStep) : Option Value :=
  (openFrames history).findSome? fun frame => latest? frame name history

/-- What the lookups among some steps have to find, after others of which the latest comes first. -/
def answers (history : List FrameStep) : List FrameStep → List (Option Value)
  | [] => []
  | .get name :: rest => current? name history :: answers (.get name :: history) rest
  | step :: rest => answers (step :: history) rest

/-- In steps that are balanced each frame that is entered is left, and no other frame is. -/
inductive Balanced : List FrameStep → Prop
  | nil : Balanced []
  | set (name : String) (value : Value) {rest : List FrameStep} (hrest : Balanced rest) : Balanced (.set name value :: rest)
  | get (name : String) {rest : List FrameStep} (hrest : Balanced rest) : Balanced (.get name :: rest)
  | block {inner rest : List FrameStep} (hinner : Balanced inner) (hrest : Balanced rest) :
      Balanced (.enter :: (inner ++ .leave :: rest))

/-- The outermost frame is not left by any of the steps, where so many frames are open within it. -/
def StaysInside : Nat → List FrameStep → Prop
  | _, [] => True
  | depth, .enter :: rest => StaysInside (depth + 1) rest
  | 0, .leave :: _ => False
  | depth + 1, .leave :: rest => StaysInside depth rest
  | depth, _ :: rest => StaysInside depth rest

variable {history : List FrameStep} {frame : Nat} {name : String}

theorem le_length_of_mem_openFrames (h : frame ∈ openFrames history) : frame ≤ history.length := by
  induction history with
  | nil => exact Nat.le_of_eq (List.mem_singleton.1 h)
  | cons step earlier ih =>
    rw [List.length_cons]
    cases step with
    | enter =>
      rcases List.mem_cons.1 h with rfl | h
      · exact Nat.le_refl _
      · exact Nat.le_succ_of_le (ih h)
    | leave => exact Nat.le_succ_of_le (ih (List.mem_of_mem_tail h))
    | set | get => exact Nat.le_succ_of_le (ih h)

/-- An inner frame was entered later, so that no two open frames have the same number. -/
theorem pairwise_openFrames (history : List FrameStep) : (openFrames history).Pairwise (· > ·) := by
  induction history with
  | nil => exact List.pairwise_singleton _ _
  | cons step earlier ih =>
    cases step with
    | enter => exact List.pairwise_cons.2 ⟨fun frame h => Nat.lt_succ_of_le (le_length_of_mem_openFrames h), ih⟩
    | leave => exact ih.tail
    | set | get => exact ih

/-- Nothing was set in a frame that has not been entered. -/
theorem latest?_of_length_lt (h : history.length < frame) : latest? frame name history = none := by
  induction history with
  | nil => rfl
  | cons step earlier ih =>
    have hearlier : earlier.length < frame := Nat.lt_of_succ_lt h
    cases step with
    | set other value =>
      have hframe : ¬(other = name ∧ (openFrames earlier).head? = some frame) := fun hset =>
        absurd (le_length_of_mem_openFrames (List.mem_of_mem_head? hset.2)) (Nat.not_le.2 hearlier)
      rw [latest?, if_neg hframe, ih hearlier]
    | enter | leave | get => exact ih hearlier

end FrameStep

/-! ## What the frames hold -/

namespace Scope

open FrameStep

variable {s t : Scope} {history steps block : List FrameStep} {step : FrameStep} {name other : String} {value : Value}

/-- The frames of the scope are the open ones, and each holds for a name what was set last for it in this frame. -/
structure Agrees (s : Scope) (history : List FrameStep) : Prop where
  nonempty : s ≠ []
  frames : List.Forall₂ (fun f frame => ∀ name, List.lookup name f = latest? frame name history) s (openFrames history)

theorem Agrees.get? (h : s.Agrees history) (name : String) : s.get? name = current? name history := by
  obtain ⟨-, hframes⟩ := h
  rw [Scope.get?, current?]
  generalize openFrames history = frames at hframes
  induction hframes with
  | nil => rfl
  | cons hframe _ ih => rw [List.findSome?_cons, List.findSome?_cons, hframe name, ih]

/-- Entering a frame adds one in which nothing has been set. -/
theorem Agrees.enter (h : s.Agrees history) : (s.enter []).Agrees (.enter :: history) :=
  ⟨nofun, .cons (fun _ => (latest?_of_length_lt (Nat.lt_succ_self history.length)).symm) h.frames⟩

/-- Setting a variable changes the innermost frame, and no other open frame has its number. -/
theorem Agrees.set (h : s.Agrees history) (name : String) (value : Value) :
    (s.set name value).Agrees (.set name value :: history) := by
  obtain ⟨hnonempty, hframes⟩ := h
  have hpairwise := pairwise_openFrames history
  cases s with
  | nil => exact absurd rfl hnonempty
  | cons f outer =>
    refine ⟨nofun, ?_⟩
    show List.Forall₂ (fun f frame => ∀ other, List.lookup other f = if name = other ∧ (openFrames history).head? = some frame then
      some value else latest? frame other history) (f.set name value :: outer) (openFrames history)
    generalize openFrames history = frames at hframes hpairwise
    obtain _ | @⟨_, inner, _, frames, hframe, houter⟩ := hframes
    obtain ⟨hinner, -⟩ := List.pairwise_cons.1 hpairwise
    refine .cons (fun other => ?_) ?_
    · rw [Frame.lookup_set, hframe other]
      simp only [List.head?_cons, and_true, eq_comm]
    · clear hpairwise hframe
      induction houter with
      | nil => exact .nil
      | @cons _ frame _ _ hframe _ ih =>
        obtain ⟨hlt, hrest⟩ := List.forall_mem_cons.1 hinner
        refine .cons (fun other => ?_) (ih nofun hrest)
        rw [hframe other, if_neg]
        rintro ⟨-, hsame⟩
        exact absurd (Option.some.inj hsame) (Nat.ne_of_gt hlt)

/-- Each step that can be taken keeps frames and steps in agreement. -/
theorem Agrees.step? (h : s.Agrees history) (hstep : s.step? step = some t) : t.Agrees (step :: history) := by
  cases step with
  | enter =>
    obtain rfl := Option.some.inj hstep
    exact h.enter
  | set name value =>
    obtain rfl := Option.some.inj hstep
    exact h.set name value
  | get name =>
    obtain rfl := Option.some.inj hstep
    exact ⟨h.nonempty, h.frames⟩
  | leave =>
    obtain ⟨-, hframes⟩ := h
    match s, hstep with
    | f :: outer :: others, hstep =>
      obtain rfl := Option.some.inj hstep
      refine ⟨nofun, ?_⟩
      show List.Forall₂ (fun f frame => ∀ name, List.lookup name f = latest? frame name history) _ (openFrames history).tail
      generalize openFrames history = frames at hframes
      obtain _ | ⟨-, houter⟩ := hframes
      exact houter

theorem run?_cons (s : Scope) (step : FrameStep) (steps : List FrameStep) :
    s.run? (step :: steps) = (s.step? step).bind fun t => t.run? steps := rfl

theorem run?_append (s : Scope) (steps more : List FrameStep) :
    s.run? (steps ++ more) = (s.run? steps).bind fun t => t.run? more := List.foldlM_append

/-- All steps can be taken that do not leave the outermost frame. -/
theorem exists_run? {depth : Nat} (h : StaysInside depth steps) (hlength : s.length = depth + 1) : ∃ t, s.run? steps = some t := by
  induction steps generalizing s depth with
  | nil => exact ⟨s, rfl⟩
  | cons step steps ih =>
    rw [run?_cons]
    cases step with
    | enter => exact ih h (congrArg Nat.succ hlength)
    | set name value =>
      obtain ⟨f, outer, rfl⟩ := List.exists_cons_of_length_eq_add_one hlength
      exact ih h hlength
    | get name => exact ih h hlength
    | leave =>
      cases depth with
      | zero => exact h.elim
      | succ depth =>
        match s, hlength with
        | _ :: outer :: others, hlength => exact ih h (Nat.succ.inj hlength)

/-- All steps of a run keep frames and steps in agreement, and the lookups among them find what was set. -/
theorem Agrees.run (h : s.Agrees history) (hrun : s.run? steps = some t) :
    t.Agrees (steps.reverse ++ history) ∧ s.lookups steps = answers history steps := by
  induction steps generalizing s history with
  | nil =>
    obtain rfl := Option.some.inj hrun
    exact ⟨h, rfl⟩
  | cons step steps ih =>
    rw [run?_cons] at hrun
    obtain ⟨u, hstep, hrun⟩ := Option.bind_eq_some_iff.1 hrun
    obtain ⟨hagrees, hlookups⟩ := ih (h.step? hstep) hrun
    refine ⟨by rwa [List.reverse_cons, List.append_assoc], ?_⟩
    cases step with
    | get name =>
      obtain rfl := Option.some.inj hstep
      rw [lookups, answers, h.get?, hlookups]
    | enter | leave | set =>
      show ((s.step? _).map fun t => t.lookups steps).getD [] = answers (_ :: history) steps
      rw [hstep]
      exact hlookups

/-- Variables that a frame holds from the start are as if they were set in it. -/
theorem agrees_ofPairs (vars : List (String × Value)) :
    Agrees [Frame.ofPairs vars] (vars.map fun (name, value) => FrameStep.set name value).reverse := by
  induction vars using List.reverseRecOn with
  | nil => exact ⟨nofun, .cons (fun _ => rfl) .nil⟩
  | append_singleton vars last ih =>
    rw [List.map_append, List.reverse_append, Frame.ofPairs, List.foldl_concat, ← Frame.ofPairs]
    exact ih.set last.1 last.2

/-! ## Blocks -/

/-- Balanced steps change nothing but the innermost frame. -/
theorem run?_balanced (h : Balanced block) (f : Frame) (outer : Scope) : ∃ f', run? (f :: outer) block = some (f' :: outer) := by
  induction h generalizing f outer with
  | nil => exact ⟨f, rfl⟩
  | set name value _ ih =>
    rw [run?_cons]
    exact ih (f.set name value) outer
  | get name _ ih =>
    rw [run?_cons]
    exact ih f outer
  | @block inner rest _ _ hinner hrest =>
    obtain ⟨g, hg⟩ := hinner [] (f :: outer)
    obtain ⟨f', hf'⟩ := hrest f outer
    refine ⟨f', ?_⟩
    have henter : run? (f :: outer) (.enter :: (inner ++ .leave :: rest)) = run? ([] :: f :: outer) (inner ++ .leave :: rest) := rfl
    rw [henter, run?_append, hg, Option.bind_some, run?_cons]
    exact hf'

/-- Entering a frame, balanced steps and leaving the frame change nothing. -/
theorem run?_block (h : Balanced block) (hnonempty : s ≠ []) : s.run? (.enter :: (block ++ [.leave])) = some s := by
  obtain ⟨f, outer, rfl⟩ := List.exists_cons_of_ne_nil hnonempty
  obtain ⟨g, hg⟩ := run?_balanced h [] (f :: outer)
  have henter : run? (f :: outer) (.enter :: (block ++ [.leave])) = run? ([] :: f :: outer) (block ++ [.leave]) := rfl
  rw [henter, run?_append, hg]
  rfl

/-! ## Setting -/

/-- From every frame outwards all other names stand for what they stood for before a variable was set. -/
theorem get?_drop_set (hnonempty : s ≠ []) (hne : other ≠ name) (depth : Nat) :
    get? ((s.set name value).drop depth) other = get? (s.drop depth) other := by
  obtain ⟨f, outer, rfl⟩ := List.exists_cons_of_ne_nil hnonempty
  cases depth with
  | zero =>
    show (enter outer (f.set name value)).get? other = (enter outer f).get? other
    rw [get?_enter, get?_enter, Frame.lookup_set, if_neg hne]
  | succ depth => rfl

end Scope

open FrameStep in
/-- Steps that do not leave the outermost frame can all be taken. Each lookup among them finds the value that was set last for the name in
the innermost open frame in which it was set, and nothing if it was set in none; the variables that the outermost frame holds from the
start count as set in it. Setting a variable then gives it its value, leaves the outer frames alone, and from no frame outwards changes
what another name stands for. Entering a frame and leaving it again, with balanced steps in between, changes nothing at all. -/
theorem nested_frames (vars : List (String × Value)) {steps : List FrameStep} (h : StaysInside 0 steps) :
    let start := (vars.map fun (name, value) => FrameStep.set name value).reverse
    ∃ s, Scope.run? [Frame.ofPairs vars] steps = some s ∧
      Scope.lookups [Frame.ofPairs vars] steps = answers start steps ∧
      (∀ name, s.get? name = current? name (steps.reverse ++ start)) ∧
      (∀ name value, ∃ t, s.step? (.set name value) = some t ∧ t.get? name = some value ∧ t.tail = s.tail ∧
        ∀ other, other ≠ name → ∀ depth, Scope.get? (t.drop depth) other = Scope.get? (s.drop depth) other) ∧
      ∀ block, Balanced block → s.run? (.enter :: (block ++ [.leave])) = some s := by
  intro start
  obtain ⟨s, hrun⟩ := Scope.exists_run? h (s := [Frame.ofPairs vars]) rfl
  obtain ⟨hagrees, hlookups⟩ := (Scope.agrees_ofPairs vars).run hrun
  obtain ⟨f, outer, rfl⟩ := List.exists_cons_of_ne_nil hagrees.nonempty
  refine ⟨_, hrun, hlookups, hagrees.get?, fun name value => ?_, fun block hblock => Scope.run?_block hblock hagrees.nonempty⟩
  have hvalue : (Scope.enter outer (f.set name value)).get? name = some value := by
    rw [Scope.get?_enter, Frame.lookup_set, if_pos rfl, Option.some_or]
  exact ⟨_, rfl, hvalue, rfl, fun other hne depth => Scope.get?_drop_set hagrees.nonempty hne depth⟩

open FrameStep in
/-- A variable that is set anew in an inner frame is found there and in frames within it, and outside it has its value as before. -/
theorem nested_frames_shadow :
    let steps : List FrameStep := [.set "v" (.boolean true), .enter, .set "v" .null, .enter, .get "v", .set "w" .null, .leave, .get "v",
      .get "w", .leave, .get "v", .get "x"]
    StaysInside 0 steps ∧
      Scope.lookups [Frame.ofPairs [("w", .string "outer")]] steps =
        [some .null, some .null, some (.string "outer"), some (.boolean true), none] := by
  intro steps
  have hinside : StaysInside 0 steps := trivial
  obtain ⟨_, -, hlookups, -⟩ := nested_frames [("w", .string "outer")] hinside
  exact ⟨hinside, hlookups.trans rfl⟩

end CellExpr
