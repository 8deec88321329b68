import CellExpr.Proofs.Evaluation.FreeVariables
import CellExpr.Proofs.Evaluation.Reach

/-!
# Loops over elements

A loop over the elements of an array takes a turn for each of them, in order, until one fails (`eval_loop`). What a turn comes to
depends on its element and its place alone: the body is evaluated in the outer scope with a frame of the parameters inside it. The
array of the values is the result, or of a filter the elements whose turns are true.

The three loops of the evaluator take their turns in one way (`takeTurns`), and differ in what fails and in what is kept.
-/

namespace CellExpr

/-! ## Frames of parameters -/

/-- A variable that is set more than once has the value that was set last. -/
theorem Frame.lookup_ofPairs (pairs : List (String × Value)) (name : String) :
    (ofPairs pairs).lookup name = pairs.reverse.lookup name := by
  induction pairs using List.reverseRecOn with
  | nil => rfl
  | append_singleton pairs p ih =>
    rw [ofPairs, List.foldl_concat, ← ofPairs, lookup_set, ih, List.reverse_concat, ← lookup_cons]

/-- In the frame of some parameters these stand for their values, and all other names for what they stand for outside. -/
theorem Scope.get?_enter_params (s : Scope) (params : List String) (values : List Value) (name : String) :
    (s.enter (.ofParams params values)).get? name = ((params.zip values).reverse.lookup name).or (s.get? name) := by
  rw [get?_enter, Frame.ofParams, Frame.lookup_ofPairs]

/-! ## Turns -/

/-- The error with which the value of a turn ends a loop. -/
abbrev LoopEnd := Value → Option EvalError

/-- Turns taken one after the other, up to the first one whose value ends the loop. The ending is what there is after the last
one. -/
def takeTurns (ends : LoopEnd) (ending : Result (List Value)) : List (Traced Value) → Traced (Result (List Value))
  | [] => .just ending
  | t :: rest =>
    t.bind fun v =>
      match ends v with
      | some e => .just (.error e)
      | none => (takeTurns ends ending rest).map fun r => r.map (v :: ·)

section

variable {ends : LoopEnd} {ending : Result (List Value)} {turns : List (Traced Value)} {t : Traced Value} {e : EvalError}

theorem takeTurns_cons_of_none (h : ends t.value = none) :
    takeTurns ends ending (t :: turns) = t.bind fun v => (takeTurns ends ending turns).map fun r => r.map (v :: ·) := by
  simp only [takeTurns, Traced.bind, h]

theorem takeTurns_cons_of_some (h : ends t.value = some e) : takeTurns ends ending (t :: turns) = t.map fun _ => .error e := by
  simp only [takeTurns, Traced.bind, Traced.map, h, Traced.just, List.append_nil, Bool.or_false]

/-- All turns are taken if none of them ends the loop. -/
theorem takeTurns_of_none (h : ∀ t ∈ turns, ends t.value = none) :
    (takeTurns ends ending turns).value = ending.map (turns.map (·.value) ++ ·) ∧
      (takeTurns ends ending turns).runs = turns.flatMap (·.runs) := by
  induction turns with
  | nil => exact ⟨by cases ending <;> rfl, rfl⟩
  | cons t turns ih =>
    obtain ⟨ht, hturns⟩ := List.forall_mem_cons.1 h
    obtain ⟨hvalue, hruns⟩ := ih hturns
    rw [takeTurns_cons_of_none ht]
    refine ⟨?_, by simp only [Traced.bind, Traced.map, hruns, List.flatMap_cons]⟩
    simp only [Traced.bind, Traced.map, hvalue]
    cases ending <;> rfl

/-- The turns up to and including the first one that ends the loop are taken. -/
theorem takeTurns_of_first {place : Nat} (hturn : turns[place]? = some t) (hends : ends t.value = some e)
    (hbefore : ∀ u ∈ turns.take place, ends u.value = none) :
    (takeTurns ends ending turns).value = .error e ∧
      (takeTurns ends ending turns).runs = (turns.take (place + 1)).flatMap (·.runs) := by
  induction turns generalizing place with
  | nil => cases hturn
  | cons first turns ih =>
    cases place with
    | zero =>
      obtain rfl := Option.some.inj hturn
      rw [takeTurns_cons_of_some hends]
      exact ⟨rfl, (List.append_nil _).symm⟩
    | succ place =>
      rw [List.take_succ_cons] at hbefore
      obtain ⟨hfirst, hbefore⟩ := List.forall_mem_cons.1 hbefore
      obtain ⟨hvalue, hruns⟩ := ih hturn hbefore
      rw [takeTurns_cons_of_none hfirst, List.take_succ_cons, List.flatMap_cons]
      exact ⟨by simp only [Traced.bind, Traced.map, hvalue]; rfl, by simp only [Traced.bind, Traced.map, hruns]⟩

end

/-! ## What the loops do with their turns -/

/-- The error that a value is. -/
def Value.error? : LoopEnd
  | .error e => some e
  | _ => none

theorem Value.error?_eq_none_iff {v : Value} : v.error? = none ↔ v.isError = false := by
  cases v <;> simp [Value.error?, Value.isError]

/-- The error with which a condition ends a filter: its own, or that it is no truth value. -/
def Value.conditionError? : LoopEnd
  | .boolean _ => none
  | .error e => some e
  | _ => some Fault.conditionOfFilter.toError

/-- Whether a value is true. -/
def Value.isTrue : Value → Bool
  | .boolean b => b
  | _ => false

/-- The items whose conditions are true. -/
def itemsWhere (items conditions : List Value) : List Value := ((items.zip conditions).filter fun p => p.2.isTrue).map (·.1)

theorem collectPlaces_eq_takeTurns (body : Value → Value → Traced Value) (place : Nat) (items : List Value) :
    collectPlaces body place items =
      takeTurns Value.error? (.ok []) (items.mapIdx fun i v => body (.ofNat (place + i)) v) := by
  induction items generalizing place with
  | nil => rfl
  | cons item rest ih =>
    have hplaces : (fun i v => body (.ofNat (place + (i + 1))) v) = fun i v => body (.ofNat (place + 1 + i)) v := by
      funext i v
      rw [Nat.add_assoc, Nat.add_comm 1 i]
    rw [collectPlaces, ih, List.mapIdx_cons, takeTurns, Nat.add_zero, hplaces]
    obtain ⟨v, runs, stuck⟩ := body (.ofNat place) item
    cases v <;> rfl

theorem collect_eq_takeTurns (body : Value → Traced Value) (items : List Value) :
    collect body items = takeTurns Value.error? (.ok []) (items.mapIdx fun _ v => body v) := by
  rw [collect_eq_collectPlaces body 0, collectPlaces_eq_takeTurns]

theorem select_eq_takeTurns (condition : Value → Traced Value) (items : List Value) :
    select condition items =
      (takeTurns Value.conditionError? (.ok []) (items.mapIdx fun _ v => condition v)).map fun r => r.map (itemsWhere items) := by
  induction items with
  | nil => rfl
  | cons item rest ih =>
    rw [select, ih, List.mapIdx_cons, takeTurns]
    generalize takeTurns Value.conditionError? (.ok []) (rest.mapIdx fun _ v => condition v) = later
    obtain ⟨v, runs, stuck⟩ := condition item
    obtain ⟨w, runs', stuck'⟩ := later
    cases v with
    | boolean b => cases b <;> cases w <;> rfl
    | _ => rfl

/-- A loop over the elements of an array begins when these are there. -/
theorem overElements_of_array {form : ControlForm} {source : Traced Value} {items : List Value}
    (h : source.value = .array items) (loop : List Value → Traced (Result (List Value))) :
    overElements form source loop = source.bind fun _ => (loop items).toArray := by
  obtain ⟨v, runs, stuck⟩ := source
  obtain rfl : v = .array items := h
  rfl

/-! ## Loops as expressions -/

namespace ControlForm

/-- The values that a loop binds in the turn for an element: the element, and for one form its place before it. -/
def bound (form : ControlForm) (place : Nat) (item : Value) : List Value :=
  if form = .forEachIndex then [.ofNat place, item] else [item]

/-- A loop goes on after any turn that is no error, a filter only after one that is a truth value. -/
def GoesOnAfter (form : ControlForm) (v : Value) : Prop := if form = .filter then ∃ b, v = .boolean b else v.isError = false

/-- What ends a loop. -/
def ends (form : ControlForm) : LoopEnd := if form = .filter then Value.conditionError? else Value.error?

/-- What a loop makes of elements and the values of their turns. -/
def gather (form : ControlForm) (items values : List Value) : List Value := if form = .filter then itemsWhere items values else values

variable {form : ControlForm} {v : Value}

theorem ends_eq_none_iff : form.ends v = none ↔ form.GoesOnAfter v := by
  unfold ends GoesOnAfter
  by_cases hfilter : form = .filter
  · rw [if_pos hfilter, if_pos hfilter]
    cases v <;> simp [Value.conditionError?]
  · rw [if_neg hfilter, if_neg hfilter]
    exact Value.error?_eq_none_iff

/-- The error of a turn ends any loop. -/
theorem ends_error (form : ControlForm) (e : EvalError) : form.ends (.error e) = some e := by
  unfold ends
  split <;> rfl

/-- Of what is no error only the condition of a filter ends a loop. -/
theorem ends_of_not_error (hends : ¬form.GoesOnAfter v) (hv : v.isError = false) :
    form = .filter ∧ form.ends v = some Fault.conditionOfFilter.toError := by
  unfold GoesOnAfter at hends
  by_cases hfilter : form = .filter
  · rw [if_pos hfilter] at hends
    refine ⟨hfilter, ?_⟩
    rw [ends, if_pos hfilter]
    cases v with
    | boolean b => exact absurd ⟨b, rfl⟩ hends
    | error e => cases hv
    | _ => rfl
  · rw [if_neg hfilter] at hends
    exact absurd hv hends

end ControlForm

section

variable {r : Registry} {s : Scope} {form : ControlForm} {source : Expr} {items : List Value} {params : List String} {body : Expr}

/-- The turns of a loop over elements. -/
def loopTurns (r : Registry) (s : Scope) (form : ControlForm) (items : List Value) (params : List String) (body : Expr) :
    List (Traced Value) :=
  items.mapIdx fun place item => body.eval r (s.enter (.ofParams params (form.bound place item)))

/-- A loop takes its turns after its array has been evaluated. -/
theorem eval_loop_eq_takeTurns (hform : form ∈ [.forEach, .forEachIndex, .filter])
    (hsource : (source.eval r s).value = .array items) :
    (Expr.control form [source] (some ⟨params, body⟩)).eval r s =
      (source.eval r s).bind fun _ =>
        ((takeTurns form.ends (.ok []) (loopTurns r s form items params body)).map fun r => r.map (form.gather items)).toArray := by
  have hkeeps (t : Traced (Result (List Value))) : (t.map fun r => r.map fun values => values) = t := by
    obtain ⟨v, runs, stuck⟩ := t
    cases v <;> rfl
  simp only [List.mem_cons, List.not_mem_nil, or_false] at hform
  rcases hform with rfl | rfl | rfl
  · rw [Expr.eval, overElements_of_array hsource, collect_eq_takeTurns]
    exact congrArg _ (funext fun _ => congrArg _ (hkeeps _).symm)
  · rw [Expr.eval, overElements_of_array hsource, collectPlaces_eq_takeTurns]
    simp only [Nat.zero_add]
    exact congrArg _ (funext fun _ => congrArg _ (hkeeps _).symm)
  · rw [Expr.eval, overElements_of_array hsource]
    exact congrArg _ (funext fun _ => congrArg _ (select_eq_takeTurns _ items))

theorem runs_loop (hform : form ∈ [.forEach, .forEachIndex, .filter]) (hsource : (source.eval r s).value = .array items) :
    ((Expr.control form [source] (some ⟨params, body⟩)).eval r s).runs =
      (source.eval r s).runs ++ (takeTurns form.ends (.ok []) (loopTurns r s form items params body)).runs := by
  rw [eval_loop_eq_takeTurns hform hsource]
  rfl

theorem value_loop (hform : form ∈ [.forEach, .forEachIndex, .filter]) (hsource : (source.eval r s).value = .array items)
    {outcome : Result (List Value)}
    (hturns : (takeTurns form.ends (.ok []) (loopTurns r s form items params body)).value = outcome) :
    ((Expr.control form [source] (some ⟨params, body⟩)).eval r s).value =
      .ofExcept ((outcome.map (form.gather items)).map .array) := by
  rw [eval_loop_eq_takeTurns hform hsource, ← hturns]
  rfl

end

/-- A loop over the elements of an array takes a turn for each of them, in order, up to the first turn after which it does not go
on. The turn evaluates the body in the outer scope with one more frame, in which the parameters stand for what the turn binds; it
does not depend on other turns.

* If it goes on after every turn, all turns are taken; their values are the array, or of a filter the elements whose turns are
  true.
* Otherwise no turn is taken after the first one after which it does not go on. An error of that turn is the result; in a filter
  another value that is no truth value is a type error.

The outer variables stand for the same after the loop as before it. -/
theorem eval_loop (r : Registry) (s : Scope) {form : ControlForm} (hform : form ∈ [.forEach, .forEachIndex, .filter])
    {source : Expr} {items : List Value} (hsource : (source.eval r s).value = .array items) (params : List String) (body : Expr) :
    let turns := items.mapIdx fun place item => body.eval r (s.enter (.ofParams params (form.bound place item)))
    let loop := Expr.control form [source] (some ⟨params, body⟩)
    (∀ place item name, (s.enter (.ofParams params (form.bound place item))).get? name =
        ((params.zip (form.bound place item)).reverse.lookup name).or (s.get? name)) ∧
      ((∀ t ∈ turns, form.GoesOnAfter t.value) →
        (loop.eval r s).runs = (source.eval r s).runs ++ turns.flatMap (·.runs) ∧
          (form ≠ .filter → (loop.eval r s).value = .array (turns.map (·.value))) ∧
          (form = .filter → (loop.eval r s).value = .array (itemsWhere items (turns.map (·.value))))) ∧
      (∀ place t, turns[place]? = some t → ¬form.GoesOnAfter t.value →
        (∀ u ∈ turns.take place, form.GoesOnAfter u.value) →
        (loop.eval r s).runs = (source.eval r s).runs ++ (turns.take (place + 1)).flatMap (·.runs) ∧
          (∀ e, t.value = .error e → (loop.eval r s).value = .error e) ∧
          (t.value.isError = false →
            form = .filter ∧ (loop.eval r s).value = .error Fault.conditionOfFilter.toError ∧
              Fault.conditionOfFilter.toError.kind = .type)) ∧
      ∀ name, (Expr.evalArgs r [loop, .var name] s).value = [(loop.eval r s).value, ((Expr.var name).eval r s).value] := by
  intro turns loop
  refine ⟨fun place item name => s.get?_enter_params _ _ _, fun hall => ?_, fun place t hturn hends hbefore => ?_, fun name => ?_⟩
  · obtain ⟨hvalue, hruns⟩ := @takeTurns_of_none form.ends (.ok []) turns fun t ht => ControlForm.ends_eq_none_iff.2 (hall t ht)
    have hloop := value_loop hform hsource hvalue
    rw [Except.map, List.append_nil] at hloop
    refine ⟨(runs_loop hform hsource).trans (congrArg _ hruns), fun hfilter => hloop.trans ?_, fun hfilter => hloop.trans ?_⟩
    · rw [Except.map, ControlForm.gather, if_neg hfilter]
      rfl
    · rw [Except.map, ControlForm.gather, if_pos hfilter]
      rfl
  · have hnone : ∀ u ∈ turns.take place, form.ends u.value = none := fun u hu => ControlForm.ends_eq_none_iff.2 (hbefore u hu)
    obtain ⟨e, he⟩ := Option.ne_none_iff_exists'.1 fun h => hends (ControlForm.ends_eq_none_iff.1 h)
    obtain ⟨hvalue, hruns⟩ := @takeTurns_of_first form.ends (.ok []) turns t e place hturn he hnone
    have hloop : (loop.eval r s).value = .error e := value_loop hform hsource hvalue
    refine ⟨(runs_loop hform hsource).trans (congrArg _ hruns), fun e' he' => ?_, fun hnoError => ?_⟩
    · rw [he', ControlForm.ends_error] at he
      rw [hloop, Option.some.inj he]
    · obtain ⟨hfilter, hfault⟩ := ControlForm.ends_of_not_error hends hnoError
      rw [hfault] at he
      rw [hloop, ← Option.some.inj he]
      exact ⟨hfilter, rfl, rfl⟩
  · exact Expr.value_evalArgs _

/-- Two truth values and a text, and a variable that the loops over them shadow. -/
def mixedScope : Scope := [[("xs", .array [.boolean true, .boolean false, .string "a"]), ("x", .null)]]

/-- A filter ends at the text, the third of its turns. A loop whose body asks whether the element is null takes all its turns. -/
theorem eval_loop_mixedElements :
    ((Expr.control .filter [.var "xs"] (some ⟨["x"], .var "x"⟩)).eval (.standard ⟨0, 0, by decide⟩) mixedScope).value =
        .error Fault.conditionOfFilter.toError ∧
      ((Expr.control .forEachIndex [.var "xs"] (some ⟨["i", "x"], .call "isNull" [.var "x"]⟩)).eval
          (.standard ⟨0, 0, by decide⟩) mixedScope).value = .array [.boolean false, .boolean false, .boolean false] ∧
      ((Expr.control .forEachIndex [.var "xs"] (some ⟨["i", "x"], .call "isNull" [.var "x"]⟩)).eval
          (.standard ⟨0, 0, by decide⟩) mixedScope).runs =
        [⟨"isNull", [.boolean true]⟩, ⟨"isNull", [.boolean false]⟩, ⟨"isNull", [.string "a"]⟩] := by
  obtain ⟨_, _, hfilter, _⟩ :=
    @eval_loop (.standard ⟨0, 0, by decide⟩) mixedScope .filter (by decide) (.var "xs") _ rfl ["x"] (.var "x")
  obtain ⟨_, hplaces, _, _⟩ :=
    @eval_loop (.standard ⟨0, 0, by decide⟩) mixedScope .forEachIndex (by decide) (.var "xs") _ rfl ["i", "x"]
      (.call "isNull" [.var "x"])
  have hends : ¬ControlForm.filter.GoesOnAfter (.string "a") := by simp [ControlForm.GoesOnAfter]
  have hbefore : ∀ u ∈ [Traced.just (.boolean true), .just (.boolean false)], ControlForm.filter.GoesOnAfter u.value := by
    simp [ControlForm.GoesOnAfter, Traced.just]
  have hall : ∀ u ∈ [Traced.mk (.boolean false) [⟨"isNull", [.boolean true]⟩] false,
      ⟨.boolean false, [⟨"isNull", [.boolean false]⟩], false⟩, ⟨.boolean false, [⟨"isNull", [.string "a"]⟩], false⟩],
      ControlForm.forEachIndex.GoesOnAfter u.value := by
    simp [ControlForm.GoesOnAfter, Value.isError]
  obtain ⟨_, _, htype⟩ := hfilter 2 (.just (.string "a")) rfl hends hbefore
  obtain ⟨hruns, hvalues, _⟩ := hplaces hall
  exact ⟨(htype rfl).2.1, hvalues (by decide), hruns⟩

end CellExpr
