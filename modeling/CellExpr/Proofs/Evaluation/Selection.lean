import CellExpr.Proofs.Evaluation.Reach

/-!
# What is not reached does not matter

An expression has the same value and leaves the same trace whatever stands at a place that its evaluation does not reach
(`eval_replaceAt`): the branch of a condition that is not taken, what follows a deciding operand or an error, the body of a loop
without turns, at any depth and within the turns of other loops. Arguments of calls are always reached, whatever stands before
them.
-/

namespace CellExpr

variable {r : Registry} {s : Scope}

/-! ## Going on -/

namespace Traced

theorem bind_congr {α β : Type} {t : Traced α} {f g : α → Traced β} (h : f t.value = g t.value) : t.bind f = t.bind g := by
  simp only [Traced.bind, h]

theorem unlessError_congr {t : Traced Value} {f g : Value → Traced Value}
    (h : t.value.isError = false → f t.value = g t.value) : t.unlessError f = t.unlessError g := by
  obtain ⟨v, runs, stuck⟩ := t
  cases v with
  | error e => rfl
  | _ => exact bind_congr (h rfl)

/-- What follows an item matters if the item is no error. -/
theorem bind_rest_congr {t : Traced Value} {u u' : Traced (Result (List Value))} (h : t.value.isError = false → u' = u) :
    (t.bind fun
      | .error e => .just (.error e)
      | v => u'.map fun r => r.map (v :: ·)) =
    t.bind fun
      | .error e => .just (.error e)
      | v => u.map fun r => r.map (v :: ·) := by
  obtain ⟨v, runs, stuck⟩ := t
  cases v with
  | error e => rfl
  | _ => rw [h rfl]

end Traced

open CellExpr.Traced

theorem choose_congr {condition : Traced Value} {fault : Fault} {yes yes' no no' : Unit → Traced Value}
    (hyes : condition.value = .boolean true → yes' () = yes ()) (hno : condition.value = .boolean false → no' () = no ()) :
    choose condition fault yes' no' = choose condition fault yes no := by
  refine unlessError_congr fun _ => ?_
  split
  · rename_i h
    exact hyes h
  · rename_i h
    exact hno h
  · rfl

theorem shortCircuit_congr {op : BinaryOp} {left : Traced Value} {right right' : Unit → Traced Value}
    (h : ∀ b, left.value = .boolean b → b ≠ decide (op = .or) → right' () = right ()) :
    shortCircuit op left right' = shortCircuit op left right := by
  refine unlessError_congr fun _ => ?_
  split
  · rename_i b hb
    by_cases hdecides : b = decide (op = .or)
    · simp only [hdecides, beq_self_eq_true, if_true]
    · rw [h b hb hdecides]
  · rfl

theorem withBound_congr {bound : Traced Value} {f g : Float → Traced Value} (h : ∀ x, bound.value = .number x → f x = g x) :
    withBound bound f = withBound bound g := by
  refine unlessError_congr fun _ => ?_
  split
  · rename_i x hx
    exact h x hx
  · rfl

theorem overElements_congr {form : ControlForm} {source : Traced Value} {loop loop' : List Value → Traced (Result (List Value))}
    (h : ∀ items, source.value = .array items → loop' items = loop items) :
    overElements form source loop' = overElements form source loop := by
  refine unlessError_congr fun _ => ?_
  cases hvalue : source.value with
  | array items => exact congrArg toArray (h items hvalue)
  | _ => rfl

/-! ## Loops -/

theorem collectPlaces_congr {body body' : Value → Value → Traced Value} (place : Nat) {items : List Value}
    (h : ∀ n item, items[n]? = some item →
      (∀ m < n, ∀ v, items[m]? = some v → (body (.ofNat (place + m)) v).value.isError = false) →
      body' (.ofNat (place + n)) item = body (.ofNat (place + n)) item) :
    collectPlaces body' place items = collectPlaces body place items := by
  induction items generalizing place with
  | nil => rfl
  | cons first rest ih =>
    have hfirst : body' (.ofNat place) first = body (.ofNat place) first := h 0 first rfl nofun
    rw [collectPlaces, collectPlaces, hfirst]
    refine bind_rest_congr fun hnoError => ih (place + 1) fun n item hitem hbefore => ?_
    have hturn := h (n + 1) item hitem fun m hm v hv => ?_
    · rwa [show place + 1 + n = place + (n + 1) by omega]
    · cases m with
      | zero =>
        obtain rfl := Option.some.inj hv
        exact hnoError
      | succ m =>
        rw [show place + (m + 1) = place + 1 + m by omega]
        exact hbefore m (by omega) v hv

theorem collect_congr {body body' : Value → Traced Value} {items : List Value}
    (h : ∀ n item, items[n]? = some item → (∀ v ∈ items.take n, (body v).value.isError = false) → body' item = body item) :
    collect body' items = collect body items := by
  rw [collect_eq_collectPlaces body' 0, collect_eq_collectPlaces body 0]
  refine collectPlaces_congr 0 fun n item hitem hbefore => h n item hitem fun v hv => ?_
  obtain ⟨m, hm⟩ := List.getElem?_of_mem hv
  obtain ⟨hlt, hget⟩ : m < n ∧ items[m]? = some v := by
    rw [List.getElem?_take] at hm
    split at hm
    · exact ⟨‹_›, hm⟩
    · cases hm
  exact hbefore m hlt v hget

theorem select_congr {condition condition' : Value → Traced Value} {items : List Value}
    (h : ∀ n item, items[n]? = some item → (∀ v ∈ items.take n, ∃ b, (condition v).value = .boolean b) →
      condition' item = condition item) :
    select condition' items = select condition items := by
  induction items with
  | nil => rfl
  | cons first rest ih =>
    have hfirst : condition' first = condition first := h 0 first rfl nofun
    have hrest (b : Bool) (hb : (condition first).value = .boolean b) : select condition' rest = select condition rest := by
      refine ih fun n item hitem hbefore => h (n + 1) item hitem ?_
      rw [List.take_succ_cons]
      exact List.forall_mem_cons.2 ⟨⟨b, hb⟩, hbefore⟩
    rw [select, select, hfirst]
    refine bind_congr ?_
    split
    · rename_i hb
      rw [hrest true hb]
    · rename_i hb
      exact hrest false hb
    · rfl
    · rfl

theorem rangeFrom_congr {bound step : Float} {body body' : Float → Traced Value} {i : Float}
    (h : ∀ x, RangeTurn bound step body i x → body' x = body x) :
    rangeFrom bound step body' i = rangeFrom bound step body i := by
  induction i using rangeFrom.induct bound step with
  | case1 i hbefore next hnearer ih =>
    have hnow := h i (.now hbefore hnearer)
    rw [rangeFrom, rangeFrom, if_pos hbefore, if_pos hbefore, if_pos hnearer, if_pos hnearer, hnow]
    exact bind_rest_congr fun hnoError => ih fun x hx => h x (.later hbefore hnearer hnoError hx)
  | case2 i hbefore next hfar =>
    rw [rangeFrom, rangeFrom, if_pos hbefore, if_pos hbefore, if_neg hfar, if_neg hfar]
  | case3 i hafter => rw [rangeFrom, rangeFrom, if_neg hafter, if_neg hafter]

theorem overRange_congr {first bound step : Float} {body body' : Float → Traced Value}
    (h : (step == 0 || step.isNaN) = false → ∀ x, RangeTurn bound step body first x → body' x = body x) :
    overRange first bound step body' = overRange first bound step body := by
  unfold overRange
  split
  · rfl
  · rename_i hmoves
    rw [rangeFrom_congr (h (by simpa using hmoves))]

/-! ## Parts -/

namespace Expr

variable {new part : Expr} {i : Nat}

theorem evalItems_set {items : List Expr} (hpart : items[i]? = some part)
    (h : (∀ e ∈ items.take i, (e.eval r s).value.isError = false) → new.eval r s = part.eval r s) :
    evalItems r (items.set i new) s = evalItems r items s := by
  induction items generalizing i with
  | nil => cases hpart
  | cons first rest ih =>
    cases i with
    | zero =>
      obtain rfl := Option.some.inj hpart
      rw [List.set_cons_zero, evalItems, evalItems, h nofun]
    | succ i =>
      rw [List.set_cons_succ, evalItems, evalItems]
      refine bind_rest_congr fun hfirst => ih hpart fun hbefore => h ?_
      rw [List.take_succ_cons]
      exact List.forall_mem_cons.2 ⟨hfirst, hbefore⟩

theorem evalArgs_set {args : List Expr} (hpart : args[i]? = some part) (h : new.eval r s = part.eval r s) :
    evalArgs r (args.set i new) s = evalArgs r args s := by
  induction args generalizing i with
  | nil => cases hpart
  | cons first rest ih =>
    cases i with
    | zero =>
      obtain rfl := Option.some.inj hpart
      rw [List.set_cons_zero, evalArgs, evalArgs, h]
    | succ i => rw [List.set_cons_succ, evalArgs, evalArgs, ih hpart]

/-- Another argument of a control form. Those after the ones that the form evaluates do not matter. -/
theorem eval_control_set {form : ControlForm} {args : List Expr} {body : Option (Lambda Expr)}
    (hpart : args[i]? = some part)
    (h : ∀ t, EvaluatesPart r s (control form args body) i t → new.eval r t = part.eval r t) :
    (control form (args.set i new) body).eval r s = (control form args body).eval r s := by
  induction form, args, body using controlCases with
  | few form args body hfew =>
    rw [eval_control_few hfew, eval_control_few (by rw [List.length_set]; exact hfew)]
  | bare form args hform => rw [eval_control_bare hform, eval_control_bare hform]
  | choice condition yes no rest body =>
    rcases i with _ | _ | _ | i
    · obtain rfl := Option.some.inj hpart
      rw [List.set_cons_zero, eval, eval, h s (.conditionOfIf ..)]
    · obtain rfl := Option.some.inj hpart
      rw [List.set_cons_succ, List.set_cons_zero, eval, eval]
      exact choose_congr (fun hyes => h s (.yesOfIf hyes ..)) fun _ => rfl
    · obtain rfl := Option.some.inj hpart
      rw [List.set_cons_succ, List.set_cons_succ, List.set_cons_zero, eval, eval]
      exact choose_congr (fun _ => rfl) fun hno => h s (.noOfIf hno ..)
    · rw [List.set_cons_succ, List.set_cons_succ, List.set_cons_succ, eval, eval]
  | binding source rest params body | forEach source rest params body | forEachIndex source rest params body
  | filter source rest params body =>
    rcases i with _ | i
    · obtain rfl := Option.some.inj hpart
      rw [List.set_cons_zero, eval, eval, h s (.source (by decide) ..)]
    · rw [List.set_cons_succ, eval, eval]
  | forRange first last step rest params body =>
    rcases i with _ | _ | _ | i
    · obtain rfl := Option.some.inj hpart
      rw [List.set_cons_zero, eval, eval, h s (.firstBound ..)]
    · obtain rfl := Option.some.inj hpart
      rw [List.set_cons_succ, List.set_cons_zero, eval, eval]
      refine withBound_congr fun a hfirst => ?_
      rw [h s (.lastBound hfirst ..)]
    · obtain rfl := Option.some.inj hpart
      rw [List.set_cons_succ, List.set_cons_succ, List.set_cons_zero, eval, eval]
      refine withBound_congr fun a hfirst => withBound_congr fun b hlast => ?_
      rw [h s (.step hfirst hlast ..)]
    · rw [List.set_cons_succ, List.set_cons_succ, List.set_cons_succ, eval, eval]
  | forNonBlank value fallback rest params body =>
    rcases i with _ | _ | i
    · obtain rfl := Option.some.inj hpart
      rw [List.set_cons_zero, eval, eval, h s (.value ..)]
    · obtain rfl := Option.some.inj hpart
      rw [List.set_cons_succ, List.set_cons_zero, eval, eval]
      refine bind_congr ?_
      split
      · rename_i hblank
        exact h s (.fallback hblank ..)
      · rfl
    · rw [List.set_cons_succ, List.set_cons_succ, eval, eval]

/-- Another body of a control form. -/
theorem eval_control_body {form : ControlForm} {args : List Expr} {params : List String}
    (h : ∀ t, EvaluatesPart r s (control form args (some ⟨params, part⟩)) args.length t → new.eval r t = part.eval r t) :
    (control form args (some ⟨params, new⟩)).eval r s = (control form args (some ⟨params, part⟩)).eval r s := by
  generalize hlambda : some (Lambda.mk params part) = lambda at h ⊢
  induction form, args, lambda using controlCases with
  | few form args body hfew => rw [← hlambda, eval_control_few hfew, eval_control_few hfew]; rfl
  | bare form args hform => cases hlambda
  | choice condition yes no rest body => rw [eval, eval]
  | binding value rest params body =>
    cases hlambda
    rw [eval, eval]
    exact unlessError_congr fun hvalue => h _ (.bodyOfWith hvalue ..)
  | forEach source rest params body =>
    cases hlambda
    rw [eval, eval]
    refine overElements_congr fun items hsource => collect_congr fun n item hitem hbefore => ?_
    exact h _ (.forEachTurn hsource hitem hbefore ..)
  | forEachIndex source rest params body =>
    cases hlambda
    rw [eval, eval]
    refine overElements_congr fun items hsource => collectPlaces_congr 0 fun n item hitem hbefore => ?_
    simp only [Nat.zero_add] at hbefore ⊢
    exact h _ (.forEachIndexTurn hsource hitem hbefore ..)
  | filter source rest params body =>
    cases hlambda
    rw [eval, eval]
    refine overElements_congr fun items hsource => select_congr fun n item hitem hbefore => ?_
    exact h _ (.filterTurn hsource hitem hbefore ..)
  | forRange first last step rest params body =>
    cases hlambda
    rw [eval, eval]
    refine withBound_congr fun a hfirst => withBound_congr fun b hlast => withBound_congr fun c hstep => ?_
    exact overRange_congr fun hmoves x hx => h _ (.rangeTurn hfirst hlast hstep hmoves hx ..)
  | forNonBlank value fallback rest params body =>
    cases hlambda
    rw [eval, eval]
    refine bind_congr ?_
    split
    · rfl
    · rename_i hvalue
      exact h _ (.bodyOfNonBlank (by simpa using hvalue) ..)

/-- A part may be replaced by what evaluates alike in all scopes in which the part is evaluated. -/
theorem eval_setPart {e : Expr} (hpart : e.parts[i]? = some part)
    (h : ∀ t, EvaluatesPart r s e i t → new.eval r t = part.eval r t) : (e.setPart i new).eval r s = e.eval r s := by
  cases e with
  | literal l => cases hpart
  | var name => cases hpart
  | field base name =>
    rcases i with _ | i
    · obtain rfl := Option.some.inj hpart
      rw [setPart, eval, eval, h s (.fieldBase ..)]
    · cases hpart
  | index base position =>
    rcases i with _ | _ | i
    · obtain rfl := Option.some.inj hpart
      rw [setPart, eval, eval, h s (.indexBase ..)]
    · obtain rfl := Option.some.inj hpart
      rw [setPart, eval, eval]
      refine unlessError_congr fun hbase => ?_
      rw [h s (.indexPosition hbase ..)]
    · cases hpart
  | array items =>
    have hitem : items[i]? = some part := hpart
    have hlt : i < items.length := (List.getElem?_eq_some_iff.1 hitem).1
    rw [setPart, eval, eval, evalItems_set hitem fun hbefore => h s (.item hlt hbefore)]
  | call name args =>
    have harg : args[i]? = some part := hpart
    have hlt : i < args.length := (List.getElem?_eq_some_iff.1 harg).1
    rw [setPart, eval, eval, evalArgs_set harg (h s (.argument name hlt))]
  | control form args body =>
    rcases body with _ | ⟨params, body⟩
    · exact eval_control_set hpart h
    · rw [setPart]
      by_cases hbody : i = args.length
      · subst hbody
        obtain rfl : body = part := Option.some.inj (List.getElem?_concat_length.symm.trans hpart)
        rw [if_pos rfl, eval_control_body h]
      · have hlt : i < args.length := by
          have := (List.getElem?_eq_some_iff.1 hpart).1
          rw [parts, List.length_append, List.length_singleton] at this
          omega
        have harg : args[i]? = some part := (List.getElem?_append_left hlt).symm.trans hpart
        rw [if_neg hbody, eval_control_set harg h]
  | unary op operand =>
    rcases i with _ | i
    · obtain rfl := Option.some.inj hpart
      rw [setPart, eval, eval, h s (.operand ..)]
    · cases hpart
  | binary op left right =>
    rcases i with _ | _ | i
    · obtain rfl := Option.some.inj hpart
      rw [setPart, eval, eval, h s (.left ..)]
    · obtain rfl := Option.some.inj hpart
      rw [setPart, eval, eval]
      split
      · rename_i hop
        exact shortCircuit_congr fun b hleft hopen => h s (.logicalRight hop hleft hopen ..)
      · rename_i hop
        refine unlessError_congr fun hleft => ?_
        rw [h s (.right (Bool.eq_false_iff.2 hop) hleft ..)]
    · cases hpart
  | conditional condition yes no =>
    rcases i with _ | _ | _ | i
    · obtain rfl := Option.some.inj hpart
      rw [setPart, eval, eval, h s (.condition ..)]
    · obtain rfl := Option.some.inj hpart
      rw [setPart, eval, eval]
      exact choose_congr (fun hyes => h s (.yes hyes ..)) fun _ => rfl
    · obtain rfl := Option.some.inj hpart
      rw [setPart, eval, eval]
      exact choose_congr (fun _ => rfl) fun hno => h s (.no hno ..)
    · cases hpart

/-- What is not reached may be replaced by anything. -/
theorem eval_replaceAt_of_not_reaches {e : Expr} {path : List Nat} (h : ∀ t, ¬Reaches r e s path t) (new : Expr) :
    (e.replaceAt path new).eval r s = e.eval r s := by
  induction path generalizing e s with
  | nil => exact absurd (.here e s) (h s)
  | cons i path ih =>
    rw [replaceAt]
    cases hpart : e.parts[i]? with
    | none => rfl
    | some part => exact eval_setPart hpart fun t heval => ih fun u hreach => h u (.part hpart heval hreach)

/-- Whoever reaches a place within a part comes through the part. -/
theorem exists_evaluatesPart_of_reaches {e : Expr} {path below : List Nat} {u : Scope}
    (h : Reaches r e s (path ++ i :: below) u) :
    ∃ sub t, e.at? path = some sub ∧ Reaches r e s path t ∧ ∃ v, EvaluatesPart r t sub i v := by
  induction path generalizing e s with
  | nil =>
    cases h with
    | part hpart heval _ => exact ⟨e, s, rfl, .here e s, _, heval⟩
  | cons j path ih =>
    cases h with
    | part hpart heval hbelow =>
      obtain ⟨sub, t, hsub, hreach, hv⟩ := ih hbelow
      exact ⟨sub, t, by rw [at?, hpart]; exact hsub, .part hpart heval hreach, hv⟩

/-- What a call leaves behind: the traces of all its arguments, one after the other, and then what the function leaves. -/
theorem eval_call (name : String) (args : List Expr) :
    ((call name args).eval r s).value = (r.call name (args.map fun e => (e.eval r s).value) s).value ∧
      ((call name args).eval r s).runs =
        (args.flatMap fun e => (e.eval r s).runs) ++ (r.call name (args.map fun e => (e.eval r s).value) s).runs := by
  rw [eval]
  simp only [Traced.bind, value_evalArgs, runs_evalArgs, and_self]

end Expr

theorem Registry.runs_call_of_unknown {name : String} (h : r.lookup? name = none) (args : List Value) :
    (r.call name args s).runs = [] := by
  rw [call, h]
  rfl

/-- An expression has the same value and trace whatever stands where its evaluation does not come, and it does not come to parts
of anything that passes over them whenever it is evaluated. Where it comes, function bodies run as part of its trace; it comes to
all arguments of a call in order, also after errors and if the function is unknown. -/
theorem eval_replaceAt (r : Registry) (e : Expr) (s : Scope) :
    (∀ path, (∀ t, ¬Reaches r e s path t) → ∀ new, (e.replaceAt path new).eval r s = e.eval r s) ∧
      (∀ path i below, (∀ sub t, e.at? path = some sub → Reaches r e s path t → PassesOver r t sub i) →
        ∀ t, ¬Reaches r e s (path ++ i :: below) t) ∧
      (∀ path t, Reaches r e s path t → ∃ sub, e.at? path = some sub ∧ (sub.eval r t).runs <:+: (e.eval r s).runs) ∧
      (∀ name args, e = .call name args →
        (∀ i < args.length, Reaches r e s [i] s) ∧
        (e.eval r s).runs =
          (args.flatMap fun arg => (arg.eval r s).runs) ++ (r.call name (args.map fun arg => (arg.eval r s).value) s).runs ∧
        (r.lookup? name = none → (e.eval r s).runs = args.flatMap fun arg => (arg.eval r s).runs)) := by
  refine ⟨fun path h new => Expr.eval_replaceAt_of_not_reaches h new, fun path i below h t hreach => ?_,
    fun path t h => h.runs_infix, fun name args he => ?_⟩
  · obtain ⟨sub, u, hsub, hcomes, v, hv⟩ := Expr.exists_evaluatesPart_of_reaches hreach
    exact (h sub u hsub hcomes).not_evaluatesPart v hv
  · subst he
    obtain ⟨_, hruns⟩ := Expr.eval_call (r := r) (s := s) name args
    refine ⟨fun i hi => ?_, hruns, fun hunknown => ?_⟩
    · exact .part (List.getElem?_eq_getElem hi) (.argument name hi) (.here _ s)
    · rw [hruns, Registry.runs_call_of_unknown hunknown, List.append_nil]

/-- `forEach([true, true], v, v ? null : trim("a"))` -/
def loopOverFlags : Expr :=
  .control .forEach [.array [.literal (.boolean true), .literal (.boolean true)]]
    (some ⟨["v"], .conditional (.var "v") (.literal .null) (.call "trim" [.literal (.string "a")])⟩)

/-- In both turns the other branch is passed over, so it does not matter what stands there. -/
theorem eval_replaceAt_loopOverFlags :
    (∀ t, ¬Reaches (.standard ⟨0, 0, by decide⟩) loopOverFlags [] [1, 2] t) ∧
      ∀ new, (loopOverFlags.replaceAt [1, 2] new).eval (.standard ⟨0, 0, by decide⟩) [] =
        loopOverFlags.eval (.standard ⟨0, 0, by decide⟩) [] := by
  have hnot : ∀ t, ¬Reaches (.standard ⟨0, 0, by decide⟩) loopOverFlags [] [1, 2] t := by
    refine (eval_replaceAt _ loopOverFlags []).2.1 [1] 2 [] fun sub t hsub hreach => ?_
    cases hsub
    refine .no ?_ _ _
    cases hreach with
    | part hpart heval hrest =>
      cases hrest
      cases heval with
      | @forEachTurn _ _ _ _ n _ hsource hitem =>
        cases hsource
        match n, hitem with
        | 0, hitem | 1, hitem =>
          cases hitem
          rfl
  exact ⟨hnot, (eval_replaceAt _ loopOverFlags []).1 [1, 2] hnot⟩

end CellExpr
