import CellExpr.Proofs.Evaluation.Loops
import CellExpr.Proofs.Evaluation.Strictness
import CellExpr.Proofs.Number.Addition

/-!
# Loops over numbers

A loop over a range takes a turn for its first number and for every sum of the number before and the step that lies before the
bound, until one fails (`eval_forRange`). It always comes to an end: a sum of doubles is never on the wrong side of its first
summand, so it is nearer to the bound or it is that summand once more, and then the loop ends in an error.
-/

namespace CellExpr

open Number

/-! ## The direction of a step -/

section

variable {step i bound : Float}

/-- Lying before something in the direction of a step, in terms of places. -/
theorem isBefore_iff : isBefore step i bound = true ↔
    step.isNaN = false ∧ i.isNaN = false ∧ bound.isNaN = false ∧
      (0 < rank step ∧ rank i < rank bound ∨ rank step < 0 ∧ rank bound < rank i) := by
  have hzero : rank 0 = 0 := by decide
  have hnumber : (0 : Float).isNaN = false := by decide
  simp only [isBefore, Bool.or_eq_true, Bool.and_eq_true, decide_eq_true_eq, lt_iff, hzero, hnumber]
  grind

theorem isBefore_trans {j : Float} (h : isBefore step i j = true) (h' : isBefore step j bound = true) :
    isBefore step i bound = true := by
  obtain ⟨hstep, hi, -, hside⟩ := isBefore_iff.1 h
  obtain ⟨-, -, hbound, hside'⟩ := isBefore_iff.1 h'
  exact isBefore_iff.2 ⟨hstep, hi, hbound, by omega⟩

/-- Nothing lies before or behind what is no number. -/
theorem isBefore_of_isNaN (h : i.isNaN = true) : isBefore step i bound = false := by
  rw [← Bool.not_eq_true, isBefore_iff, h]
  rintro ⟨-, hi, -⟩
  cases hi

/-- A step moves on in its direction, if it moves at all. -/
theorem isBefore_add (h : isBefore step i bound = true) (hnumber : (i + step).isNaN = false) (hmoves : (i + step == i) = false) :
    isBefore step i (i + step) = true := by
  obtain ⟨hstep, hi, -, hside⟩ := isBefore_iff.1 h
  have hne : rank (i + step) ≠ rank i := fun heq => by
    rw [beq_iff.2 ⟨hnumber, hi, heq⟩] at hmoves
    cases hmoves
  obtain ⟨hpos, hneg⟩ := rank_add hi hstep hnumber
  refine isBefore_iff.2 ⟨hstep, hi, hnumber, ?_⟩
  omega

/-- A loop that has reached its bound stays there. -/
theorem isBefore_add_of_reached (hstep : step.isNaN = false) (h : isBefore step i bound = false) :
    isBefore step (i + step) bound = false := by
  by_cases hnot : i.isNaN = true
  · exact isBefore_of_isNaN (isNaN_add hnot step)
  have hi := Bool.eq_false_iff.2 hnot
  rw [← Bool.not_eq_true, isBefore_iff] at h ⊢
  rintro ⟨-, hnumber, hbound, hside⟩
  refine h ⟨hstep, hi, hbound, ?_⟩
  obtain ⟨hpos, hneg⟩ := rank_add hi hstep hnumber
  omega

/-- A loop is nearer to its bound after a step, unless the step does not move it. -/
theorem distance_lt_iff (h : isBefore step i bound = true) :
    distance step (i + step) bound < distance step i bound ↔ (i + step == i) = false := by
  obtain ⟨hstep, hi, hbound, hside⟩ := isBefore_iff.1 h
  have hdirection : 0 < step ↔ 0 < rank step := by
    have hzero : rank 0 = 0 := by decide
    rw [lt_iff, hzero]
    exact ⟨fun hpos => hpos.2.2, fun hpos => ⟨by decide, hstep, hpos⟩⟩
  by_cases hmoves : (i + step == i) = true
  · -- a step that does not move the loop leaves the distance as it was
    obtain ⟨hnumber, -, hrank⟩ := beq_iff.1 hmoves
    have hbefore : isBefore step (i + step) bound = true := isBefore_iff.2 ⟨hstep, hnumber, hbound, hrank ▸ hside⟩
    have hdistance : distance step (i + step) bound = distance step i bound := by
      rw [distance, distance, if_pos hbefore, if_pos h, hrank]
    rw [hdistance, hmoves]
    exact iff_of_false (Nat.lt_irrefl _) nofun
  · have hmoves := Bool.eq_false_iff.2 hmoves
    refine iff_of_true ?_ hmoves
    rw [distance, distance, if_pos h]
    split
    case isFalse => exact Nat.succ_pos _
    case isTrue hbefore =>
      obtain ⟨-, hnumber, -, hside'⟩ := isBefore_iff.1 hbefore
      obtain ⟨-, -, -, hnearer⟩ := isBefore_iff.1 (isBefore_add h hnumber hmoves)
      simp only [hdirection]
      split <;> omega

end

/-! ## The turns of a range -/

/-- The numbers that a loop over a range comes to: its first one, and then always the sum with the step. -/
def rangeTerm (first step : Float) : Nat → Float
  | 0 => first
  | k + 1 => rangeTerm first step k + step

/-- The numbers after the first one are those of the range that begins with the second one. -/
theorem rangeTerm_succ (first step : Float) (k : Nat) : rangeTerm (first + step) step k = rangeTerm first step (k + 1) := by
  induction k with
  | zero => rfl
  | succ k ih => exact congrArg (· + step) ih

/-- How many turns a range has: its numbers lie before the bound and move on, and then one does not. -/
structure RangeLength (first last step : Float) (n : Nat) : Prop where
  before : ∀ k < n, isBefore step (rangeTerm first step k) last = true
  moves : ∀ k < n, (rangeTerm first step (k + 1) == rangeTerm first step k) = false
  stops : isBefore step (rangeTerm first step n) last = true →
    (rangeTerm first step (n + 1) == rangeTerm first step n) = true

section

variable {first last step : Float} {n : Nat}

/-- A range that has a turn for its first number goes on as the range from the second one. -/
theorem RangeLength.succ (hbefore : isBefore step first last = true) (hmoves : (first + step == first) = false)
    (h : RangeLength (first + step) last step n) : RangeLength first last step (n + 1) := by
  obtain ⟨hall, hmoving, hstops⟩ := h
  simp only [rangeTerm_succ] at hall hmoving hstops
  exact ⟨fun | 0, _ => hbefore | k + 1, hk => hall k (Nat.lt_of_succ_lt_succ hk),
    fun | 0, _ => hmoves | k + 1, hk => hmoving k (Nat.lt_of_succ_lt_succ hk), hstops⟩

theorem RangeLength.tail (h : RangeLength first last step (n + 1)) : RangeLength (first + step) last step n := by
  refine ⟨fun k hk => ?_, fun k hk => ?_, ?_⟩
  · rw [rangeTerm_succ]
    exact h.before (k + 1) (Nat.succ_lt_succ hk)
  · rw [rangeTerm_succ, rangeTerm_succ]
    exact h.moves (k + 1) (Nat.succ_lt_succ hk)
  · rw [rangeTerm_succ, rangeTerm_succ]
    exact h.stops

/-- Every range comes to an end, since every turn brings it nearer to its bound. -/
theorem exists_rangeLength (first last step : Float) : ∃ n, RangeLength first last step n := by
  generalize hdistance : distance step first last = d
  induction d using Nat.strongRecOn generalizing first with
  | ind d ih =>
    by_cases hbefore : isBefore step first last = true
    · by_cases hmoves : (first + step == first) = false
      · obtain ⟨n, h⟩ := ih _ (hdistance ▸ (distance_lt_iff hbefore).2 hmoves) (first + step) rfl
        exact ⟨n + 1, h.succ hbefore hmoves⟩
      · exact ⟨0, nofun, nofun, fun _ => Bool.not_eq_false _ ▸ hmoves⟩
    · exact ⟨0, nofun, nofun, fun h => absurd h hbefore⟩

theorem RangeLength.le {m : Nat} (h : RangeLength first last step n) (h' : RangeLength first last step m) : m ≤ n := by
  by_contra hlt
  have hstays := h.stops (h'.before n (Nat.lt_of_not_le hlt))
  rw [h'.moves n (Nat.lt_of_not_le hlt)] at hstays
  cases hstays

/-- A range has one number of turns. -/
theorem RangeLength.unique {m : Nat} (h : RangeLength first last step n) (h' : RangeLength first last step m) : m = n :=
  Nat.le_antisymm (h.le h') (h'.le h)

/-- What a range comes to after its turns. -/
def rangeEnding (first last step : Float) (n : Nat) : Result (List Value) :=
  if isBefore step (rangeTerm first step n) last then
    .error (Fault.tooSmallStep (plainText step) (plainText (rangeTerm first step n))).toError
  else .ok []

theorem rangeEnding_succ (first last step : Float) (n : Nat) :
    rangeEnding (first + step) last step n = rangeEnding first last step (n + 1) := by
  rw [rangeEnding, rangeEnding, rangeTerm_succ]

/-- A range takes its turns, one for each of its numbers. -/
theorem rangeFrom_eq_takeTurns (body : Float → Traced Value) (h : RangeLength first last step n) :
    rangeFrom last step body first =
      takeTurns Value.error? (rangeEnding first last step n) ((List.range n).map fun k => body (rangeTerm first step k)) := by
  induction n generalizing first with
  | zero =>
    by_cases hbefore : isBefore step first last = true
    · have hstays : (first + step == first) = true := h.stops hbefore
      have hending : rangeEnding first last step 0 = .error (Fault.tooSmallStep (plainText step) (plainText first)).toError :=
        if_pos hbefore
      rw [rangeFrom, if_pos hbefore, if_neg (mt (distance_lt_iff hbefore).1 (by rw [hstays]; decide)), hending]
      rfl
    · have hending : rangeEnding first last step 0 = .ok [] := if_neg hbefore
      rw [rangeFrom, if_neg hbefore, hending]
      rfl
  | succ n ih =>
    have hbefore : isBefore step first last = true := h.before 0 (Nat.succ_pos n)
    have hmoves : (first + step == first) = false := h.moves 0 (Nat.succ_pos n)
    rw [rangeFrom, if_pos hbefore, if_pos ((distance_lt_iff hbefore).2 hmoves), ih h.tail, rangeEnding_succ,
      List.range_succ_eq_map, List.map_cons, List.map_map]
    simp only [rangeTerm_succ, Function.comp_def, Nat.succ_eq_add_one]
    generalize (List.range n).map (fun k => body (rangeTerm first step (k + 1))) = later
    rw [takeTurns, rangeTerm]
    obtain ⟨v, runs, stuck⟩ := body first
    cases v <;> rfl

/-- The numbers of a range follow one another in the direction of its step. -/
theorem RangeLength.isBefore_term (h : RangeLength first last step n) {j k : Nat} (hjk : j < k) (hk : k ≤ n)
    (hbefore : isBefore step (rangeTerm first step k) last = true) :
    isBefore step (rangeTerm first step j) (rangeTerm first step k) = true := by
  induction k with
  | zero => cases hjk
  | succ k ih =>
    have hlast := h.before k hk
    have hnext : isBefore step (rangeTerm first step k) (rangeTerm first step (k + 1)) = true :=
      isBefore_add hlast (isBefore_iff.1 hbefore).2.1 (h.moves k hk)
    rcases Nat.lt_or_eq_of_le (Nat.le_of_lt_succ hjk) with hlt | rfl
    · exact isBefore_trans (ih hlt (Nat.le_of_succ_le hk) hlast) hnext
    · exact hnext

/-- The numbers of a range are all that lie before its bound, unless its step is too small to reach that. -/
theorem RangeLength.isBefore_iff_lt (h : RangeLength first last step n) (hstep : step.isNaN = false)
    (hreached : isBefore step (rangeTerm first step n) last = false) (k : Nat) :
    isBefore step (rangeTerm first step k) last = true ↔ k < n := by
  have hbehind (d : Nat) : isBefore step (rangeTerm first step (n + d)) last = false := by
    induction d with
    | zero => exact hreached
    | succ d ih => exact isBefore_add_of_reached hstep ih
  refine ⟨fun hbefore => ?_, h.before k⟩
  by_contra hk
  obtain ⟨d, rfl⟩ := Nat.exists_eq_add_of_le (Nat.le_of_not_lt hk)
  rw [hbehind d] at hbefore
  cases hbefore

end

/-! ## Ranges as expressions -/

section

variable {r : Registry} {s : Scope} {first last step : Expr} {a b c : Float} {params : List String} {body : Expr}

/-- A bound that is a number is handed on, after what it has run. -/
theorem withBound_of_eq {bound : Traced Value} {x : Float} (h : bound.value = .number x) (f : Float → Traced Value) :
    withBound bound f = bound.bind fun _ => f x := by
  simp only [withBound, Traced.unlessError, Traced.bind, h]

/-- A loop over a range begins when its bounds are there. -/
theorem eval_forRange_eq (hfirst : (first.eval r s).value = .number a) (hlast : (last.eval r s).value = .number b)
    (hstep : (step.eval r s).value = .number c) :
    (Expr.control .forRange [first, last, step] (some ⟨params, body⟩)).eval r s =
      (first.eval r s).bind fun _ => (last.eval r s).bind fun _ => (step.eval r s).bind fun _ =>
        overRange a b c fun x => body.eval r (s.enter (.ofParams params [.number x])) := by
  rw [Expr.eval, withBound_of_eq hfirst, withBound_of_eq hlast, withBound_of_eq hstep]

theorem value_forRange (hfirst : (first.eval r s).value = .number a) (hlast : (last.eval r s).value = .number b)
    (hstep : (step.eval r s).value = .number c) :
    ((Expr.control .forRange [first, last, step] (some ⟨params, body⟩)).eval r s).value =
      (overRange a b c fun x => body.eval r (s.enter (.ofParams params [.number x]))).value := by
  rw [eval_forRange_eq hfirst hlast hstep]
  rfl

theorem runs_forRange (hfirst : (first.eval r s).value = .number a) (hlast : (last.eval r s).value = .number b)
    (hstep : (step.eval r s).value = .number c) :
    ((Expr.control .forRange [first, last, step] (some ⟨params, body⟩)).eval r s).runs =
      (first.eval r s).runs ++ (last.eval r s).runs ++ (step.eval r s).runs ++
        (overRange a b c fun x => body.eval r (s.enter (.ofParams params [.number x]))).runs := by
  rw [eval_forRange_eq hfirst hlast hstep]
  simp only [Traced.bind, List.append_assoc]

end

/-- A loop over a range takes turns for its numbers, and always comes to an end. Its numbers are the first bound and then always
the double nearest to the sum with the step.

* If the step is zero or no number, that is a semantic error, and no turn is taken.
* Otherwise there is a number of turns `n`: as many numbers lie before the last bound and are moved on by the step, and of the next
  one this is not true. They follow one another in the direction of the step. If the next one does not lie before the bound, they
  are all the numbers that do.
* If no turn is an error, all turns are taken. Their values are the array; but if the next number lies before the bound, so that the
  step does not move it on, the result is a semantic error.
* Otherwise no turn is taken after the first one that is an error, and that is the result.

The turns evaluate the body in the outer scope with one more frame, in which the parameter stands for the number. -/
theorem eval_forRange (r : Registry) (s : Scope) {first last step : Expr} {a b c : Float}
    (hfirst : (first.eval r s).value = .number a) (hlast : (last.eval r s).value = .number b)
    (hstep : (step.eval r s).value = .number c) (params : List String) (body : Expr) :
    let bounds := (first.eval r s).runs ++ (last.eval r s).runs ++ (step.eval r s).runs
    let loop := (Expr.control .forRange [first, last, step] (some ⟨params, body⟩)).eval r s
    ((c == 0 || c.isNaN) = true →
        loop.value = .error Fault.zeroStep.toError ∧ Fault.zeroStep.toError.kind = .semantic ∧ loop.runs = bounds) ∧
      ((c == 0 || c.isNaN) = false →
        ∃ n, let turns := (List.range n).map fun k => body.eval r (s.enter (.ofParams params [.number (rangeTerm a c k)]))
          RangeLength a b c n ∧
          (∀ j k, j < k → k ≤ n → isBefore c (rangeTerm a c k) b = true → isBefore c (rangeTerm a c j) (rangeTerm a c k) = true) ∧
          (isBefore c (rangeTerm a c n) b = false → ∀ k, isBefore c (rangeTerm a c k) b = true ↔ k < n) ∧
          ((∀ t ∈ turns, t.value.isError = false) →
            loop.runs = bounds ++ turns.flatMap (·.runs) ∧
              (isBefore c (rangeTerm a c n) b = false → loop.value = .array (turns.map (·.value))) ∧
              (isBefore c (rangeTerm a c n) b = true →
                loop.value = .error (Fault.tooSmallStep (plainText c) (plainText (rangeTerm a c n))).toError ∧
                  (Fault.tooSmallStep (plainText c) (plainText (rangeTerm a c n))).toError.kind = .semantic)) ∧
          ∀ k t e, turns[k]? = some t → t.value = .error e → (∀ u ∈ turns.take k, u.value.isError = false) →
            loop.value = .error e ∧ loop.runs = bounds ++ (turns.take (k + 1)).flatMap (·.runs)) := by
  intro bounds loop
  have hvalue : loop.value = _ := value_forRange hfirst hlast hstep
  have hruns : loop.runs = bounds ++ _ := runs_forRange hfirst hlast hstep
  refine ⟨fun hzero => ?_, fun hmoves => ?_⟩
  · rw [overRange, if_pos hzero] at hvalue hruns
    exact ⟨hvalue, rfl, hruns.trans (List.append_nil _)⟩
  · rw [overRange, if_neg (by rw [hmoves]; decide)] at hvalue hruns
    obtain ⟨n, hlength⟩ := exists_rangeLength a b c
    rw [rangeFrom_eq_takeTurns _ hlength] at hvalue hruns
    have hnumber : c.isNaN = false := (Bool.or_eq_false_iff.1 hmoves).2
    refine ⟨n, hlength, fun j k hjk hk => hlength.isBefore_term hjk hk, hlength.isBefore_iff_lt hnumber, fun hall => ?_,
      fun k t e hturn herror hbefore => ?_⟩
    · obtain ⟨hturns, hturnRuns⟩ := takeTurns_of_none fun t ht => Value.error?_eq_none_iff.2 (hall t ht)
      refine ⟨hruns.trans (congrArg _ hturnRuns), fun hreached => ?_, fun hbefore => ⟨?_, rfl⟩⟩
      · rw [hvalue, Traced.map, hturns, rangeEnding, if_neg (by rw [hreached]; decide), Except.map, List.append_nil]
      · rw [hvalue, Traced.map, hturns, rangeEnding, if_pos hbefore, Except.map]
    · have hends : Value.error? t.value = some e := by rw [herror]; rfl
      obtain ⟨hturns, hturnRuns⟩ := takeTurns_of_first hturn hends fun u hu =>
        Value.error?_eq_none_iff.2 (hbefore u hu)
      exact ⟨by rw [hvalue, Traced.map, hturns], hruns.trans (congrArg _ hturnRuns)⟩

/-- The bounds and the step of a range, under their names. -/
def rangeScope (first last step : Float) : Scope := [[("a", .number first), ("b", .number last), ("c", .number step)]]

/-- A loop goes down from three by ones. It does not get on by ones where the doubles are two apart. -/
theorem eval_forRange_unitSteps :
    let loop := Expr.control .forRange [.var "a", .var "b", .var "c"] (some ⟨["i"], .var "i"⟩)
    (loop.eval (.standard ⟨0, 0, by decide⟩) (rangeScope 3 0 (-1))).value = .array [.number 3, .number 2, .number 1] ∧
      (loop.eval (.standard ⟨0, 0, by decide⟩) (rangeScope 9007199254740992 9007199254740994 1)).value =
        .error (Fault.tooSmallStep "1" "9007199254740992").toError := by
  obtain ⟨-, hdown⟩ := @eval_forRange (.standard ⟨0, 0, by decide⟩) (rangeScope 3 0 (-1)) (.var "a") (.var "b") (.var "c")
    3 0 (-1) rfl rfl rfl ["i"] (.var "i")
  obtain ⟨-, hup⟩ := @eval_forRange (.standard ⟨0, 0, by decide⟩) (rangeScope 9007199254740992 9007199254740994 1)
    (.var "a") (.var "b") (.var "c") 9007199254740992 9007199254740994 1 rfl rfl rfl ["i"] (.var "i")
  obtain ⟨n, hlength, -, -, hall, -⟩ := hdown (by decide)
  obtain ⟨m, hlength', -, -, hall', -⟩ := hup (by decide)
  have hthree : RangeLength 3 0 (-1) 3 := ⟨by decide, by decide, by decide⟩
  have hnone : RangeLength 9007199254740992 9007199254740994 1 0 := ⟨nofun, nofun, by decide⟩
  obtain rfl := hthree.unique hlength
  obtain rfl := hnone.unique hlength'
  refine ⟨((hall ?_).2.1 (by decide)).trans ?_, ((hall' nofun).2.2 (by decide)).1.trans ?_⟩
  · intro t ht
    obtain ⟨k, -, rfl⟩ := List.mem_map.1 ht
    rfl
  · have hone : rangeTerm 3 (-1) 1 = 2 := by decide
    have htwo : rangeTerm 3 (-1) 2 = 1 := by decide
    show Value.array [.number 3, .number (rangeTerm 3 (-1) 1), .number (rangeTerm 3 (-1) 2)] = _
    rw [hone, htwo]
  · have hstep : plainText 1 = "1" := by decide +kernel
    have hplace : plainText 9007199254740992 = "9007199254740992" := by decide +kernel
    rw [rangeTerm, hstep, hplace]

end CellExpr
