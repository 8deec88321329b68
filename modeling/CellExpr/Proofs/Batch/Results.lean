import CellExpr.Batch.Basic
import CellExpr.Proofs.Batch.Steps

/-!
# Results of a batch

A batch that evaluates its rows one after the other does the rows up to and including the first one at which it is cancelled, and
no row after it (`results_run_of_first`); if it is cancelled at none, it does all (`results_run_of_never`). Whoever observes it has
been shown each result once, in order (`state_run`).

Whatever the order in which the workers move and whenever the batch is cancelled, a pool that has come to its end has exactly the
results of the rows that were evaluated, in the order of the rows, and of each chunk its first rows (`results_run_new`). A pool
that was not cancelled has the results of all rows, as if they had been evaluated one after the other.

The invariant is an account of all places (`Pool.Account`): each row is evaluated, or left to a worker or a waiting chunk, or was
dropped because the batch was cancelled; and each result that was handed in or is held by a worker is that of a row that was
evaluated.
-/

namespace CellExpr.Batch

variable {σ : Type} {b : Batch} {observe : σ → RowResult → σ × Bool} {state : σ} {r : Row Value} {rows : List (Row Value)}

/-- What an observer has made of the results of some rows. -/
def observed (b : Batch) (observe : σ → RowResult → σ × Bool) (state : σ) (rows : List (Row Value)) : σ :=
  rows.foldl (fun state r => (observe state (b.evaluate r).1).1) state

/-- Whether the row at a place cancels the batch if all rows before it are done: by a body that runs for it, or by the observer to
whom its result is shown. -/
def cancelsAt (b : Batch) (observe : σ → RowResult → σ × Bool) (state : σ) (rows : List (Row Value)) (place : Nat) : Bool :=
  match rows[place]? with
  | none => false
  | some r => (b.evaluate r).2 || (observe (b.observed observe state (rows.take place)) (b.evaluate r).1).2

theorem run_of_cancelled : b.run observe state true rows = ⟨[], state, true⟩ := by
  cases rows <;> rfl

/-- The first row is evaluated, and the others unless it cancels the batch. -/
theorem run_cons :
    b.run observe state false (r :: rows) =
      let later := b.run observe (observe state (b.evaluate r).1).1 (b.cancelsAt observe state (r :: rows) 0) rows
      { later with results := (b.evaluate r).1 :: later.results } := rfl

/-- The observer has been shown each result once, in order. -/
theorem state_run (cancelled : Bool) :
    (b.run observe state cancelled rows).state =
      (b.run observe state cancelled rows).results.foldl (fun state result => (observe state result).1) state := by
  induction rows generalizing state cancelled with
  | nil => rfl
  | cons r rows ih =>
    cases cancelled with
    | true => rfl
    | false =>
      rw [run_cons, List.foldl_cons]
      exact ih _

/-- All rows are done if none of them cancels the batch. -/
theorem results_run_of_never (h : ∀ i, b.cancelsAt observe state rows i = false) :
    (b.run observe state false rows).results = rows.map fun r => (b.evaluate r).1 := by
  induction rows generalizing state with
  | nil => rfl
  | cons r rows ih =>
    rw [run_cons, h 0, List.map_cons, ← ih fun i => h (i + 1)]

/-- The rows up to and including the first one that cancels the batch are done. -/
theorem results_run_of_first {place : Nat} (h : b.cancelsAt observe state rows place = true)
    (hbefore : ∀ i < place, b.cancelsAt observe state rows i = false) :
    (b.run observe state false rows).results = (rows.take (place + 1)).map fun r => (b.evaluate r).1 := by
  induction rows generalizing state place with
  | nil => cases h
  | cons r rows ih =>
    rw [run_cons, List.take_succ_cons, List.map_cons]
    cases place with
    | zero =>
      rw [h, run_of_cancelled]
      rfl
    | succ place =>
      rw [hbefore 0 place.succ_pos]
      simp only [List.cons.injEq, true_and]
      exact ih h fun i hi => hbefore (i + 1) (Nat.succ_lt_succ hi)

/-! ## Observers that cancel nothing, and observers that count -/

theorem cancelsAt_of_calm (hobserve : ∀ state result, (observe state result).2 = false) {place : Nat}
    (hrow : rows[place]? = some r) : b.cancelsAt observe state rows place = (b.evaluate r).2 := by
  rw [cancelsAt, hrow]
  simp only [hobserve, Bool.or_false]

/-- All rows are done if neither a row nor the observer cancels the batch. -/
theorem results_run_of_calm (hobserve : ∀ state result, (observe state result).2 = false)
    (hcalm : ∀ r ∈ rows, (b.evaluate r).2 = false) (state : σ) :
    (b.run observe state false rows).results = rows.map fun r => (b.evaluate r).1 := by
  refine results_run_of_never fun i => ?_
  cases hrow : rows[i]? with
  | none => rw [cancelsAt, hrow]
  | some r => rw [cancelsAt_of_calm hobserve hrow, hcalm r (List.mem_of_getElem? hrow)]

theorem observed_count (stop : Nat → Bool) (n : Nat) (rows : List (Row Value)) :
    b.observed (fun n _ => (n + 1, stop n)) n rows = n + rows.length := by
  induction rows generalizing n with
  | nil => rfl
  | cons r rows ih =>
    rw [List.length_cons]
    exact (ih (n + 1)).trans (by omega)

/-- An observer who counts cancels the batch at certain places. -/
theorem cancelsAt_count (stop : Nat → Bool) {place : Nat} (hrow : rows[place]? = some r) :
    b.cancelsAt (fun n _ => (n + 1, stop n)) 0 rows place = ((b.evaluate r).2 || stop place) := by
  have hlt : place < rows.length := (List.getElem?_eq_some_iff.1 hrow).1
  rw [cancelsAt, hrow]
  simp only [observed_count, List.length_take_of_le (Nat.le_of_lt hlt), Nat.zero_add]

end CellExpr.Batch

namespace CellExpr

/-- The places of the rows that a worker has still to evaluate. -/
def Worker.left : Worker → List Nat
  | .idle => []
  | .polling job | .evaluating job => job.places
  | .sending job _ => job.tail.places

/-- The result that a worker has not yet handed in, with its place. -/
def Worker.held : Worker → List (Nat × RowResult)
  | .sending job result => [(job.next, result)]
  | _ => []

/-- The rows before a chunk that were cut together with rows in it are done. -/
def Chunk.Ready (length : Nat) (done : List Nat) (c : Chunk) : Prop :=
  ∀ i ∈ c.places, ∀ j < c.next, j / length = i / length → j ∈ done

/-- The chunk of a worker is ready, and a worker that is about to evaluate a row has one. -/
def Worker.Ready (length : Nat) (done : List Nat) : Worker → Prop
  | .idle => True
  | .polling job => job.Ready length done
  | .evaluating job => job.next < job.stop ∧ job.Ready length done
  | .sending job _ => job.tail.Ready length done

variable {b : Batch} {length place : Nat} {done : List Nat} {c : Chunk} {w : Worker}

theorem Chunk.Ready.append (h : c.Ready length done) (place : Nat) : c.Ready length (done ++ [place]) :=
  fun i hi j hj hsame => List.mem_append_left _ (h i hi j hj hsame)

theorem Worker.Ready.append (h : w.Ready length done) (place : Nat) : w.Ready length (done ++ [place]) := by
  cases w with
  | idle => trivial
  | polling job => exact Chunk.Ready.append h place
  | evaluating job => exact ⟨h.1, h.2.append place⟩
  | sending job result => exact Chunk.Ready.append h place

/-- A chunk whose first row is done as well. -/
theorem Chunk.Ready.tail (h : c.Ready length done) : c.tail.Ready length (done ++ [c.next]) := by
  intro i hi j hj hsame
  obtain ⟨hnext, hstop⟩ := Chunk.mem_places.1 hi
  have hnext' : c.next + 1 ≤ i := hnext
  have hj' : j < c.next + 1 := hj
  rcases Nat.lt_succ_iff_lt_or_eq.1 hj' with hlt | rfl
  · exact List.mem_append_left _ (h i (Chunk.mem_places.2 ⟨by omega, hstop⟩) j hlt hsame)
  · exact List.mem_append_right _ List.mem_cons_self

namespace Pool

variable {p p' : Pool} {m : Move} {rows : List (Row Value)}

/-- The places of the rows that are not yet evaluated and not dropped. -/
def left (p : Pool) : List Nat := p.workers.flatMap Worker.left ++ p.waiting.flatMap Chunk.places

/-- The results so far, with their places: those handed in and those that workers hold. -/
def held (p : Pool) : List (Nat × RowResult) := p.sent ++ p.workers.flatMap Worker.held

/-- The places of the rows that some moves evaluate, in the order of the moves. -/
def evaluations (b : Batch) : Pool → List Move → List Nat
  | _, [] => []
  | p, m :: moves => (p.evaluated? m).toList ++ evaluations b (p.step b m) moves

/-- The account of a pool for rows that were cut into chunks of a length, after the rows at the places `done` were evaluated. -/
structure Account (b : Batch) (rows : List (Row Value)) (length : Nat) (done : List Nat) (p : Pool) : Prop where
  rows_eq : p.rows = rows
  /-- There is one result for each row that was evaluated. -/
  held_perm : (p.held.map (·.1)).Perm done
  held_value : ∀ q ∈ p.held, rows[q.1]?.map (fun r => (b.evaluate r).1) = some q.2
  /-- Each row is done or left or dropped, and none is dropped before the batch is cancelled. -/
  places_perm : ∃ dropped, (done ++ p.left ++ dropped).Perm (List.range rows.length) ∧ (p.cancelled = false → dropped = [])
  /-- No row is done before another one that was cut together with it and comes first. -/
  closed : ∀ i ∈ done, ∀ j < i, j / length = i / length → j ∈ done
  workers_ready : ∀ w ∈ p.workers, w.Ready length done
  waiting_ready : ∀ c ∈ p.waiting, c.Ready length done
  /-- As long as the batch is not cancelled, no evaluation has cancelled it. -/
  calm : p.cancelled = false → ∀ i ∈ done, ∀ r, rows[i]? = some r → (b.evaluate r).2 = false

/-! ## One move -/

theorem Replaces.mem {workers workers' : List Worker} {w w' : Worker} (h : Replaces workers workers' w w') : w ∈ workers := by
  obtain ⟨others, hbefore, _⟩ := h
  exact hbefore.mem_iff.2 List.mem_cons_self

theorem Replaces.forall_mem {workers workers' : List Worker} {w w' : Worker} {P : Worker → Prop}
    (h : Replaces workers workers' w w') (hall : ∀ v ∈ workers, P v) (hw' : P w') : ∀ v ∈ workers', P v := by
  obtain ⟨others, hbefore, hafter⟩ := h
  intro v hv
  rcases List.mem_cons.1 (hafter.mem_iff.1 hv) with rfl | hv
  · exact hw'
  · exact hall v (hbefore.mem_iff.2 (List.mem_cons_of_mem _ hv))

theorem Replaces.exists_flatMap_perm {α : Type} {workers workers' : List Worker} {w w' : Worker}
    (h : Replaces workers workers' w w') (f : Worker → List α) :
    ∃ rest, (workers.flatMap f).Perm (f w ++ rest) ∧ (workers'.flatMap f).Perm (f w' ++ rest) := by
  obtain ⟨others, hbefore, hafter⟩ := h
  exact ⟨others.flatMap f, hbefore.flatMap_right f, hafter.flatMap_right f⟩

/-- A worker that has no result in its hands before and after leaves the results as they are. -/
theorem Replaces.held_perm {workers : List Worker} {w w' : Worker} (h : Replaces p.workers workers w w')
    (hw : w.held = []) (hw' : w'.held = []) (hsent : p'.sent = p.sent) (hworkers : p'.workers = workers) :
    p'.held.Perm p.held := by
  obtain ⟨rest, hbefore, hafter⟩ := h.exists_flatMap_perm Worker.held
  rw [hw, List.nil_append] at hbefore
  rw [hw', List.nil_append] at hafter
  rw [held, held, hsent, hworkers]
  exact (hafter.trans hbefore.symm).append_left _

namespace Account

/-- A move that evaluates nothing, and may drop rows if the batch is cancelled. -/
theorem of_quiet (h : Account b rows length done p) (dropped : List Nat) (hrows : p'.rows = p.rows)
    (hheld : p'.held.Perm p.held) (hleft : p.left.Perm (p'.left ++ dropped))
    (hdropped : p'.cancelled = false → p.cancelled = false ∧ dropped = []) (hworkers : ∀ w ∈ p'.workers, w.Ready length done)
    (hwaiting : ∀ c ∈ p'.waiting, c.Ready length done) : Account b rows length done p' where
  rows_eq := hrows.trans h.rows_eq
  held_perm := (hheld.map _).trans h.held_perm
  held_value q hq := h.held_value q (hheld.mem_iff.1 hq)
  places_perm := by
    obtain ⟨before, hperm, hbefore⟩ := h.places_perm
    refine ⟨dropped ++ before, List.Perm.trans ?_ hperm, fun hrunning => ?_⟩
    · refine List.perm_iff_count.2 fun i => ?_
      have hcount := hleft.count_eq i
      simp only [List.count_append] at hcount ⊢
      omega
    · obtain ⟨hrunning', hnone⟩ := hdropped hrunning
      rw [hnone, hbefore hrunning', List.append_nil]
  closed := h.closed
  workers_ready := hworkers
  waiting_ready := hwaiting
  calm hrunning := h.calm (hdropped hrunning).1

theorem lt_length_of_mem_left (h : Account b rows length done p) {i : Nat} (hi : i ∈ p.left) : i < rows.length := by
  obtain ⟨dropped, hperm, _⟩ := h.places_perm
  exact List.mem_range.1 (hperm.mem_iff.1 (List.mem_append_left _ (List.mem_append_right _ hi)))

/-- A worker that is about to evaluate a row finds it. -/
theorem exists_row (h : Account b rows length done p) {job : Chunk} (hjob : .evaluating job ∈ p.workers) :
    job.next < job.stop ∧ job.next < rows.length := by
  have hready : job.next < job.stop ∧ job.Ready length done := h.workers_ready _ hjob
  refine ⟨hready.1, h.lt_length_of_mem_left (List.mem_append_left _ ?_)⟩
  exact List.mem_flatMap.2 ⟨_, hjob, Chunk.mem_places.2 ⟨Nat.le_refl _, hready.1⟩⟩

/-- A row is evaluated: its worker holds the result, and the row is no longer left. -/
theorem evaluate (h : Account b rows length done p) {job : Chunk} {row : Row Value} {workers : List Worker}
    (hrow : p.rows[job.next]? = some row)
    (hworkers : Replaces p.workers workers (.evaluating job) (.sending job (b.evaluate row).1)) :
    Account b rows length (done ++ [job.next])
      { p with workers, cancelled := p.cancelled || (b.evaluate row).2 } := by
  obtain ⟨hmore, _⟩ := h.exists_row hworkers.mem
  have hready : job.Ready length done := (h.workers_ready _ hworkers.mem : job.next < job.stop ∧ job.Ready length done).2
  rw [h.rows_eq] at hrow
  obtain ⟨others, hbefore, hafter⟩ := hworkers.exists_flatMap_perm Worker.held
  have hheld : (p.sent ++ workers.flatMap Worker.held).Perm ((job.next, (b.evaluate row).1) :: p.held) := by
    refine ((hafter.append_left p.sent).trans ?_).trans ((hbefore.append_left p.sent).symm.cons _)
    exact List.perm_middle
  refine ⟨h.rows_eq, ?_, ?_, ?_, ?_, ?_, ?_, ?_⟩
  · refine (hheld.map _).trans ?_
    rw [List.map_cons]
    exact (h.held_perm.cons _).trans (List.perm_append_singleton _ _).symm
  · intro q hq
    rcases List.mem_cons.1 (hheld.mem_iff.1 hq) with rfl | hq
    · rw [hrow]
      rfl
    · exact h.held_value q hq
  · obtain ⟨dropped, hperm, hnone⟩ := h.places_perm
    refine ⟨dropped, List.Perm.trans (List.perm_iff_count.2 fun i => ?_) hperm, fun hrunning => ?_⟩
    · obtain ⟨rest, hbefore, hafter⟩ := hworkers.exists_flatMap_perm Worker.left
      have hplaces : job.places = [job.next] ++ job.tail.places := Chunk.places_of_lt hmore
      have hcount := hbefore.count_eq i
      have hcount' := hafter.count_eq i
      simp only [Worker.left, hplaces, left, List.count_append] at hcount hcount' ⊢
      omega
    · exact hnone (Bool.or_eq_false_iff.1 hrunning).1
  · intro i hi j hj hsame
    rcases List.mem_append.1 hi with hi | hi
    · exact List.mem_append_left _ (h.closed i hi j hj hsame)
    · obtain rfl := List.mem_singleton.1 hi
      exact List.mem_append_left _ (hready _ (Chunk.mem_places.2 ⟨Nat.le_refl _, hmore⟩) j hj hsame)
  · exact hworkers.forall_mem (fun w hw => (h.workers_ready w hw).append _) hready.tail
  · exact fun c hc => (h.waiting_ready c hc).append _
  · intro hrunning i hi r hr
    obtain ⟨hrunning, hcalm⟩ := Bool.or_eq_false_iff.1 hrunning
    rcases List.mem_append.1 hi with hi | hi
    · exact h.calm hrunning i hi r hr
    · obtain rfl := List.mem_singleton.1 hi
      obtain rfl := Option.some.inj (hrow.symm.trans hr)
      exact hcalm

/-- Every move keeps the account. -/
theorem step {place : Option Nat} (h : Account b rows length done p) (hstep : Step b p m place p') :
    Account b rows length (done ++ place.toList) p' := by
  have hquiet : done ++ (none : Option Nat).toList = done := List.append_nil done
  cases hstep with
  | cancel =>
    rw [hquiet]
    refine h.of_quiet [] rfl (.refl _) ?_ nofun h.workers_ready h.waiting_ready
    rw [List.append_nil]
    exact .refl _
  | stay _ =>
    rw [hquiet]
    exact h
  | @take number job rest workers hwaiting hworkers =>
    rw [hquiet]
    have hready : ∀ c ∈ job :: rest, c.Ready length done := hwaiting ▸ h.waiting_ready
    obtain ⟨hjob, hrest⟩ := List.forall_mem_cons.1 hready
    refine h.of_quiet [] rfl (hworkers.held_perm rfl rfl rfl rfl) ?_ (fun hrunning => ⟨hrunning, rfl⟩)
      (hworkers.forall_mem h.workers_ready hjob) hrest
    obtain ⟨others, hbefore, hafter⟩ := hworkers.exists_flatMap_perm Worker.left
    refine List.perm_iff_count.2 fun i => ?_
    have hcount := hbefore.count_eq i
    have hcount' := hafter.count_eq i
    simp only [left, hwaiting, Worker.left, List.flatMap_cons, List.count_append, List.count_nil] at hcount hcount' ⊢
    omega
  | @goOn number job workers hmore hrunning hworkers =>
    rw [hquiet]
    have hjob : job.Ready length done := h.workers_ready _ hworkers.mem
    refine h.of_quiet [] rfl (hworkers.held_perm rfl rfl rfl rfl) ?_ (fun hrunning => ⟨hrunning, rfl⟩)
      (hworkers.forall_mem h.workers_ready ⟨hmore, hjob⟩) h.waiting_ready
    obtain ⟨others, hbefore, hafter⟩ := hworkers.exists_flatMap_perm Worker.left
    rw [List.append_nil]
    exact (hbefore.trans hafter.symm).append_right _
  | @leave number job workers hend hworkers =>
    rw [hquiet]
    refine h.of_quiet job.places rfl (hworkers.held_perm rfl rfl rfl rfl) ?_
      (fun hrunning => ⟨hrunning, Chunk.places_of_not_lt (hend hrunning)⟩) (hworkers.forall_mem h.workers_ready trivial)
      h.waiting_ready
    obtain ⟨others, hbefore, hafter⟩ := hworkers.exists_flatMap_perm Worker.left
    refine List.perm_iff_count.2 fun i => ?_
    have hcount := hbefore.count_eq i
    have hcount' := hafter.count_eq i
    simp only [left, Worker.left, List.count_append, List.count_nil] at hcount hcount' ⊢
    omega
  | evaluate hrow hworkers => exact h.evaluate hrow hworkers
  | miss hrow hworkers =>
    obtain ⟨_, hlt⟩ := h.exists_row hworkers.mem
    rw [h.rows_eq, List.getElem?_eq_getElem hlt] at hrow
    cases hrow
  | @send number job result workers hworkers =>
    rw [hquiet]
    have hjob : job.tail.Ready length done := h.workers_ready _ hworkers.mem
    refine h.of_quiet [] rfl ?_ ?_ (fun hrunning => ⟨hrunning, rfl⟩)
      (hworkers.forall_mem h.workers_ready hjob) h.waiting_ready
    · obtain ⟨others, hbefore, hafter⟩ := hworkers.exists_flatMap_perm Worker.held
      rw [held, held, List.append_assoc]
      exact ((hafter.append_left _).trans hbefore.symm).append_left _
    · obtain ⟨others, hbefore, hafter⟩ := hworkers.exists_flatMap_perm Worker.left
      rw [List.append_nil]
      exact (hbefore.trans hafter.symm).append_right _

/-! ## Runs -/

theorem run (h : Account b rows length done p) (moves : List Move) :
    Account b rows length (done ++ p.evaluations b moves) (p.run b moves) := by
  induction moves generalizing p done with
  | nil =>
    rw [evaluations, List.append_nil]
    exact h
  | cons m moves ih =>
    rw [evaluations, ← List.append_assoc, run_cons]
    exact ih (h.step (step_step b p m))

end Account

/-- The account of a new pool: all rows are left, and no chunk has a row before it in the same cut. -/
theorem account_new (b : Batch) (threads chunkSize : Nat) (rows : List (Row Value)) (cancelled : Bool) :
    Account b rows (max chunkSize 1) [] (new threads chunkSize rows cancelled) := by
  have hworkers {α : Type} (f : Worker → List α) (hf : f .idle = []) :
      (List.replicate (max threads 1) Worker.idle).flatMap f = [] := by
    refine List.flatMap_eq_nil_iff.2 fun w hw => ?_
    rw [List.eq_of_mem_replicate hw, hf]
  have hheld : (new threads chunkSize rows cancelled).held = [] := hworkers Worker.held rfl
  refine ⟨rfl, by rw [hheld]; exact .refl _, by rw [hheld]; exact nofun, ⟨[], ?_, fun _ => rfl⟩, nofun, ?_, ?_, nofun⟩
  · rw [List.append_nil, List.nil_append, left, new, hworkers Worker.left rfl, List.nil_append,
      Chunk.flatMap_places_cut (by omega)]
  · intro w hw
    rw [List.eq_of_mem_replicate hw]
    trivial
  · intro c hc i hi j hj hsame
    exact absurd hsame (Nat.ne_of_lt (Chunk.div_lt_of_mem_cut hc hi hj))

/-! ## The end -/

theorem held_and_left_of_isDone (h : p.isDone = true) : p.held = p.sent ∧ p.left = [] := by
  obtain ⟨hwaiting, hworkers⟩ := Bool.and_eq_true_iff.1 h
  have hnone {α : Type} (f : Worker → List α) (hf : f .idle = []) : p.workers.flatMap f = [] := by
    refine List.flatMap_eq_nil_iff.2 fun w hw => ?_
    have hidle := List.all_eq_true.1 hworkers w hw
    cases w with
    | idle => exact hf
    | _ => cases hidle
  constructor
  · rw [held, hnone Worker.held rfl, List.append_nil]
  · rw [left, hnone Worker.left rfl, List.isEmpty_iff.1 hwaiting]
    rfl

/-- The places of the results that were handed in, in order. -/
def places (p : Pool) : List Nat := (p.sent.mergeSort (·.1 ≤ ·.1)).map (·.1)

theorem pairwise_le_places (p : Pool) : p.places.Pairwise (· ≤ ·) := by
  have htrans (q r t : Nat × RowResult) (hqr : decide (q.1 ≤ r.1) = true) (hrt : decide (r.1 ≤ t.1) = true) :
      decide (q.1 ≤ t.1) = true := by
    rw [decide_eq_true_iff] at hqr hrt ⊢
    exact Nat.le_trans hqr hrt
  have htotal (q r : Nat × RowResult) : (decide (q.1 ≤ r.1) || decide (r.1 ≤ q.1)) = true := by
    rw [Bool.or_eq_true, decide_eq_true_iff, decide_eq_true_iff]
    exact Nat.le_total q.1 r.1
  refine List.pairwise_map.2 ((List.pairwise_mergeSort htrans htotal p.sent).imp fun hle => ?_)
  exact of_decide_eq_true hle

namespace Account

theorem nodup (h : Account b rows length done p) : done.Nodup := by
  obtain ⟨dropped, hperm, _⟩ := h.places_perm
  have hall := hperm.nodup_iff.2 List.nodup_range
  rw [List.append_assoc] at hall
  exact (List.nodup_append.1 hall).1

/-- At the end the results are those of the rows that were evaluated. -/
theorem places_perm_done (h : Account b rows length done p) (hdone : p.isDone = true) : p.places.Perm done := by
  have hsent := h.held_perm
  rw [(held_and_left_of_isDone hdone).1] at hsent
  exact ((List.mergeSort_perm _ _).map _).trans hsent

theorem pairwise_places (h : Account b rows length done p) (hdone : p.isDone = true) : p.places.Pairwise (· < ·) := by
  have hnodup : p.places.Pairwise (· ≠ ·) := (h.places_perm_done hdone).nodup_iff.2 h.nodup
  exact (p.pairwise_le_places.and hnodup).imp fun ⟨hle, hne⟩ => Nat.lt_of_le_of_ne hle hne

theorem results_eq (h : Account b rows length done p) (hdone : p.isDone = true) :
    p.results.map some = p.places.map fun i => rows[i]?.map fun r => (b.evaluate r).1 := by
  rw [results, places, List.map_map, List.map_map]
  refine List.map_congr_left fun q hq => ?_
  have hsent : q ∈ p.held := by
    rw [(held_and_left_of_isDone hdone).1]
    exact (List.mergeSort_perm _ _).mem_iff.1 hq
  exact (h.held_value q hsent).symm

/-- Of each chunk the first rows were evaluated. -/
theorem filter_prefix_places {count : Nat} (h : Account b rows length done p) (hdone : p.isDone = true)
    (hc : c ∈ Chunk.cut count length) : (p.places.filter (· ∈ c.places)) <+: c.places := by
  have hperm := h.places_perm_done hdone
  refine Chunk.filter_prefix_places (h.pairwise_places hdone) fun i hi hmem j hj hlt => ?_
  exact hperm.mem_iff.2 (h.closed i (hperm.mem_iff.1 hmem) j hlt (Chunk.div_eq_of_mem_cut hc hj hi))

/-- Unless the batch is cancelled, all rows are evaluated. -/
theorem done_perm_range (h : Account b rows length done p) (hdone : p.isDone = true) (hrunning : p.cancelled = false) :
    done.Perm (List.range rows.length) := by
  obtain ⟨dropped, hperm, hnone⟩ := h.places_perm
  rw [hnone hrunning, (held_and_left_of_isDone hdone).2, List.append_nil, List.append_nil] at hperm
  exact hperm

/-- Unless the batch is cancelled, no row cancels it. -/
theorem evaluate_calm (h : Account b rows length done p) (hdone : p.isDone = true) (hrunning : p.cancelled = false) :
    ∀ r ∈ rows, (b.evaluate r).2 = false := by
  intro r hr
  obtain ⟨i, hi⟩ := List.getElem?_of_mem hr
  have hlt : i < rows.length := (List.getElem?_eq_some_iff.1 hi).1
  exact h.calm hrunning i ((h.done_perm_range hdone hrunning).mem_iff.2 (List.mem_range.2 hlt)) r hi

theorem lt_length_of_mem_done (h : Account b rows length done p) {i : Nat} (hi : i ∈ done) : i < rows.length := by
  obtain ⟨dropped, hperm, _⟩ := h.places_perm
  exact List.mem_range.1 (hperm.mem_iff.1 (List.mem_append_left _ (List.mem_append_left _ hi)))

/-- If the first rows were evaluated, there are their results. -/
theorem results_eq_take (h : Account b rows length done p) (hdone : p.isDone = true) {count : Nat}
    (hcount : done.Perm (List.range count)) : p.results = (rows.take count).map fun r => (b.evaluate r).1 := by
  have hplaces : p.places = List.range count :=
    ((h.places_perm_done hdone).trans hcount).eq_of_pairwise
      (fun i j _ _ hij hji => Nat.le_antisymm hij hji) p.pairwise_le_places List.pairwise_le_range
  refine (Option.some_injective _).list_map ?_
  rw [h.results_eq hdone, hplaces]
  refine List.ext_getElem? fun i => ?_
  rw [List.getElem?_map, List.getElem?_map, List.getElem?_map]
  by_cases hi : i < count
  · have hlt : i < rows.length := h.lt_length_of_mem_done (hcount.mem_iff.2 (List.mem_range.2 hi))
    rw [List.getElem?_range hi, List.getElem?_take_of_lt hi, List.getElem?_eq_getElem hlt]
    simp only [Option.map_some, List.getElem?_eq_getElem hlt]
  · rw [List.getElem?_eq_none (by simpa using hi), List.getElem?_eq_none (by rw [List.length_take]; omega)]
    rfl

/-- Unless the batch is cancelled, there are the results of all rows. -/
theorem results_eq_map (h : Account b rows length done p) (hdone : p.isDone = true) (hrunning : p.cancelled = false) :
    p.results = rows.map fun r => (b.evaluate r).1 := by
  rw [h.results_eq_take hdone (h.done_perm_range hdone hrunning), List.take_length]

end Account

end Pool

/-- Any number of workers, any length of chunks, 0 included, any moves in any order, and the batch cancelled at any moment, by a
body of a function or from outside, or never: the run can be brought to its end, and workers that move in turn come there. At an
end the results are those of the rows that were evaluated, in the order of the rows; of each chunk the first rows were evaluated;
and if the batch was not cancelled these are the results of evaluating all rows one after the other. -/
theorem Pool.results_run_new (b : Batch) (threads chunkSize : Nat) (rows : List (Row Value)) (cancelled : Bool)
    (moves : List Move) :
    let start := Pool.new threads chunkSize rows cancelled
    let p := start.run b moves
    let chunks := Chunk.cut rows.length (max chunkSize 1)
    (∃ more, (p.run b more).isDone = true) ∧
      (∃ inTurn, b.runParallel threads chunkSize cancelled rows = start.run b inTurn ∧ (start.run b inTurn).isDone = true) ∧
      chunks.flatMap Chunk.places = List.range rows.length ∧
      (p.isDone = true → ∃ places : List Nat,
        places.Perm (start.evaluations b moves) ∧
        places.Pairwise (· < ·) ∧
        p.results.map some = (places.map fun i => rows[i]?.map fun r => (b.evaluate r).1) ∧
        (∀ c ∈ chunks, (places.filter (· ∈ c.places)) <+: c.places) ∧
        (p.cancelled = false →
          p.results = (rows.map fun r => (b.evaluate r).1) ∧
          ∀ (σ : Type) (observe : σ → RowResult → σ × Bool) (state : σ),
            (∀ state result, (observe state result).2 = false) →
              p.results = (b.run observe state false rows).results)) := by
  intro start p chunks
  have haccount : Account b rows (max chunkSize 1) (start.evaluations b moves) p :=
    (account_new b threads chunkSize rows cancelled).run moves
  refine ⟨exists_run_isDone (workers_run_new_ne_nil b threads chunkSize rows cancelled moves),
    exists_runParallel_eq_run b threads chunkSize cancelled rows, Chunk.flatMap_places_cut (by omega), fun hdone => ?_⟩
  refine ⟨p.places, haccount.places_perm_done hdone, haccount.pairwise_places hdone, haccount.results_eq hdone,
    fun c hc => haccount.filter_prefix_places hdone hc, fun hrunning => ?_⟩
  have hall := haccount.results_eq_map hdone hrunning
  refine ⟨hall, fun σ observe state hobserve => ?_⟩
  rw [hall, Batch.results_run_of_calm hobserve (haccount.evaluate_calm hdone hrunning)]

/-- The value of a cell, for rows of one cell. -/
def cellBatch : Batch := { registry := .empty, expr := .var "value", column := "flag" }

/-- Rows of one cell. -/
def flagRows : List (Row Value) :=
  [{ index := 7, cells := [("flag", .boolean true)] }, { index := 7, cells := [("flag", .boolean false)] },
    { index := 8, cells := [("flag", .null)] }]

/-- Two workers take a chunk each, and the batch is cancelled when the second one has a result to hand in. -/
def cancelledMoves : List Move :=
  [.worker 0, .worker 1, .worker 1, .worker 1, .cancel, .worker 1, .worker 0, .worker 1, .worker 0, .worker 0]

/-- With a row to a chunk, only the row in the middle is evaluated. -/
theorem Pool.results_run_new_cancelled :
    ((Pool.new 2 0 flagRows false).run cellBatch cancelledMoves).isDone = true ∧
      ∃ places : List Nat, places.Perm [1] ∧ places.Pairwise (· < ·) ∧
        ((Pool.new 2 0 flagRows false).run cellBatch cancelledMoves).results.map some =
          (places.map fun i => flagRows[i]?.map fun r => (cellBatch.evaluate r).1) := by
  obtain ⟨_, _, _, hend⟩ := Pool.results_run_new cellBatch 2 0 flagRows false cancelledMoves
  obtain ⟨places, hperm, hpairwise, hresults, _⟩ := hend rfl
  exact ⟨rfl, places, hperm, hpairwise, hresults⟩

end CellExpr
