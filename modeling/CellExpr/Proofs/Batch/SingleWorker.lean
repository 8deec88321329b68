import CellExpr.Proofs.Batch.Results

/-!
# A single worker

One worker does the rows of a batch in order, whatever the length of the chunks (`Pool.OneByOne`). Once the batch is cancelled no row
is begun any more, and rows that were begun are finished (`begun_run_of_cancelled`, which holds of any number of workers). So a single
worker comes to the same results as a batch that evaluates its rows one after the other, if both are cancelled while the same row is
evaluated (`Batch.results_run_in_order`).
-/

namespace CellExpr

/-- Whether a worker is about to evaluate a row, whatever happens. -/
def Worker.isEvaluating : Worker → Bool
  | .evaluating _ => true
  | _ => false

/-- The place of the row that a worker has begun and not yet handed in. -/
def Worker.begun? : Worker → Option Nat
  | .evaluating job | .sending job _ => some job.next
  | _ => none

/-- If so many rows are done, from the first one on, the worker is about the next row, or about the last one that is done. -/
def Worker.Stands (count : Nat) : Worker → Prop
  | .evaluating job => job.next = count
  | .sending job _ => job.next + 1 = count
  | _ => True

variable {b : Batch}

namespace Pool

variable {p p' : Pool} {m : Move} {place : Option Nat} {rows : List (Row Value)} {length count : Nat} {done : List Nat}

/-! ## Rows that are begun -/

/-- The number of workers that are about to evaluate a row. -/
def evaluating (p : Pool) : Nat := p.workers.countP Worker.isEvaluating

theorem evaluating_of_isDone (h : p.isDone = true) : p.evaluating = 0 := by
  refine List.countP_eq_zero.2 fun w hw => ?_
  have hidle := List.all_eq_true.1 (Bool.and_eq_true_iff.1 h).2 w hw
  cases w with
  | idle => exact Bool.false_ne_true
  | _ => cases hidle

theorem Replaces.exists_countP {workers workers' : List Worker} {w w' : Worker} (h : Replaces workers workers' w w') :
    ∃ rest, workers.countP Worker.isEvaluating = rest + w.isEvaluating.toNat ∧
      workers'.countP Worker.isEvaluating = rest + w'.isEvaluating.toNat := by
  obtain ⟨others, hbefore, hafter⟩ := h
  have hcons (w : Worker) :
      (w :: others).countP Worker.isEvaluating = others.countP Worker.isEvaluating + w.isEvaluating.toNat := by
    rw [List.countP_cons]
    cases w.isEvaluating <;> rfl
  exact ⟨_, (hbefore.countP_eq _).trans (hcons w), (hafter.countP_eq _).trans (hcons w')⟩

/-- In a batch that is cancelled no move begins a row. -/
theorem Step.begun_of_cancelled (hstep : Step b p m place p') (haccount : Account b rows length done p)
    (h : p.cancelled = true) : p'.cancelled = true ∧ place.toList.length + p'.evaluating = p.evaluating := by
  cases hstep with
  | cancel => exact ⟨rfl, Nat.zero_add _⟩
  | stay _ => exact ⟨h, Nat.zero_add _⟩
  | take _ hworkers | leave _ hworkers | send hworkers =>
    obtain ⟨rest, hbefore, hafter⟩ := hworkers.exists_countP
    refine ⟨h, ?_⟩
    rw [evaluating, evaluating, hbefore, hafter]
    exact Nat.zero_add _
  | goOn _ hrunning _ =>
    rw [h] at hrunning
    cases hrunning
  | @evaluate number job row workers _ hworkers =>
    obtain ⟨rest, hbefore, hafter⟩ := hworkers.exists_countP
    refine ⟨by rw [h, Bool.true_or], ?_⟩
    rw [evaluating, evaluating, hbefore, hafter]
    exact Nat.add_comm 1 rest
  | miss hrow hworkers =>
    obtain ⟨_, hlt⟩ := haccount.exists_row hworkers.mem
    rw [haccount.rows_eq, List.getElem?_eq_getElem hlt] at hrow
    cases hrow

/-- After a batch was cancelled those rows are evaluated that were begun before. -/
theorem begun_run_of_cancelled (haccount : Account b rows length done p) (h : p.cancelled = true) (moves : List Move) :
    (p.evaluations b moves).length + (p.run b moves).evaluating = p.evaluating := by
  induction moves generalizing p done with
  | nil => exact Nat.zero_add _
  | cons m moves ih =>
    have hstep := step_step b p m
    obtain ⟨hcancelled, hbegun⟩ := hstep.begun_of_cancelled haccount h
    have hrest := ih (haccount.step hstep) hcancelled
    rw [evaluations, List.length_append, run_cons]
    omega

/-- A batch that comes to be cancelled is cancelled by one of the moves. -/
theorem exists_first_cancel (h : p.cancelled = false) {moves : List Move} (hrun : (p.run b moves).cancelled = true) :
    ∃ before m after, moves = before ++ m :: after ∧ (p.run b before).cancelled = false ∧
      ((p.run b before).step b m).cancelled = true := by
  induction moves generalizing p with
  | nil =>
    rw [show p.run b [] = p from rfl, h] at hrun
    cases hrun
  | cons m moves ih =>
    cases hstep : (p.step b m).cancelled with
    | true => exact ⟨[], m, moves, rfl, h, hstep⟩
    | false =>
      obtain ⟨before, m', after, rfl, hbefore, hafter⟩ := ih hstep hrun
      exact ⟨m :: before, m', after, rfl, hbefore, hafter⟩

/-- A worker cancels the batch by evaluating a row that does. -/
theorem Step.cancels {number : Nat} (hstep : Step b p (.worker number) place p') (h : p.cancelled = false)
    (h' : p'.cancelled = true) :
    ∃ i r, place = some i ∧ p.rows[i]? = some r ∧ (b.evaluate r).2 = true ∧ p'.evaluating + 1 = p.evaluating := by
  cases hstep with
  | evaluate hrow hworkers =>
    obtain ⟨rest, hbefore, hafter⟩ := hworkers.exists_countP
    refine ⟨_, _, rfl, hrow, by simpa [h] using h', ?_⟩
    rw [evaluating, evaluating, hbefore, hafter]
    rfl
  | stay _ | take _ _ | goOn _ _ _ | leave _ _ | miss _ _ | send _ =>
    rw [h] at h'
    cases h'

/-! ## Rows in order -/

theorem Replaces.eq_single {workers : List Worker} {w v v' : Worker} (h : Replaces [w] workers v v') :
    w = v ∧ workers = [v'] := by
  obtain ⟨others, hbefore, hafter⟩ := h
  obtain ⟨rfl, rfl⟩ := List.cons.inj (List.singleton_perm.1 hbefore).symm
  exact ⟨rfl, List.perm_singleton.1 hafter⟩

theorem left_of_single {w : Worker} (h : p.workers = [w]) : p.left = w.left ++ p.waiting.flatMap Chunk.places := by
  rw [left, h, List.flatMap_singleton]

/-- The account of a pool with one worker: so many rows are done, from the first one on, and unless the batch is cancelled all others
are left, in order. -/
structure OneByOne (b : Batch) (rows : List (Row Value)) (length count : Nat) (p : Pool) : Prop
    extends Account b rows length (List.range count) p where
  worker : ∃ w, p.workers = [w] ∧ w.Stands count
  left_eq : p.cancelled = false → p.left = List.range' count (rows.length - count)

theorem oneByOne_new {threads : Nat} (hthreads : threads ≤ 1) (b : Batch) (chunkSize : Nat) (rows : List (Row Value))
    (cancelled : Bool) : OneByOne b rows (max chunkSize 1) 0 (new threads chunkSize rows cancelled) := by
  have hone : max threads 1 = 1 := by omega
  have hworkers : (new threads chunkSize rows cancelled).workers = [.idle] := by rw [new, hone]; rfl
  refine ⟨account_new b threads chunkSize rows cancelled, ⟨.idle, hworkers, trivial⟩, fun _ => ?_⟩
  rw [left_of_single hworkers]
  exact (Chunk.flatMap_places_cut (by omega)).trans List.range_eq_range'

namespace OneByOne

theorem evaluating_le_one (h : OneByOne b rows length count p) : p.evaluating ≤ 1 := by
  obtain ⟨w, hw, _⟩ := h.worker
  exact List.countP_le_length.trans (Nat.le_of_eq (by rw [hw]; rfl))

/-- A move of the worker that evaluates nothing. -/
theorem of_quiet (h : OneByOne b rows length count p) (haccount : Account b rows length (List.range count) p')
    {w w' : Worker} (hworkers : Replaces p.workers p'.workers w w') (hstands : w'.Stands count)
    (hcancelled : p'.cancelled = p.cancelled)
    (hleft : p.cancelled = false →
      w'.left ++ p'.waiting.flatMap Chunk.places = w.left ++ p.waiting.flatMap Chunk.places) :
    OneByOne b rows length count p' := by
  obtain ⟨v, hv, _⟩ := h.worker
  rw [hv] at hworkers
  obtain ⟨rfl, hw'⟩ := hworkers.eq_single
  refine ⟨haccount, ⟨w', hw', hstands⟩, fun hrunning => ?_⟩
  rw [hcancelled] at hrunning
  rw [left_of_single hw', hleft hrunning, ← left_of_single hv]
  exact h.left_eq hrunning

/-- Of the rows that are left the first one is next. -/
theorem next_eq (h : OneByOne b rows length count p) {job : Chunk} (hworkers : p.workers = [.polling job])
    (hrunning : p.cancelled = false) (hmore : job.next < job.stop) : job.next = count := by
  have hleft := h.left_eq hrunning
  rw [left_of_single hworkers, Worker.left, Chunk.places_of_lt hmore, List.cons_append] at hleft
  cases hrest : rows.length - count with
  | zero =>
    rw [hrest] at hleft
    cases hleft
  | succ rest =>
    rw [hrest, List.range'_succ] at hleft
    exact (List.cons.inj hleft).1

/-- The row that is evaluated is the next one, and is no longer left. -/
theorem evaluate (h : OneByOne b rows length count p) {job : Chunk} {row : Row Value} {workers : List Worker}
    (hrow : p.rows[job.next]? = some row)
    (hworkers : Replaces p.workers workers (.evaluating job) (.sending job (b.evaluate row).1)) :
    job.next = count ∧
      OneByOne b rows length (count + 1) { p with workers, cancelled := p.cancelled || (b.evaluate row).2 } := by
  obtain ⟨hmore, _⟩ := h.exists_row hworkers.mem
  have haccount := h.toAccount.evaluate hrow hworkers
  obtain ⟨v, hv, hstands⟩ := h.worker
  rw [hv] at hworkers
  obtain ⟨rfl, hafter⟩ := hworkers.eq_single
  have hnext : job.next = count := hstands
  rw [hnext, ← List.range_succ] at haccount
  refine ⟨hnext, haccount, ⟨_, hafter, congrArg (· + 1) hnext⟩, fun hrunning => ?_⟩
  have hlt : count < rows.length := haccount.lt_length_of_mem_done (List.mem_range.2 count.lt_succ_self)
  have hleft := h.left_eq (Bool.or_eq_false_iff.1 hrunning).1
  rw [left_of_single hv, Worker.left, Chunk.places_of_lt hmore, List.cons_append,
    show rows.length - count = rows.length - (count + 1) + 1 by omega, List.range'_succ] at hleft
  rw [left_of_single hafter]
  exact (List.cons.inj hleft).2

/-- Every move keeps the order, and evaluates the next row if it evaluates one. -/
theorem step (h : OneByOne b rows length count p) (hstep : Step b p m place p') :
    (∀ i, place = some i → i = count) ∧ OneByOne b rows length (count + place.toList.length) p' := by
  have haccount := h.toAccount.step hstep
  have hquiet : List.range count ++ (none : Option Nat).toList = List.range count := List.append_nil _
  cases hstep with
  | cancel =>
    rw [hquiet] at haccount
    exact ⟨nofun, haccount, h.worker, nofun⟩
  | stay _ => exact ⟨nofun, h⟩
  | take hwaiting hworkers =>
    rw [hquiet] at haccount
    refine ⟨nofun, h.of_quiet haccount hworkers trivial rfl fun _ => ?_⟩
    rw [hwaiting, List.flatMap_cons]
    rfl
  | goOn hmore hrunning hworkers =>
    rw [hquiet] at haccount
    refine ⟨nofun, h.of_quiet haccount hworkers ?_ rfl fun _ => rfl⟩
    obtain ⟨v, hv, _⟩ := h.worker
    rw [hv] at hworkers
    obtain ⟨rfl, _⟩ := hworkers.eq_single
    exact h.next_eq hv hrunning hmore
  | leave hend hworkers =>
    rw [hquiet] at haccount
    refine ⟨nofun, h.of_quiet haccount hworkers trivial rfl fun hrunning => ?_⟩
    rw [Worker.left, Worker.left, Chunk.places_of_not_lt (hend hrunning)]
  | evaluate hrow hworkers =>
    obtain ⟨hnext, hafter⟩ := h.evaluate hrow hworkers
    exact ⟨fun i hi => Option.some.inj hi ▸ hnext, hafter⟩
  | miss hrow hworkers =>
    obtain ⟨_, hlt⟩ := h.exists_row hworkers.mem
    rw [h.rows_eq, List.getElem?_eq_getElem hlt] at hrow
    cases hrow
  | send hworkers =>
    rw [hquiet] at haccount
    exact ⟨nofun, h.of_quiet haccount hworkers trivial rfl fun _ => rfl⟩

/-- Any moves keep the order. -/
theorem run (h : OneByOne b rows length count p) (moves : List Move) :
    OneByOne b rows length (count + (p.evaluations b moves).length) (p.run b moves) := by
  induction moves generalizing p count with
  | nil => exact h
  | cons m moves ih =>
    rw [evaluations, List.length_append, run_cons, ← Nat.add_assoc]
    exact ih (h.step (step_step b p m)).2

/-! ## The end -/

theorem results_eq (h : OneByOne b rows length count p) (hdone : p.isDone = true) :
    p.results = (rows.take count).map fun r => (b.evaluate r).1 :=
  h.results_eq_take hdone (.refl _)

/-- If a move cancels the batch, those rows are done at the end that are done by then or begun. -/
theorem results_of_cancel (h : OneByOne b rows length count p) {after : List Move}
    (hcancels : (p.step b m).cancelled = true) (hdone : ((p.step b m).run b after).isDone = true) {total : Nat}
    (htotal : count + (p.evaluated? m).toList.length + (p.step b m).evaluating = total) :
    ((p.step b m).run b after).results = (rows.take total).map fun r => (b.evaluate r).1 := by
  have hnext := (h.step (step_step b p m)).2
  have hbegun := begun_run_of_cancelled hnext.toAccount hcancels after
  rw [evaluating_of_isDone hdone, Nat.add_zero] at hbegun
  rw [(hnext.run after).results_eq hdone, hbegun, htotal]

/-- If the worker cancels the batch, it does so by evaluating the next row, and this one is the last that is done. -/
theorem results_of_worker (h : OneByOne b rows length count p) {number : Nat} {after : List Move}
    (hrunning : p.cancelled = false) (hcancels : (p.step b (.worker number)).cancelled = true)
    (hdone : ((p.step b (.worker number)).run b after).isDone = true) :
    (∃ r, rows[count]? = some r ∧ (b.evaluate r).2 = true) ∧
      ((p.step b (.worker number)).run b after).results = (rows.take (count + 1)).map fun r => (b.evaluate r).1 := by
  have hstep := step_step b p (.worker number)
  obtain ⟨i, r, hplace, hrow, hr, hbegun⟩ := hstep.cancels hrunning hcancels
  obtain rfl := (h.step hstep).1 i hplace
  rw [h.rows_eq] at hrow
  refine ⟨⟨r, hrow, hr⟩, h.results_of_cancel hcancels hdone ?_⟩
  have hle := h.evaluating_le_one
  rw [hplace, Option.toList_some, List.length_singleton]
  omega

/-- If the batch is cancelled while a row is evaluated, this one is the last that is done. -/
theorem results_of_cancel_begun (h : OneByOne b rows length count p) {i : Nat} {after : List Move}
    (hbegun : ∃ w ∈ p.workers, w.begun? = some i) (hdone : ((p.step b .cancel).run b after).isDone = true) :
    i < rows.length ∧ i ≤ count ∧
      ((p.step b .cancel).run b after).results = (rows.take (i + 1)).map fun r => (b.evaluate r).1 := by
  obtain ⟨w, hw, hstands⟩ := h.worker
  obtain ⟨v, hv, hi⟩ := hbegun
  obtain rfl : v = w := List.mem_singleton.1 (hw ▸ hv)
  have hevaluating : (p.step b .cancel).evaluating = v.isEvaluating.toNat := by
    rw [evaluating, Pool.step, hw]
    cases v <;> rfl
  have hresults := h.results_of_cancel rfl hdone rfl
  rw [hevaluating] at hresults
  cases v with
  | idle | polling job => cases hi
  | evaluating job =>
    obtain rfl := Option.some.inj hi
    obtain rfl : job.next = count := hstands
    exact ⟨(h.exists_row (hw ▸ List.mem_cons_self)).2, Nat.le_refl _, hresults⟩
  | sending job result =>
    obtain rfl := Option.some.inj hi
    obtain rfl : job.next + 1 = count := hstands
    exact ⟨h.lt_length_of_mem_done (List.mem_range.2 job.next.lt_succ_self), job.next.le_succ, hresults⟩

end OneByOne

/-! ## The same as in order -/

variable {threads chunkSize : Nat} {cancelled : Bool}

/-- If only bodies of functions cancel the batch, the results are those of the rows in order. -/
theorem results_run_workers (hthreads : threads ≤ 1) (numbers : List Nat)
    (hdone : ((new threads chunkSize rows cancelled).run b (numbers.map .worker)).isDone = true) :
    ((new threads chunkSize rows cancelled).run b (numbers.map .worker)).results =
      (b.run (fun (state : Unit) _ => (state, false)) () cancelled rows).results := by
  have hstart := oneByOne_new hthreads b chunkSize rows cancelled
  cases cancelled with
  | true =>
    have hbegun := begun_run_of_cancelled hstart.toAccount rfl (numbers.map .worker)
    have hidle : (new threads chunkSize rows true).evaluating = 0 := by
      rw [evaluating, new, List.countP_replicate]
      rfl
    rw [(hstart.run _).results_eq hdone, Nat.eq_zero_of_add_eq_zero_right (hbegun.trans hidle), Batch.run_of_cancelled]
    rfl
  | false =>
    cases hcancelled : ((new threads chunkSize rows false).run b (numbers.map .worker)).cancelled with
    | false =>
      have hend := (hstart.run (numbers.map .worker)).toAccount
      rw [hend.results_eq_map hdone hcancelled,
        Batch.results_run_of_calm (fun _ _ => rfl) (hend.evaluate_calm hdone hcancelled)]
    | true =>
      obtain ⟨before, m, after, hmoves, hrunning, hcancels⟩ := exists_first_cancel rfl hcancelled
      obtain ⟨number, _, rfl⟩ := List.mem_map.1 (hmoves ▸ List.mem_append_right before List.mem_cons_self)
      rw [hmoves, run_append, run_cons] at hdone ⊢
      have hbefore := hstart.run before
      obtain ⟨⟨r, hrow, hr⟩, hresults⟩ := hbefore.results_of_worker hrunning hcancels hdone
      rw [hresults, Batch.results_run_of_first]
      · rw [Batch.cancelsAt_of_calm (fun _ _ => rfl) hrow, hr]
      · intro i hi
        have hi' := List.getElem?_eq_getElem (Nat.lt_trans hi (List.getElem?_eq_some_iff.1 hrow).1)
        rw [Batch.cancelsAt_of_calm (fun _ _ => rfl) hi']
        exact hbefore.calm hrunning i (List.mem_range.2 hi) _ hi'

/-- If the batch is cancelled while a row is evaluated, the results are those of the rows in order for an observer who cancels it at
this row. -/
theorem results_run_cancel (hthreads : threads ≤ 1) {before after : List Move} {i : Nat}
    (hrunning : ((new threads chunkSize rows cancelled).run b before).cancelled = false)
    (hbegun : ∃ w ∈ ((new threads chunkSize rows cancelled).run b before).workers, w.begun? = some i)
    (hdone : ((new threads chunkSize rows cancelled).run b (before ++ .cancel :: after)).isDone = true) :
    ((new threads chunkSize rows cancelled).run b (before ++ .cancel :: after)).results =
      (b.run (fun n _ => (n + 1, decide (n = i))) 0 false rows).results := by
  have hbefore := (oneByOne_new hthreads b chunkSize rows cancelled).run before
  rw [run_append, run_cons] at hdone ⊢
  obtain ⟨hlt, hle, hresults⟩ := hbefore.results_of_cancel_begun hbegun hdone
  rw [hresults, Batch.results_run_of_first]
  · rw [Batch.cancelsAt_count (fun n => decide (n = i)) (List.getElem?_eq_getElem hlt), decide_eq_true rfl, Bool.or_true]
  · intro j hj
    have hj' := List.getElem?_eq_getElem (Nat.lt_trans hj hlt)
    rw [Batch.cancelsAt_count (fun n => decide (n = i)) hj', decide_eq_false (Nat.ne_of_lt hj), Bool.or_false]
    exact hbefore.calm hrunning j (List.mem_range.2 (by omega)) _ hj'

end Pool

/-- Rows are evaluated in order until the batch is cancelled: before the start, by a body that runs for a row, or by the observer to
whom its result is shown. The results are those of the rows up to and including the one at which the batch is first cancelled; none
if it was cancelled before the start, and all if it never is; each is what its row comes to by itself. The observer has been shown
each of them once, in order.

A single worker comes to the same, however long the chunks are and however its moves fall, if bodies of functions cancel the batch,
and also if it is cancelled for any other reason while a row is evaluated. -/
theorem Batch.results_run_in_order (b : Batch) (rows : List (Row Value)) (cancelled : Bool) :
    (∀ {σ : Type} (observe : σ → RowResult → σ × Bool) (state : σ),
      let p := b.run observe state cancelled rows
      (cancelled = true → p.results = []) ∧
      (cancelled = false → (∀ i, b.cancelsAt observe state rows i = false) →
        p.results = rows.map fun r => ⟨r.index, (b.expr.eval b.registry (.ofCell r b.column)).value⟩) ∧
      (cancelled = false → ∀ i, b.cancelsAt observe state rows i = true →
        (∀ j < i, b.cancelsAt observe state rows j = false) →
        p.results = (rows.take (i + 1)).map fun r => ⟨r.index, (b.expr.eval b.registry (.ofCell r b.column)).value⟩) ∧
      p.state = p.results.foldl (fun state result => (observe state result).1) state) ∧
    ∀ threads ≤ 1, ∀ chunkSize,
      let start := Pool.new threads chunkSize rows cancelled
      let inOrder := (b.run (fun (state : Unit) _ => (state, false)) () cancelled rows).results
      (b.runParallel threads chunkSize cancelled rows).results = inOrder ∧
      (∀ numbers : List Nat, (start.run b (numbers.map .worker)).isDone = true →
        (start.run b (numbers.map .worker)).results = inOrder) ∧
      ∀ before after i, (start.run b before).cancelled = false →
        (∃ w ∈ (start.run b before).workers, w.begun? = some i) →
        (start.run b (before ++ .cancel :: after)).isDone = true →
        (start.run b (before ++ .cancel :: after)).results =
          (b.run (fun n _ => (n + 1, decide (n = i))) 0 false rows).results := by
  refine ⟨fun observe state => ⟨?_, ?_, ?_, state_run cancelled⟩, fun threads hthreads chunkSize => ⟨?_, ?_, ?_⟩⟩
  · rintro rfl
    rw [run_of_cancelled]
  · rintro rfl hnever
    exact results_run_of_never hnever
  · rintro rfl i hi hbefore
    exact results_run_of_first hi hbefore
  · obtain ⟨numbers, hnumbers, hdone⟩ := Pool.exists_runParallel_eq_run_workers b threads chunkSize cancelled rows
    rw [hnumbers]
    exact Pool.results_run_workers hthreads numbers hdone
  · exact fun numbers hdone => Pool.results_run_workers hthreads numbers hdone
  · exact fun before after i hrunning hbegun hdone => Pool.results_run_cancel hthreads hrunning hbegun hdone

/-- The value of a cell, looked at by a function. -/
def watchedBatch : Batch where
  registry := ⟨[(Function.new "watch" fun args _ => .ok (.array args)).taking [.any]]⟩
  expr := .call "watch" [.var "value"]
  column := "flag"
  cancels run := run.args matches [.boolean false]

/-- The second row cancels the batch by its cell. Cancelled from outside while the first one is evaluated, the batch ends there, and
without the second row it comes to its end. -/
theorem Batch.results_run_in_order_watched :
    let calm : Unit → RowResult → Unit × Bool := fun state _ => (state, false)
    let start := Pool.new 1 2 flagRows false
    let after : List Move := List.replicate 5 (.worker 0)
    let result (r : Row Value) : RowResult :=
      ⟨r.index, (watchedBatch.expr.eval watchedBatch.registry (.ofCell r watchedBatch.column)).value⟩
    (watchedBatch.run calm () true flagRows).results = [] ∧
      (watchedBatch.run calm () false (flagRows.take 1)).results = (flagRows.take 1).map result ∧
      (watchedBatch.run calm () false flagRows).results = (flagRows.take 2).map result ∧
      (watchedBatch.runParallel 1 0 false flagRows).results = (flagRows.take 2).map result ∧
      (start.run watchedBatch ((List.replicate 11 0).map .worker)).results = (flagRows.take 2).map result ∧
      (start.run watchedBatch ([.worker 0, .worker 0] ++ .cancel :: after)).results =
        (watchedBatch.run (fun n _ => (n + 1, decide (n = 0))) 0 false flagRows).results := by
  intro calm start after result
  obtain ⟨hcancelled, _⟩ := results_run_in_order watchedBatch flagRows true
  obtain ⟨hnever, _⟩ := results_run_in_order watchedBatch (flagRows.take 1) false
  obtain ⟨hfirst, hone⟩ := results_run_in_order watchedBatch flagRows false
  have hsecond := (hfirst calm ()).2.2.1 rfl 1 rfl fun j hj => by
    obtain rfl : j = 0 := by omega
    rfl
  refine ⟨(hcancelled calm ()).1 rfl, (hnever calm ()).2.1 rfl fun i => ?_, hsecond, ?_, ?_, ?_⟩
  · cases i <;> rfl
  · exact (hone 1 (Nat.le_refl 1) 0).1.trans hsecond
  · exact ((hone 1 (Nat.le_refl 1) 2).2.1 (List.replicate 11 0) rfl).trans hsecond
  · exact (hone 1 (Nat.le_refl 1) 2).2.2 _ after 0 rfl ⟨_, List.mem_cons_self, rfl⟩ rfl

end CellExpr
