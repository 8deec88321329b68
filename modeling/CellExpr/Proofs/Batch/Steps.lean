import CellExpr.Batch.Pool
import Mathlib.Algebra.Ring.Nat
import Mathlib.Data.List.Perm.Basic
import Mathlib.Data.List.Sort

/-!
# Moves of a pool

Rows cut into chunks of any length are all there, each once and in order (`flatMap_places_cut`). The chunk of a place is its
quotient by the length, so places before a chunk are in other chunks. A condition that goes down within a chunk holds of its
first places (`filter_prefix_places`).

What a move can do (`Pool.Step`): one worker goes from one state to another, and with it a chunk is taken, a row is evaluated
or a result handed in. Everything that holds of all runs is read off these rules.

What is left to do shrinks with every move that does something, and a move of a worker does something unless the worker is
idle and no chunk waits (`Step.work_lt_or_stays`). So every run can be brought to its end, whatever has happened, and the
workers moving in turn bring it there (`isDone_rounds`).
-/

namespace CellExpr.Chunk

/-- The places of the rows in a chunk. -/
def places (c : Chunk) : List Nat := List.range' c.next (c.stop - c.next)

/-- The chunk without its first row. -/
def tail (c : Chunk) : Chunk := { c with next := c.next + 1 }

variable {c : Chunk} {count length i : Nat}

theorem mem_places : i ∈ c.places ↔ c.next ≤ i ∧ i < c.stop := by
  rw [places, List.mem_range'_1]
  omega

theorem places_of_lt (h : c.next < c.stop) : c.places = c.next :: c.tail.places := by
  have hlength : c.stop - c.next = c.stop - (c.next + 1) + 1 := by omega
  rw [places, hlength, List.range'_succ]
  rfl

theorem places_of_not_lt (h : ¬c.next < c.stop) : c.places = [] := by
  have hlength : c.stop - c.next = 0 := by omega
  rw [places, hlength, List.range'_zero]

theorem pairwise_places (c : Chunk) : c.places.Pairwise (· < ·) := List.pairwise_lt_range'

/-! ## Cutting -/

/-- The first chunks have the first places. -/
theorem flatMap_places_range (count length k : Nat) :
    ((List.range k).map fun i => (⟨i * length, min (i * length + length) count⟩ : Chunk)).flatMap places =
      List.range (min (k * length) count) := by
  induction k with
  | zero => rw [Nat.zero_mul, Nat.zero_min]; rfl
  | succ k ih =>
    rw [List.range_succ, List.map_append, List.flatMap_append, ih, List.map_singleton, List.flatMap_singleton, places,
      Nat.succ_mul]
    by_cases hfull : k * length ≤ count
    · rw [Nat.min_eq_left hfull, List.range_eq_range', List.range_eq_range']
      have happend := @List.range'_append 0 (k * length) (min (k * length + length) count - k * length) 1
      rw [Nat.zero_add, Nat.one_mul] at happend
      rw [happend]
      congr 1
      omega
    · have hempty : min (k * length + length) count - k * length = 0 := by omega
      rw [hempty, List.range'_zero, List.append_nil]
      congr 1
      omega

/-- Cutting leaves out no place and repeats none, whatever the length. -/
theorem flatMap_places_cut (h : 0 < length) : (cut count length).flatMap places = List.range count := by
  have hceil : count + length - 1 < length * ((count + length - 1) / length + 1) := Nat.lt_mul_div_succ _ h
  rw [Nat.mul_succ, Nat.mul_comm] at hceil
  rw [cut, flatMap_places_range, Nat.min_eq_right (by omega)]

/-- The chunk of a place is its quotient by the length; the places before a chunk are in other chunks. -/
theorem div_lt_of_mem_cut (hc : c ∈ cut count length) (hi : i ∈ c.places) {j : Nat} (hj : j < c.next) :
    j / length < i / length := by
  obtain ⟨k, _, rfl⟩ := List.mem_map.1 hc
  obtain ⟨hnext, hstop⟩ := mem_places.1 hi
  have hj' : j < k * length := hj
  have hlength : 0 < length := Nat.pos_of_ne_zero fun h => by simp [h] at hj'
  have hdiv : k ≤ i / length := (Nat.le_div_iff_mul_le hlength).2 hnext
  exact Nat.lt_of_lt_of_le (Nat.div_lt_of_lt_mul (by rwa [Nat.mul_comm])) hdiv

theorem div_eq_of_mem_cut (hc : c ∈ cut count length) {j : Nat} (hi : i ∈ c.places) (hj : j ∈ c.places) :
    i / length = j / length := by
  obtain ⟨k, _, rfl⟩ := List.mem_map.1 hc
  have hquotient : ∀ i ∈ places ⟨k * length, min (k * length + length) count⟩, i / length = k := by
    intro i hi
    obtain ⟨hnext, hstop⟩ := mem_places.1 hi
    simp only at hnext hstop
    exact Nat.div_eq_of_lt_le hnext (by rw [Nat.succ_mul]; omega)
  rw [hquotient i hi, hquotient j hj]

/-! ## First places -/

/-- What goes down within an increasing list holds of its first elements. -/
theorem filter_prefix_of_pairwise {l : List Nat} (hl : l.Pairwise (· < ·)) {P : Nat → Bool}
    (h : ∀ i ∈ l, P i = true → ∀ j ∈ l, j < i → P j = true) : l.filter P <+: l := by
  induction l with
  | nil => exact List.prefix_refl []
  | cons first rest ih =>
    obtain ⟨hfirst, hrest⟩ := List.pairwise_cons.1 hl
    by_cases hP : P first = true
    · rw [List.filter_cons_of_pos hP, List.prefix_cons_inj]
      exact ih hrest fun i hi hPi j hj hlt => h i (List.mem_cons_of_mem _ hi) hPi j (List.mem_cons_of_mem _ hj) hlt
    · have hnone : (first :: rest).filter P = [] := by
        refine List.filter_eq_nil_iff.2 fun i hi hPi => ?_
        rcases List.mem_cons.1 hi with rfl | hi
        · exact hP hPi
        · exact hP (h i (List.mem_cons_of_mem _ hi) hPi first List.mem_cons_self (hfirst i hi))
      rw [hnone]
      exact List.nil_prefix

/-- The places of a chunk among places that go down within the chunk are its first ones. -/
theorem filter_prefix_places {l : List Nat} (hl : l.Pairwise (· < ·))
    (h : ∀ i ∈ c.places, i ∈ l → ∀ j ∈ c.places, j < i → j ∈ l) : (l.filter (· ∈ c.places)) <+: c.places := by
  have hsame : l.filter (· ∈ c.places) = c.places.filter (· ∈ l) := by
    refine (hl.filter _).eq_of_mem_iff (c.pairwise_places.filter _) fun i => ?_
    rw [List.mem_filter, List.mem_filter, decide_eq_true_iff, decide_eq_true_iff]
    exact And.comm
  rw [hsame]
  refine filter_prefix_of_pairwise c.pairwise_places fun i hi hmem j hj hlt => ?_
  rw [decide_eq_true_iff] at hmem ⊢
  exact h i hi hmem j hj hlt

end CellExpr.Chunk

namespace CellExpr

/-- The moves that a worker still makes with its chunk, if it is not cancelled. -/
def Worker.work : Worker → Nat
  | .idle => 0
  | .polling job => 3 * (job.stop - job.next) + 1
  | .evaluating job => 3 * (job.stop - job.tail.next) + 3
  | .sending job _ => 3 * (job.stop - job.tail.next) + 2

namespace Pool

variable {b : Batch} {p p' : Pool} {m : Move} {place : Option Nat}

/-- One of the workers, which was in the state `w`, is in the state `w'`; the others are as they were. -/
def Replaces (workers workers' : List Worker) (w w' : Worker) : Prop :=
  ∃ others, workers.Perm (w :: others) ∧ workers'.Perm (w' :: others)

theorem replaces_set {workers : List Worker} {number : Nat} {w : Worker} (h : workers[number]? = some w) (w' : Worker) :
    Replaces workers (workers.set number w') w w' := by
  obtain ⟨hlt, rfl⟩ := List.getElem?_eq_some_iff.1 h
  exact ⟨workers.eraseIdx number, (List.getElem_cons_eraseIdx_perm hlt).symm, List.set_perm_cons_eraseIdx hlt w'⟩

/-- The place of the row that a move evaluates, if it evaluates one. -/
def evaluated? (p : Pool) : Move → Option Nat
  | .worker number =>
    match p.workers[number]? with
    | some (.evaluating job) => if job.next < p.rows.length then some job.next else none
    | _ => none
  | .cancel => none

/-- `Step b p m place p'`: the move `m` of a pool leads to `p'` and evaluates the row at that place, if any. -/
inductive Step (b : Batch) (p : Pool) : Move → Option Nat → Pool → Prop where
  | cancel : Step b p .cancel none { p with cancelled := true }
  /-- The worker does not exist, or there is nothing for it to do. -/
  | stay {number : Nat} (h : ∀ w, p.workers[number]? = some w → w = .idle ∧ p.waiting = []) :
      Step b p (.worker number) none p
  | take {number : Nat} {job : Chunk} {rest : List Chunk} {workers : List Worker} (hwaiting : p.waiting = job :: rest)
      (hworkers : Replaces p.workers workers .idle (.polling job)) :
      Step b p (.worker number) none { p with waiting := rest, workers }
  | goOn {number : Nat} {job : Chunk} {workers : List Worker} (hmore : job.next < job.stop) (hrunning : p.cancelled = false)
      (hworkers : Replaces p.workers workers (.polling job) (.evaluating job)) :
      Step b p (.worker number) none { p with workers }
  | leave {number : Nat} {job : Chunk} {workers : List Worker} (hend : p.cancelled = false → ¬job.next < job.stop)
      (hworkers : Replaces p.workers workers (.polling job) .idle) : Step b p (.worker number) none { p with workers }
  | evaluate {number : Nat} {job : Chunk} {row : Row Value} {workers : List Worker} (hrow : p.rows[job.next]? = some row)
      (hworkers : Replaces p.workers workers (.evaluating job) (.sending job (b.evaluate row).1)) :
      Step b p (.worker number) (some job.next) { p with workers, cancelled := p.cancelled || (b.evaluate row).2 }
  /-- There is no row where the worker looks for one. -/
  | miss {number : Nat} {job : Chunk} {workers : List Worker} (hrow : p.rows[job.next]? = none)
      (hworkers : Replaces p.workers workers (.evaluating job) .idle) : Step b p (.worker number) none { p with workers }
  | send {number : Nat} {job : Chunk} {result : RowResult} {workers : List Worker}
      (hworkers : Replaces p.workers workers (.sending job result) (.polling job.tail)) :
      Step b p (.worker number) none { p with workers, sent := p.sent ++ [(job.next, result)] }

/-- These are the only things that a move can do. -/
theorem step_step (b : Batch) (p : Pool) (m : Move) : Step b p m (p.evaluated? m) (p.step b m) := by
  cases m with
  | cancel => exact .cancel
  | worker number =>
    cases hworker : p.workers[number]? with
    | none =>
      simp only [step, evaluated?, hworker]
      exact .stay fun w hw => by rw [hworker] at hw; cases hw
    | some w =>
      have hreplaces := replaces_set hworker
      simp only [step, evaluated?, hworker]
      cases w with
      | idle =>
        simp only [stepWorker]
        cases hwaiting : p.waiting with
        | nil =>
          refine .stay fun w hw => ⟨?_, hwaiting⟩
          exact Option.some.inj (hw.symm.trans hworker)
        | cons job rest => exact .take hwaiting (hreplaces _)
      | polling job =>
        simp only [stepWorker]
        split
        · rename_i hgo
          rw [Bool.and_eq_true, decide_eq_true_iff, Bool.not_eq_true'] at hgo
          exact .goOn hgo.1 hgo.2 (hreplaces _)
        · rename_i hstop
          refine .leave (fun hrunning hmore => hstop ?_) (hreplaces _)
          rw [Bool.and_eq_true, decide_eq_true_iff, Bool.not_eq_true']
          exact ⟨hmore, hrunning⟩
      | evaluating job =>
        simp only [stepWorker]
        cases hrow : p.rows[job.next]? with
        | none =>
          have hout : ¬job.next < p.rows.length := Nat.not_lt.2 (List.getElem?_eq_none_iff.1 hrow)
          rw [if_neg hout]
          exact .miss hrow (hreplaces _)
        | some row =>
          have hin : job.next < p.rows.length := (List.getElem?_eq_some_iff.1 hrow).1
          rw [if_pos hin]
          exact .evaluate hrow (hreplaces _)
      | sending job result =>
        simp only [stepWorker]
        exact .send (hreplaces _)

/-! ## Runs -/

theorem run_cons (m : Move) (moves : List Move) : p.run b (m :: moves) = (p.step b m).run b moves := rfl

theorem run_append (moves more : List Move) : p.run b (moves ++ more) = (p.run b moves).run b more :=
  List.foldl_append

theorem Step.length_workers (h : Step b p m place p') : p'.workers.length = p.workers.length := by
  cases h with
  | cancel | stay => rfl
  | take _ hworkers | goOn _ _ hworkers | leave _ hworkers | evaluate _ hworkers | miss _ hworkers | send hworkers =>
    obtain ⟨others, hbefore, hafter⟩ := hworkers
    exact hafter.length_eq.trans hbefore.length_eq.symm

theorem length_workers_run (moves : List Move) : (p.run b moves).workers.length = p.workers.length := by
  induction moves generalizing p with
  | nil => rfl
  | cons m moves ih => rw [run_cons, ih, (step_step b p m).length_workers]

/-- There is at least one worker. -/
theorem workers_run_new_ne_nil (b : Batch) (threads chunkSize : Nat) (rows : List (Row Value)) (cancelled : Bool)
    (moves : List Move) : ((new threads chunkSize rows cancelled).run b moves).workers ≠ [] := by
  have hlength : ((new threads chunkSize rows cancelled).run b moves).workers.length = max threads 1 := by
    rw [length_workers_run, new, List.length_replicate]
  exact List.ne_nil_of_length_pos (by omega)

/-! ## Coming to an end -/

/-- The moves that are left, if the batch is not cancelled. -/
def work (p : Pool) : Nat := (p.workers.map Worker.work).sum + (p.waiting.map cost).sum

theorem Replaces.exists_sum_work {workers workers' : List Worker} {w w' : Worker} (h : Replaces workers workers' w w') :
    ∃ rest, (workers.map Worker.work).sum = w.work + rest ∧ (workers'.map Worker.work).sum = w'.work + rest := by
  obtain ⟨others, hbefore, hafter⟩ := h
  refine ⟨(others.map Worker.work).sum, ?_, ?_⟩
  · rw [(hbefore.map _).sum_nat, List.map_cons, List.sum_cons]
  · rw [(hafter.map _).sum_nat, List.map_cons, List.sum_cons]

/-- A move of a worker leaves less to do, unless there is nothing for the worker to do. -/
theorem Step.work_lt_or_stays {number : Nat} (h : Step b p (.worker number) place p') :
    p'.work < p.work ∨ p' = p ∧ ∀ w, p.workers[number]? = some w → w = .idle ∧ p.waiting = [] := by
  cases h with
  | stay h => exact .inr ⟨rfl, h⟩
  | take hwaiting hworkers =>
    obtain ⟨rest, hbefore, hafter⟩ := hworkers.exists_sum_work
    left
    simp only [work, hwaiting, hbefore, hafter, Worker.work, cost, List.map_cons, List.sum_cons]
    omega
  | goOn _ _ hworkers | leave _ hworkers | evaluate _ hworkers | miss _ hworkers | send hworkers =>
    obtain ⟨rest, hbefore, hafter⟩ := hworkers.exists_sum_work
    left
    simp only [work, hbefore, hafter, Worker.work, Chunk.tail]
    omega

theorem Step.work_le (h : Step b p m place p') : p'.work ≤ p.work := by
  cases m with
  | cancel =>
    cases h with
    | cancel => exact Nat.le_refl _
  | worker number =>
    rcases h.work_lt_or_stays with hlt | ⟨rfl, _⟩
    · exact Nat.le_of_lt hlt
    · exact Nat.le_refl _

theorem work_run_le (moves : List Move) : (p.run b moves).work ≤ p.work := by
  induction moves generalizing p with
  | nil => exact Nat.le_refl _
  | cons m moves ih => exact Nat.le_trans ih (step_step b p m).work_le

/-- Moves of workers leave less to do, unless there is nothing for any of them to do. -/
theorem work_run_workers_lt_or_stays (numbers : List Nat) :
    (p.run b (numbers.map .worker)).work < p.work ∨
      ∀ number ∈ numbers, ∀ w, p.workers[number]? = some w → w = .idle ∧ p.waiting = [] := by
  induction numbers with
  | nil => exact .inr nofun
  | cons number numbers ih =>
    rw [List.map_cons, run_cons]
    rcases (step_step b p (.worker number)).work_lt_or_stays with hlt | ⟨hstays, hnumber⟩
    · exact .inl (Nat.lt_of_le_of_lt (work_run_le _) hlt)
    · rw [hstays]
      rcases ih with hlt | hnumbers
      · exact .inl hlt
      · exact .inr (List.forall_mem_cons.2 ⟨hnumber, hnumbers⟩)

/-- A round does something if something is left to do. -/
theorem work_round_lt (hworkers : p.workers ≠ []) (hdone : p.isDone = false) : (p.run b p.round).work < p.work := by
  rcases work_run_workers_lt_or_stays (b := b) (List.range p.workers.length) with hlt | hstays
  · exact hlt
  · have hidle : ∀ w ∈ p.workers, w = .idle ∧ p.waiting = [] := by
      intro w hw
      obtain ⟨number, hnumber⟩ := List.getElem?_of_mem hw
      exact hstays number (List.mem_range.2 (List.getElem?_eq_some_iff.1 hnumber).1) w hnumber
    obtain ⟨w, hw⟩ := List.exists_mem_of_ne_nil _ hworkers
    have hall : p.isDone = true := by
      rw [isDone, (hidle w hw).2, List.isEmpty_nil, Bool.true_and, List.all_eq_true]
      intro w hw
      rw [(hidle w hw).1]
      rfl
    rw [hall] at hdone
    cases hdone

/-- Enough rounds bring a pool to its end. -/
theorem isDone_rounds (hworkers : p.workers ≠ []) {count : Nat} (hcount : p.work ≤ count) :
    (p.rounds b count).isDone = true := by
  induction count generalizing p with
  | zero =>
    rw [rounds]
    by_contra hdone
    have hlt := work_round_lt (b := b) hworkers (Bool.eq_false_iff.2 hdone)
    omega
  | succ count ih =>
    rw [rounds]
    split
    · assumption
    · rename_i hdone
      have hlt := work_round_lt (b := b) hworkers (Bool.eq_false_iff.2 hdone)
      refine ih (List.ne_nil_of_length_pos ?_) (by omega)
      rw [length_workers_run]
      exact List.length_pos_iff.2 hworkers

/-- Rounds are a run of moves of workers. -/
theorem exists_rounds_eq_run (b : Batch) (p : Pool) (count : Nat) :
    ∃ numbers : List Nat, p.rounds b count = p.run b (numbers.map .worker) := by
  induction count generalizing p with
  | zero => exact ⟨[], rfl⟩
  | succ count ih =>
    rw [rounds]
    split
    · exact ⟨[], rfl⟩
    · obtain ⟨numbers, hnumbers⟩ := ih (p.run b p.round)
      exact ⟨List.range p.workers.length ++ numbers, by rw [hnumbers, List.map_append, run_append]; rfl⟩

/-- Whatever has happened, a pool can be brought to its end. -/
theorem exists_run_isDone (hworkers : p.workers ≠ []) : ∃ more, (p.run b more).isDone = true := by
  obtain ⟨numbers, hnumbers⟩ := exists_rounds_eq_run b p p.work
  exact ⟨numbers.map .worker, by rw [← hnumbers]; exact isDone_rounds hworkers (Nat.le_refl _)⟩

theorem work_new (threads chunkSize : Nat) (rows : List (Row Value)) (cancelled : Bool) :
    (new threads chunkSize rows cancelled).work =
      (new threads chunkSize rows cancelled).waiting.foldl (fun total job => total + cost job) 0 := by
  have hidle : ((List.replicate (max threads 1) Worker.idle).map Worker.work).sum = 0 := by
    rw [List.map_replicate, List.sum_replicate_nat]
    exact Nat.mul_zero _
  rw [work, new, hidle, Nat.zero_add, List.sum_eq_foldl, List.foldl_map]

/-- Workers that move in turn come to the end. -/
theorem exists_runParallel_eq_run_workers (b : Batch) (threads chunkSize : Nat) (cancelled : Bool)
    (rows : List (Row Value)) :
    ∃ numbers : List Nat,
      b.runParallel threads chunkSize cancelled rows =
        (new threads chunkSize rows cancelled).run b (numbers.map .worker) ∧
      ((new threads chunkSize rows cancelled).run b (numbers.map .worker)).isDone = true := by
  obtain ⟨numbers, hnumbers⟩ := exists_rounds_eq_run b (new threads chunkSize rows cancelled)
    ((new threads chunkSize rows cancelled).waiting.foldl (fun total job => total + cost job) 0)
  refine ⟨numbers, hnumbers, ?_⟩
  rw [← hnumbers]
  exact isDone_rounds (workers_run_new_ne_nil b threads chunkSize rows cancelled [])
    (Nat.le_of_eq (work_new threads chunkSize rows cancelled))

theorem exists_runParallel_eq_run (b : Batch) (threads chunkSize : Nat) (cancelled : Bool) (rows : List (Row Value)) :
    ∃ moves, b.runParallel threads chunkSize cancelled rows = (new threads chunkSize rows cancelled).run b moves ∧
      ((new threads chunkSize rows cancelled).run b moves).isDone = true := by
  obtain ⟨numbers, hnumbers⟩ := exists_runParallel_eq_run_workers b threads chunkSize cancelled rows
  exact ⟨numbers.map .worker, hnumbers⟩

end Pool

end CellExpr
