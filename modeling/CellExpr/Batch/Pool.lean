import CellExpr.Batch.Basic

/-!
# Pools

A batch on several workers. The rows are cut into chunks; a free worker takes the next chunk and does its rows in
order. Before each row it looks whether the batch is cancelled, and if so it drops the rest of its chunk. Results are
handed in with the places of their rows, in whatever order the workers come, and put in the order of the rows at the end.

Nothing is settled about who moves when: any list of moves is a run.
-/

namespace CellExpr

/-- The rows from a place up to, but without, another one. -/
structure Chunk where
  next : Nat
  stop : Nat
  deriving DecidableEq, Repr

/-- What a worker is about. -/
inductive Worker where
  /-- It has no chunk. -/
  | idle
  /-- It is about to look whether to go on. -/
  | polling (job : Chunk)
  /-- It has found that it may go on, and is about to evaluate the next row. -/
  | evaluating (job : Chunk)
  /-- It has the result of the next row, and is about to hand it in. -/
  | sending (job : Chunk) (result : RowResult)

/-- Whether a worker has no chunk. -/
def Worker.isIdle : Worker → Bool
  | idle => true
  | _ => false

/-- A batch on workers, at one moment. -/
structure Pool where
  rows : List (Row Value)
  waiting : List Chunk
  workers : List Worker
  /-- The results handed in, each with the place of its row. -/
  sent : List (Nat × RowResult) := []
  cancelled : Bool := false

/-- Something that can happen to a pool at any moment. -/
inductive Move where
  /-- A worker does one thing. Workers are counted from 0. -/
  | worker (number : Nat)
  /-- Someone outside cancels the batch. -/
  | cancel
  deriving DecidableEq, Repr

/-- So many rows cut into chunks of a length. Only the last one may be shorter. -/
def Chunk.cut (count length : Nat) : List Chunk :=
  (List.range ((count + length - 1) / length)).map fun i => ⟨i * length, min (i * length + length) count⟩

namespace Pool

/-- The pool of some workers before the first move. There is at least one worker, and at least one row in a chunk. -/
def new (threads chunkSize : Nat) (rows : List (Row Value)) (cancelled : Bool) : Pool :=
  { rows, cancelled, waiting := Chunk.cut rows.length (max chunkSize 1)
    workers := List.replicate (max threads 1) .idle }

/-- The pool after a worker, which was about something, does the next thing. -/
def stepWorker (b : Batch) (p : Pool) (number : Nat) (worker : Worker) : Pool :=
  let become (w : Worker) : List Worker := p.workers.set number w
  match worker with
  | .idle =>
    match p.waiting with
    | [] => p
    | job :: rest => { p with waiting := rest, workers := become (.polling job) }
  | .polling job =>
    if job.next < job.stop && !p.cancelled then { p with workers := become (.evaluating job) }
    else { p with workers := become .idle }
  | .evaluating job =>
    match p.rows[job.next]? with
    | none => { p with workers := become .idle }
    | some r =>
      let (result, cancelled) := b.evaluate r
      { p with workers := become (.sending job result), cancelled := p.cancelled || cancelled }
  | .sending job result =>
    { p with workers := become (.polling { job with next := job.next + 1 }), sent := p.sent ++ [(job.next, result)] }

/-- The pool after a move. A worker that there is not moves nothing. -/
def step (b : Batch) (p : Pool) : Move → Pool
  | .cancel => { p with cancelled := true }
  | .worker number =>
    match p.workers[number]? with
    | some worker => p.stepWorker b number worker
    | none => p

/-- The pool after some moves. -/
def run (b : Batch) (p : Pool) (moves : List Move) : Pool := moves.foldl (·.step b ·) p

/-- Whether there is nothing left to do. -/
def isDone (p : Pool) : Bool := p.waiting.isEmpty && p.workers.all Worker.isIdle

/-- The results handed in, in the order of their rows. -/
def results (p : Pool) : List RowResult := (p.sent.mergeSort (·.1 ≤ ·.1)).map (·.2)

/-! ## Running to the end -/

/-- A move of each worker in turn. -/
def round (p : Pool) : List Move := (List.range p.workers.length).map .worker

/-- So many rounds, or fewer if nothing is left to do. -/
def rounds (b : Batch) : (count : Nat) → Pool → Pool
  | 0, p => p
  | count + 1, p => if p.isDone then p else (p.run b p.round).rounds b count

/-- The moves that a chunk still takes: one to begin it, three for each row, one to end it. -/
def cost (job : Chunk) : Nat := 3 * (job.stop - job.next) + 2

/-- Runs a new pool to its end, the workers moving in turn. Each round has at least one of the moves that are left. -/
def finish (b : Batch) (p : Pool) : Pool := p.rounds b (p.waiting.foldl (fun total job => total + cost job) 0)

end Pool

/-- Evaluates rows on workers. -/
def Batch.runParallel (b : Batch) (threads chunkSize : Nat) (cancelled : Bool) (rows : List (Row Value)) : Pool :=
  (Pool.new threads chunkSize rows cancelled).finish b

end CellExpr
