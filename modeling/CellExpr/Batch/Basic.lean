import CellExpr.Evaluation.Eval

/-!
# Batches

One expression is evaluated for many rows. Anyone who holds the batch may cancel it: before it starts, while it looks at a
result, or from the body of a function. A row that is being evaluated is finished; no row is begun after that.
-/

namespace CellExpr

/-- What came of one row. -/
structure RowResult where
  /-- The number that the row gives itself. -/
  row : Nat
  value : Value

/-- The line of a result in JSON. -/
def RowResult.line (r : RowResult) : String :=
  (Json.object [("row", .whole r.row), ("value", r.value.toWritten)]).render

/-- An expression for rows, each looked at from one column. -/
structure Batch where
  registry : Registry
  expr : Expr
  column : String
  /-- The runs of bodies that cancel the batch. -/
  cancels : BodyRun → Bool := fun _ => false

/-- Rows done one after the other, with what an observer made of their results. -/
structure Progress (σ : Type) where
  results : List RowResult
  state : σ
  cancelled : Bool

namespace Batch

/-- The expression evaluated for a row. -/
def trace (b : Batch) (r : Row Value) : Traced Value := b.expr.eval b.registry (Scope.ofCell r b.column)

/-- What comes of a row, and whether evaluating it cancels the batch. -/
def evaluate (b : Batch) (r : Row Value) : RowResult × Bool :=
  let t := b.trace r
  (⟨r.index, t.value⟩, t.runs.any b.cancels)

/-- Evaluates rows in order until the batch is cancelled. An observer is shown each result once, and may cancel then. -/
def run {σ : Type} (b : Batch) (observe : σ → RowResult → σ × Bool) :
    (state : σ) → (cancelled : Bool) → List (Row Value) → Progress σ
  | state, cancelled, [] => ⟨[], state, cancelled⟩
  | state, cancelled, r :: rest =>
    if cancelled then ⟨[], state, true⟩
    else
      let (result, byBody) := b.evaluate r
      let (state, byObserver) := observe state result
      let later := b.run observe state (byBody || byObserver) rest
      { later with results := result :: later.results }

end Batch

end CellExpr
