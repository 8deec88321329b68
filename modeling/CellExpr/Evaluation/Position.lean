import CellExpr.Evaluation.Checked
import CellExpr.Number.Rounding

/-!
# Positions

Places in a sequence of some length. A negative number counts from the end. Bodies of functions calculate places and
bounds with 64 bits; what they come to is the same.
-/

namespace CellExpr

open CellExpr.Number

/-- The place that a whole number stands for, if the sequence has it. -/
def place? (length : Nat) (n : Int) : Option Nat :=
  if 0 ≤ n then (if n < length then some n.toNat else none)
  else if n.natAbs ≤ length then some (length - n.natAbs) else none

/-- The place that a number stands for, its fraction left aside. -/
def placeOf? (length : Nat) (x : Float) : Option Nat := place? length (truncateToWord x)

/-- The length of a sequence as a number of 64 bits. No sequence is longer than the greatest of these. -/
def lengthWord (length : Nat) : Int := min length maxWord

/-- A bound of a stretch, held within the sequence. -/
def boundOf (length : Nat) (x : Float) : Nat :=
  let n := truncateToWord x
  let n := if n < 0 then lengthWord length + n else n
  (max 0 (min (lengthWord length) n)).toNat

/-- The stretch from one bound to another, or to the end. It is empty if the bounds are the wrong way round. -/
def stretch (length : Nat) (first : Float) (last : Option Float) : Nat × Nat :=
  let start := boundOf length first
  let stop := (last.map (boundOf length)).getD length
  (start, max start stop)

namespace Outcome

/-- The place that a number stands for, calculated. -/
def placeOf (length : Nat) (x : Float) : Outcome (Option Nat) :=
  let n := truncateToWord x
  if 0 ≤ n then return if n < length then some n.toNat else none
  else if n.natAbs ≤ length then some <$> difference length n.natAbs
  else return none

/-- A bound of a stretch, calculated. -/
def boundOf (length : Nat) (x : Float) : Outcome Nat := do
  let n := truncateToWord x
  let n ← if n < 0 then inBits 64 (lengthWord length + n) else pure n
  return (← clamp 0 (lengthWord length) n).toNat

/-- The stretch from one bound to another, or to the end, calculated. -/
def stretch (length : Nat) (first : Float) (last : Option Float) : Outcome (Nat × Nat) := do
  let start ← boundOf length first
  let stop ← match last with
    | some x => boundOf length x
    | none => pure length
  return (start, max start stop)

end Outcome

end CellExpr
