import CellExpr.Evaluation.Traced
import CellExpr.Number.Layout

/-!
# Ranges

The loop over numbers from one bound to another by a step. Every turn must move it on, so it comes to an end: between two
doubles there are only so many others.
-/

namespace CellExpr

namespace Number

/-- The place of a double in the order of all doubles. Both zeros have the place 0. -/
def rank (x : Float) : Int :=
  let bits := x.toBits.toNat
  if bits < Nat.pow 2 63 then bits else -((bits - Nat.pow 2 63 : Nat) : Int)

end Number

open Number

/-- Whether a loop in the direction of a step has not yet reached its bound. -/
def isBefore (step : Float) (i bound : Float) : Bool := (0 < step && i < bound) || (step < 0 && bound < i)

/-- How many doubles a loop may still pass, in the direction of its step; none once it has reached its bound. -/
def distance (step : Float) (i bound : Float) : Nat :=
  if isBefore step i bound then (if 0 < step then rank bound - rank i else rank i - rank bound).toNat + 1 else 0

/-- The values of a body for the numbers from one on, up to the first error. Each number must be nearer to the bound than
the one before it. -/
def rangeFrom (bound step : Float) (body : Float → Traced Value) (i : Float) :
    Traced (Except EvalError (List Value)) :=
  if isBefore step i bound then
    let next := i + step
    if distance step next bound < distance step i bound then
      (body i).bind fun v =>
        match v with
        | .error e => .just (.error e)
        | v => (rangeFrom bound step body next).map fun r => r.map (v :: ·)
    else .just (.error (Fault.tooSmallStep (plainText step) (plainText i)).toError)
  else .just (.ok [])
termination_by distance step i bound

/-- The loop from one bound to another. -/
def overRange (first bound step : Float) (body : Float → Traced Value) : Traced Value :=
  if step == 0 || step.isNaN then .just (.error Fault.zeroStep.toError)
  else (rangeFrom bound step body first).map fun
    | .error e => .error e
    | .ok vs => .array vs

end CellExpr
