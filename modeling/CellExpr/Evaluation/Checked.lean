import CellExpr.Evaluation.Traced
import CellExpr.Text.Bytes

/-!
# Checked operations

What can be done with some operands alone: taking an element of a list or a part of it, cutting a text between its bytes,
and calculating with whole numbers of a bounded width. With other operands something is missing.
-/

namespace CellExpr.Outcome

variable {α : Type}

/-- What is there if a condition holds. -/
def given (condition : Prop) [Decidable condition] (a : α) : Outcome α := if condition then .ok a else .error .stuck

/-! ## Lists and texts -/

/-- The element of a list at a place that it has. -/
def elementAt (items : List α) (place : Nat) : Outcome α := require items[place]?

/-- The part of a list between two places that it has. -/
def part (items : List α) (start stop : Nat) : Outcome (List α) :=
  given (start ≤ stop ∧ stop ≤ items.length) ((items.drop start).take (stop - start))

/-- The elements of a list from a place on that it has. -/
def partFrom (items : List α) (start : Nat) : Outcome (List α) := part items start items.length

/-- The byte at which the character at a place begins, or at which the text ends. -/
def byteAt (s : List Char) (place : Nat) : Outcome Nat := given (place ≤ s.length) (Text.byteLength (s.take place))

/-- The text between two bytes, where no character is cut. -/
def textBetween (s : List Char) (start stop : Nat) : Outcome (List Char) := require (Text.betweenBytes? s start stop)

/-! ## Whole numbers -/

/-- A whole number that so many bits have room for, one of which is its sign. -/
def inBits (bits : Nat) (n : Int) : Outcome Int :=
  given (-((1 <<< (bits - 1) : Nat) : Int) ≤ n ∧ n < (1 <<< (bits - 1) : Nat)) n

/-- The difference of two counts, the first of which is not the smaller one. -/
def difference (a b : Nat) : Outcome Nat := given (b ≤ a) (a - b)

/-- A whole number held between bounds that are the right way round. -/
def clamp (low high n : Int) : Outcome Int := given (low ≤ high) (max low (min high n))

/-- The remainder of a division by a number that is not zero, with the sign of the dividend. -/
def remainder (a b : Int) : Outcome Int := given (b ≠ 0) (a.tmod b)

end CellExpr.Outcome
