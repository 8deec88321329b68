import CellExpr.Number.Reading

/-!
# Counts

Numbers of things in decimal, as settings give them.
-/

namespace CellExpr.Number

/-- All counts are below this one. -/
def countBound : Nat := Nat.pow 2 64

/-- A count, or the greatest one in place of a number that is no count any more. -/
def saturate (n : Nat) : Nat := min n (countBound - 1)

/-- The count that a text is: digits, which may follow a plus sign. -/
def count? (s : List Char) : Option Nat :=
  let digits := match s with
    | '+' :: rest => rest
    | s => s
  if digits.isEmpty || !digits.all isDigit then none
  else
    let n := digitsValue digits
    if n < countBound then some n else none

/-- The count that a text is, blank characters around it left aside, unless it is 0. -/
def positiveCount? (s : List Char) : Option Nat := (count? (Text.trim s)).filter (0 < ·)

end CellExpr.Number
