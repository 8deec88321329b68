import CellExpr.Number.Exact

/-!
# Rounding to whole numbers

Truncation, floor and ceiling of doubles, the exact remainder, and conversion to bounded whole numbers. The functions
that give a double keep infinities and the double that is no number, and keep the sign of a zero.
-/

namespace CellExpr.Number

/-- The double with its sign replaced and its magnitude mapped to a whole number of ones. -/
def roundMagnitude (round : Nat → Nat) (x : Float) (negative : Bool) (units : Nat) : Float :=
  if units % unitsInOne = 0 then x else ofUnits negative (round units * unitsInOne)

/-- Magnitude rounded down to ones. -/
def downToOnes (units : Nat) : Nat := units / unitsInOne

/-- Magnitude rounded up to ones. -/
def upToOnes (units : Nat) : Nat := (units + (unitsInOne - 1)) / unitsInOne

/-- The greatest whole number that is not above. -/
def floor (x : Float) : Float :=
  match exact x with
  | .finite negative units => roundMagnitude (if negative then upToOnes else downToOnes) x negative units
  | _ => x

/-- The least whole number that is not below. -/
def ceil (x : Float) : Float :=
  match exact x with
  | .finite negative units => roundMagnitude (if negative then downToOnes else upToOnes) x negative units
  | _ => x

/-- The least bounded whole number, as 64 bits allow. -/
def minWord : Int := -((Nat.pow 2 63 : Nat) : Int)

/-- The greatest bounded whole number, as 64 bits allow. -/
def maxWord : Int := ((Nat.pow 2 63 - 1 : Nat) : Int)

/-- The whole number toward zero, held between the bounds; what is no number counts as zero. -/
def truncateToWord (x : Float) : Int :=
  match exact x with
  | .finite negative units =>
    let n : Int := downToOnes units
    max minWord (min maxWord (if negative then -n else n))
  | .infinite negative => if negative then minWord else maxWord
  | .undefined => 0

/-- The remainder of the division that rounds its quotient toward zero. It is exact and has the sign of the dividend. -/
def remainder (x y : Float) : Float :=
  match exact x, exact y with
  | .finite negative a, .finite _ b => if b = 0 then notANumber else ofUnits negative (a % b)
  | .finite .., .infinite _ => x
  | _, _ => notANumber

/-- The nearest whole number, of two equally near ones the greater, as far as adding a half is exact. -/
def roundHalfUp (x : Float) : Float := floor (x + 0.5)

/-- The next even (or odd) whole number that is not nearer to zero. -/
def awayFromZero (odd : Bool) (x : Float) : Float :=
  let sign : Float := if x < 0 then -1 else 1
  let up := ceil x.abs
  let isOdd := remainder up 2 == 1
  sign * (if isOdd != odd then up + 1 else up)

/-- The smaller of two doubles; one that is no number is passed over. -/
def least (x y : Float) : Float := if x.isNaN then y else if y < x then y else x

/-- The greater of two doubles; one that is no number is passed over. -/
def greatest (x y : Float) : Float := if x.isNaN then y else if x < y then y else x

end CellExpr.Number
