/-!
# Doubles as exact numbers

Every finite double is a whole multiple of the smallest positive one, `2^-1074`. In that unit rounding to whole numbers,
remainders and comparison are arithmetic on natural numbers.
-/

namespace CellExpr.Number

/-- What a double stands for: a sign and a magnitude in units of `2^-1074`, an infinity, or no number at all. -/
inductive Exact where
  | finite (negative : Bool) (units : Nat)
  | infinite (negative : Bool)
  | undefined
  deriving DecidableEq, Repr

/-- The number of units in one. -/
def unitsInOne : Nat := Nat.pow 2 1074

/-- The number that a double stands for. -/
def exact (x : Float) : Exact :=
  let bits := x.toBits.toNat
  let negative := decide (Nat.pow 2 63 ≤ bits)
  let exponent := bits / Nat.pow 2 52 % Nat.pow 2 11
  let fraction := bits % Nat.pow 2 52
  if exponent = 2047 then (if fraction = 0 then .infinite negative else .undefined)
  else if exponent = 0 then .finite negative fraction
  else .finite negative ((Nat.pow 2 52 + fraction) * Nat.pow 2 (exponent - 1))

/-- The double with a sign and a magnitude that a double can have. -/
def ofUnits (negative : Bool) (units : Nat) : Float :=
  let sign := if negative then Nat.pow 2 63 else 0
  let magnitude :=
    if units < Nat.pow 2 52 then units
    else
      let shift := units.log2 - 52
      (shift + 1) * Nat.pow 2 52 + (units / Nat.pow 2 shift - Nat.pow 2 52)
  Float.ofBits (UInt64.ofNat (sign + magnitude))

/-- Positive infinity. -/
def infinity : Float := Float.ofBits 0x7FF0000000000000

/-- The double that is no number. -/
def notANumber : Float := Float.ofBits 0x7FF8000000000000

/-- The nearest double to a natural number. -/
def ofNat (n : Nat) : Float := Float.ofScientific n false 0

/-- The nearest double to a whole number; there is no negative zero among them. -/
def ofInt (n : Int) : Float := if n < 0 then -(ofNat n.natAbs) else ofNat n.natAbs

/-- Whether the double is a whole number. -/
def isWhole (x : Float) : Bool :=
  match exact x with
  | .finite _ units => units % unitsInOne == 0
  | _ => false

end CellExpr.Number
