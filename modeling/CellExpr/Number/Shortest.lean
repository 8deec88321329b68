import CellExpr.Number.Exact

/-!
# The shortest decimal digits of a double

The fewest digits whose decimal number reads back as the same double, and among these the number nearest to it. A
decimal number reads back as a double if it lies in the interval around it that reaches halfway to both neighbours.
-/

namespace CellExpr.Number

/-- The decimal number `digits · 10^exponent`. -/
structure Decimal where
  digits : Nat
  exponent : Int
  deriving DecidableEq, Repr

/-- Which of two equally near neighbours on the decimal grid is taken. -/
inductive Tie where
  | up
  | even
  deriving DecidableEq, Repr

/-- The number of decimal digits of a natural number, none for zero. -/
def digitCount (n : Nat) : Nat := if n = 0 then 0 else (Nat.toDigits 10 n).length

/-- The interval that reads back as a double, as quarters of its unit: its ends, and whether they belong to it. -/
structure Interval where
  low : Nat
  high : Nat
  closed : Bool

/-- The interval around a positive magnitude. It is narrower below a power of two, where doubles lie closer. -/
def Interval.around (units : Nat) : Interval :=
  if units < Nat.pow 2 53 then ⟨4 * units - 2, 4 * units + 2, units % 2 == 0⟩
  else
    let step := Nat.pow 2 (units.log2 - 52)
    ⟨4 * units - (if units = Nat.pow 2 units.log2 then step else 2 * step), 4 * units + 2 * step, units / step % 2 == 0⟩

/-- Whether `p / q` quarters of a unit lie in the interval. -/
def Interval.contains (i : Interval) (p q : Nat) : Bool :=
  if i.closed then decide (i.low * q ≤ p) && decide (p ≤ i.high * q)
  else decide (i.low * q < p) && decide (p < i.high * q)

/-- The nearest number on the grid `10^exponent` that reads back as the magnitude, if there is one. -/
def onGrid? (tie : Tie) (units : Nat) (exponent : Int) : Option Decimal :=
  -- one grid step is `p / q` quarters of a unit
  let p := 4 * unitsInOne * Nat.pow 10 exponent.toNat
  let q := Nat.pow 10 (-exponent).toNat
  let below := 4 * units * q / p
  let interval := Interval.around units
  let fits := fun n => interval.contains (n * p) q
  let rest := 4 * units * q - below * p
  let upper := decide (p < 2 * rest) || (decide (p = 2 * rest) && (tie == .up || below % 2 == 1))
  match fits below, fits (below + 1) with
  | true, true => some ⟨if upper then below + 1 else below, exponent⟩
  | true, false => some ⟨below, exponent⟩
  | false, true => some ⟨below + 1, exponent⟩
  | false, false => none

/-- The least `k` with `units < 10^k` ones, found from an estimate. -/
def magnitudeOf (units : Nat) : Int :=
  -- `log2` gives the place within one power of ten
  let estimate : Int := ((units.log2 : Int) - 1074) * 30103 / 100000
  let isBelow := fun (k : Int) => units * Nat.pow 10 (-k).toNat < unitsInOne * Nat.pow 10 k.toNat
  if isBelow (estimate - 1) then estimate - 1
  else if isBelow estimate then estimate
  else if isBelow (estimate + 1) then estimate + 1
  else estimate + 2

/-- The same decimal number without zeros at the end of its digits. -/
def Decimal.trimZeros : (fuel : Nat) → Decimal → Decimal
  | 0, d => d
  | fuel + 1, d => if d.digits ≠ 0 ∧ d.digits % 10 = 0 then trimZeros fuel ⟨d.digits / 10, d.exponent + 1⟩ else d

/-- The shortest decimal number that reads back as a positive magnitude. -/
def shortest (tie : Tie) (units : Nat) : Decimal :=
  let top := magnitudeOf units
  let found := (List.range 17).findSome? fun count => onGrid? tie units (top - (count + 1 : Nat))
  (found.getD ⟨0, 0⟩).trimZeros 17

end CellExpr.Number
