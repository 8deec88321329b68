import CellExpr.Number.Exact
import CellExpr.Number.Shortest
import CellExpr.Text.Blank

/-!
# Reading numbers

The grammar of decimal numbers: a sign, digits with a point anywhere among them, an exponent. The value is the nearest
double.
-/

namespace CellExpr.Number

/-- One of the ten digits of ASCII. -/
def isDigit (c : Char) : Bool := '0' ≤ c && c ≤ '9'

/-- The value of a text of digits. -/
def digitsValue (ds : List Char) : Nat := ds.foldl (fun n c => 10 * n + (c.toNat - '0'.toNat)) 0

/-- The nearest double to `digits · 10^exponent`. Beyond the range of doubles it is infinity or zero. -/
def Decimal.toDouble (d : Decimal) : Float :=
  let top := d.exponent + digitCount d.digits
  if d.digits = 0 ∨ top < -330 then 0
  else if top > 310 then infinity
  else match d.exponent with
    | .ofNat e => Float.ofScientific d.digits false e
    | .negSucc e => Float.ofScientific d.digits true (e + 1)

/-- A sign at the start, if there is one, and the rest. -/
def takeSign : List Char → Bool × List Char
  | '-' :: rest => (true, rest)
  | '+' :: rest => (false, rest)
  | rest => (false, rest)

/-- The exponent after the digits. It is there in full, or nothing follows. -/
def readExponent : List Char → Option Int
  | [] => some 0
  | c :: rest =>
    if c = 'e' ∨ c = 'E' then
      let (negative, ds) := takeSign rest
      if !ds.isEmpty && ds.all isDigit then
        let n : Int := digitsValue ds
        some (if negative then -n else n)
      else none
    else none

/-- A number without a sign, read in full. There is a digit before or after the point. -/
def readDecimal (s : List Char) : Option Decimal :=
  let whole := s.takeWhile isDigit
  let (fraction, rest) := match s.dropWhile isDigit with
    | '.' :: rest => (rest.takeWhile isDigit, rest.dropWhile isDigit)
    | rest => ([], rest)
  if whole.isEmpty && fraction.isEmpty then none
  else (readExponent rest).map fun e => ⟨digitsValue (whole ++ fraction), e - fraction.length⟩

/-- A number with or without a sign, read in full. -/
def read? (s : List Char) : Option Float :=
  let (negative, rest) := takeSign s
  (readDecimal rest).map fun d => if negative then -d.toDouble else d.toDouble

/-- The number that a text is, blank characters around it left aside. -/
def parse? (s : String) : Option Float := read? (Text.trim s.toList)

end CellExpr.Number
