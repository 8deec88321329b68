import CellExpr.Number.Shortest

/-!
# How a double is written

Three layouts of the shortest decimal: the text that expressions show, the text of a loop bound inside a message, and the
text in JSON. They differ in the sign of zero, the names of infinities, and where an exponent is used.
-/

namespace CellExpr.Number

/-- The decimal digits of a natural number. -/
def digitsText (n : Nat) : List Char := Nat.toDigits 10 n

/-- A decimal number without an exponent. -/
def Decimal.positional (d : Decimal) : List Char :=
  let ds := digitsText d.digits
  match d.exponent with
  | .ofNat zeros => ds ++ List.replicate zeros '0'
  | .negSucc k =>
    let places := k + 1
    if places < ds.length then ds.take (ds.length - places) ++ '.' :: ds.drop (ds.length - places)
    else '0' :: '.' :: List.replicate (places - ds.length) '0' ++ ds

/-- A decimal number with one digit before the point and an exponent with a sign. -/
def Decimal.scientific (d : Decimal) : List Char :=
  let ds := digitsText d.digits
  let exponent := d.exponent + (ds.length - 1 : Nat)
  let fraction := match ds.drop 1 with
    | [] => []
    | rest => '.' :: rest
  ds.take 1 ++ fraction ++ 'e' :: (if exponent < 0 then '-' else '+') :: digitsText exponent.natAbs

/-- A sign before the digits of a negative number. -/
def signed (negative : Bool) (text : List Char) : List Char := if negative then '-' :: text else text

/-- Positional, with a sign also on zero, and short names for what is not finite. -/
def plainText (x : Float) : String :=
  match exact x with
  | .undefined => "NaN"
  | .infinite negative => if negative then "-inf" else "inf"
  | .finite negative units =>
    String.ofList (signed negative (if units = 0 then ['0'] else (shortest .up units).positional))

/-- The text of a number in expressions: positional, zero without a sign, and full names for what is not finite. -/
def text (x : Float) : String :=
  match exact x with
  | .undefined => "NaN"
  | .infinite negative => if negative then "-Infinity" else "Infinity"
  | .finite negative units =>
    if units = 0 then "0" else String.ofList (signed negative (shortest .up units).positional)

/-- Exponents from this one on are written in JSON: `1e+16`. -/
def jsonExponentFrom : Int := 16

/-- Exponents below this one are written in JSON: `9.9e-6`. -/
def jsonExponentBelow : Int := -5

/-- The text of a finite number in JSON: it always shows a point or an exponent. -/
def jsonText (negative : Bool) (units : Nat) : String :=
  if units = 0 then (if negative then "-0.0" else "0.0")
  else
    let d := shortest .even units
    let exponent := d.exponent + ((digitsText d.digits).length - 1 : Nat)
    let body :=
      if jsonExponentBelow ≤ exponent ∧ exponent < jsonExponentFrom then
        if 0 ≤ d.exponent then d.positional ++ ['.', '0'] else d.positional
      else d.scientific
    String.ofList (signed negative body)

end CellExpr.Number
