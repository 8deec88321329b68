import CellExpr.Json.Document
import CellExpr.Number.Exact
import CellExpr.Number.Reading

/-!
# Reading JSON

A reader of whole texts. Each step gives what it read and the rest of the text. Containers nest at most `maxNesting`
deep. A number with a point or an exponent is its leading digits as a double, scaled by powers of ten, so that the last
bit may differ from the nearest double.
-/

namespace CellExpr.Json

/-- What a step read, and the rest. -/
abbrev Step (α : Type) := List Char → Option (α × List Char)

/-- The deepest nesting of arrays and objects. -/
def maxNesting : Nat := 127

/-- The four characters allowed between tokens. -/
def isGap (c : Char) : Bool := c == ' ' || c == '\n' || c == '\t' || c == '\r'

/-- The text after the gap it begins with. -/
def skipGap (s : List Char) : List Char := s.dropWhile isGap

/-- The value of a hexadecimal digit. -/
def hexValue? (c : Char) : Option Nat :=
  if '0' ≤ c ∧ c ≤ '9' then some (c.toNat - '0'.toNat)
  else if 'a' ≤ c ∧ c ≤ 'f' then some (c.toNat - 'a'.toNat + 10)
  else if 'A' ≤ c ∧ c ≤ 'F' then some (c.toNat - 'A'.toNat + 10)
  else none

/-- Four hexadecimal digits. -/
def readHex4 : Step Nat
  | a :: b :: c :: d :: rest => do
    let n := (((← hexValue? a) * 16 + (← hexValue? b)) * 16 + (← hexValue? c)) * 16 + (← hexValue? d)
    some (n, rest)
  | _ => none

/-- A character outside the basic plane, from the two halves that stand for it. -/
def ofHalves (high low : Nat) : Char := Char.ofNat (0x10000 + (high - 0xD800) * 0x400 + (low - 0xDC00))

/-- The character after `\u`. The upper half of a pair has to be followed by the lower half. -/
def readUnicode (s : List Char) : Option (Char × List Char) :=
  match readHex4 s with
  | none => none
  | some (n, rest) =>
    if 0xDC00 ≤ n ∧ n ≤ 0xDFFF then none
    else if 0xD800 ≤ n ∧ n ≤ 0xDBFF then
      match rest with
      | '\\' :: 'u' :: rest => match readHex4 rest with
        | some (m, rest) => if 0xDC00 ≤ m ∧ m ≤ 0xDFFF then some (ofHalves n m, rest) else none
        | none => none
      | _ => none
    else some (Char.ofNat n, rest)

/-- The character that a one-letter escape stands for. -/
def escaped? (c : Char) : Option Char :=
  if c = '"' ∨ c = '\\' ∨ c = '/' then some c
  else if c = 'b' then some '\x08'
  else if c = 'f' then some '\x0c'
  else if c = 'n' then some '\n'
  else if c = 'r' then some '\r'
  else if c = 't' then some '\t'
  else none

/-- The characters of a string after its opening quote, up to the closing one. -/
def readChars : (fuel : Nat) → (done : List Char) → Step String
  | 0, _, _ => none
  | _, _, [] => none
  | fuel + 1, done, c :: rest =>
    if c = '"' then some (String.ofList done.reverse, rest)
    else if c.toNat < 32 then none
    else if c ≠ '\\' then readChars fuel (c :: done) rest
    else match rest with
      | [] => none
      | 'u' :: rest => match readUnicode rest with
        | some (u, rest) => readChars fuel (u :: done) rest
        | none => none
      | e :: rest => match escaped? e with
        | some c => readChars fuel (c :: done) rest
        | none => none

/-- A string, after its opening quote. -/
def readString (s : List Char) : Option (String × List Char) := readChars (s.length + 1) [] s

/-- The greatest significand of a number. -/
def maxSignificand : Nat := Nat.pow 2 64 - 1

/-- The leading digits that fit the significand, and how many there are. -/
def significand : (sofar : Nat) → List Char → Nat × Nat
  | n, [] => (n, 0)
  | n, c :: rest =>
    let next := 10 * n + (c.toNat - '0'.toNat)
    if next ≤ maxSignificand then
      let (total, used) := significand next rest
      (total, used + 1)
    else (n, 0)

/-- The double `x · 10^exponent`, one rounding for each power of ten up to `10^308`; none beyond the range. -/
def scaled : (fuel : Nat) → (x : Float) → (exponent : Int) → Option Float
  | 0, x, _ => some x
  | fuel + 1, x, exponent =>
    if exponent.natAbs ≤ 308 then
      let power := Float.ofScientific 1 false exponent.natAbs
      if 0 ≤ exponent then
        let y := x * power
        if y.isInf then none else some y
      else some (x / power)
    else if x == 0 then some x
    else if 0 ≤ exponent then none
    else scaled fuel (x / Float.ofScientific 1 false 308) (exponent + 308)

/-- The digits of an exponent, at least one. -/
def readExponentDigits (s : List Char) : Option (Int × List Char) :=
  let (negative, rest) := Number.takeSign s
  let ds := rest.takeWhile Number.isDigit
  if ds.isEmpty then none
  else
    let n : Int := Number.digitsValue ds
    some (if negative then -n else n, rest.dropWhile Number.isDigit)

/-- The greatest exponent that is counted. A greater one gives zero or is out of range. -/
def maxExponent : Nat := Nat.pow 2 31 - 1

/-- A number with a point or an exponent, from its digits before and after the point and its exponent. -/
def doubleOf (whole fraction : List Char) (exponent : Int) : Option Float :=
  let (leading, used) := significand 0 whole
  let unused : Int := (whole.length - used : Nat)
  let (total, more) := significand leading fraction
  if maxExponent < exponent.natAbs then (if total ≠ 0 ∧ 0 < exponent then none else some 0)
  else scaled 8 (Number.ofNat total) (unused - more + exponent)

/-- A number after its sign. -/
def readUnsigned (negative : Bool) (s : List Char) : Option (Json × List Char) :=
  let sign := fun (x : Float) => Json.double (if negative then -x else x)
  let whole := s.takeWhile Number.isDigit
  let rest := s.dropWhile Number.isDigit
  if whole.isEmpty || (whole.head? == some '0' && whole.length ≠ 1) then none
  else
    let withExponent := fun (fraction rest : List Char) => match rest with
      | c :: after =>
        if c = 'e' ∨ c = 'E' then do
          let (exponent, rest) ← readExponentDigits after
          return (sign (← doubleOf whole fraction exponent), rest)
        else do return (sign (← doubleOf whole fraction 0), rest)
      | [] => do return (sign (← doubleOf whole fraction 0), rest)
    match rest with
    | '.' :: after =>
      let fraction := after.takeWhile Number.isDigit
      if fraction.isEmpty then none else withExponent fraction (after.dropWhile Number.isDigit)
    | c :: after =>
      if c = 'e' ∨ c = 'E' then withExponent [] (c :: after)
      else wholeOf negative whole sign (c :: after)
    | [] => wholeOf negative whole sign []
where
  /-- A number without point and exponent: whole if it fits 64 bits, else a double. -/
  wholeOf (negative : Bool) (whole : List Char) (sign : Float → Json) (rest : List Char) : Option (Json × List Char) :=
    let n := Number.digitsValue whole
    if negative then
      if n ≠ 0 ∧ n ≤ Nat.pow 2 63 then some (.whole (-n), rest)
      else (doubleOf whole [] 0).map fun x => (sign x, rest)
    else if n ≤ maxSignificand then some (.whole n, rest)
    else (doubleOf whole [] 0).map fun x => (sign x, rest)

/-- A fixed word. -/
def readWord (word : String) (value : Json) (s : List Char) : Option (Json × List Char) :=
  if s.take word.length = word.toList then some (value, s.drop word.length) else none

/-- The items of an array after its bracket and a gap. -/
def readItems (item : Step Json) : (fuel : Nat) → (done : List Json) → Step Json
  | 0, _, _ => none
  | fuel + 1, done, s => do
    let (value, rest) ← item s
    match skipGap rest with
    | ',' :: rest => readItems item fuel (value :: done) rest
    | ']' :: rest => some (.array (value :: done).reverse, rest)
    | _ => none

/-- The fields of an object after its brace and a gap. -/
def readFields (item : Step Json) : (fuel : Nat) → (done : List (String × Json)) → Step Json
  | 0, _, _ => none
  | fuel + 1, done, s =>
    match skipGap s with
    | '"' :: rest => do
      let (key, rest) ← readString rest
      match skipGap rest with
      | ':' :: rest =>
        let (value, rest) ← item rest
        match skipGap rest with
        | ',' :: rest => readFields item fuel (setField key value done) rest
        | '}' :: rest => some (.object (setField key value done), rest)
        | _ => none
      | _ => none
    | _ => none

/-- A value after a gap, with containers nested at most `nesting` deep. -/
def readValue : (nesting : Nat) → Step Json
  | nesting, s =>
    match skipGap s with
    | [] => none
    | '"' :: rest => (readString rest).map fun (s, rest) => (.string s, rest)
    | '[' :: rest => match nesting with
      | 0 => none
      | nesting + 1 => match skipGap rest with
        | ']' :: rest => some (.array [], rest)
        | rest => readItems (readValue nesting) (rest.length + 1) [] rest
    | '{' :: rest => match nesting with
      | 0 => none
      | nesting + 1 => match skipGap rest with
        | '}' :: rest => some (.object [], rest)
        | rest => readFields (readValue nesting) (rest.length + 1) [] rest
    | '-' :: rest => readUnsigned true rest
    | c :: rest =>
      if c = 't' then readWord "true" (.boolean true) (c :: rest)
      else if c = 'f' then readWord "false" (.boolean false) (c :: rest)
      else if c = 'n' then readWord "null" .null (c :: rest)
      else readUnsigned false (c :: rest)

/-- The document that a text is, with gaps at both ends. -/
def parse? (s : String) : Option Json :=
  match readValue maxNesting s.toList with
  | some (value, rest) => if (skipGap rest).isEmpty then some value else none
  | none => none

end CellExpr.Json
