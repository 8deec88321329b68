/-!
# Texts in bytes

How many bytes a text takes in UTF-8, and its parts between two bytes. A text can be cut at a byte only if no character
lies on both sides.
-/

namespace CellExpr.Text

/-- The number of bytes of a text. -/
def byteLength : List Char → Nat
  | [] => 0
  | c :: s => c.utf8Size + byteLength s

/-- A text cut at a byte, if a character begins or the text ends there. -/
def splitAtByte? : (byte : Nat) → List Char → Option (List Char × List Char)
  | 0, s => some ([], s)
  | _ + 1, [] => none
  | byte + 1, c :: s =>
    if c.utf8Size ≤ byte + 1 then (splitAtByte? (byte + 1 - c.utf8Size) s).map fun (front, back) => (c :: front, back)
    else none

/-- The text from one byte to another, if they are in order and the text can be cut at both. -/
def betweenBytes? (s : List Char) (start stop : Nat) : Option (List Char) :=
  if start ≤ stop then
    (splitAtByte? start s).bind fun (_, rest) => (splitAtByte? (stop - start) rest).map fun (middle, _) => middle
  else none

/-- The number of bytes that two texts have in common at their beginning. -/
def commonBytes (a b : List Char) : Nat :=
  byteLength (((a.zip b).takeWhile fun (x, y) => x == y).map fun (x, _) => x)

end CellExpr.Text
