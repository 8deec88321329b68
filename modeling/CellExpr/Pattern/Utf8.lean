import CellExpr.Pattern.CharClass

/-!
# Characters as bytes

How the characters of an interval are spelled in UTF-8: sequences of ranges of bytes, each of which stands for all
characters that take one byte from each of its ranges. Together they stand for every character of the interval once, and
they come in the order of the characters.
-/

namespace CellExpr.Pattern

open CellExpr.Text

/-- A range of bytes, both ends included. -/
abbrev ByteRange := Nat × Nat

/-- Ranges for the bytes of a character, one after the other. -/
abbrev ByteRow := List ByteRange

/-- The mark of a byte that continues a character. -/
def continuationMark : Nat := 0x80

/-- All bytes that continue a character. -/
def anyContinuation : ByteRange := (continuationMark, continuationMark + 63)

/-- The rows that spell the numbers from `low` to `high`. The first byte has a mark and is followed by `count` bytes of six
bits each. Numbers whose last bytes may be anything share a row. -/
def spell (mark : Nat) : (count : Nat) → (low high : Nat) → List ByteRow
  | 0, low, high => [[(mark + low, mark + high)]]
  | count + 1, low, high =>
    let unit := Nat.pow 64 (count + 1)
    let first := low / unit
    let last := high / unit
    let within (digit low high : Nat) := (spell continuationMark count low high).map ((mark + digit, mark + digit) :: ·)
    if first = last then within first (low % unit) (high % unit)
    else
      let fromStart := low % unit = 0
      let toEnd := high % unit = unit - 1
      let wholeFirst := if fromStart then first else first + 1
      let wholeLast := if toEnd then last else last - 1
      (if fromStart then [] else within first (low % unit) (unit - 1)) ++
      (if wholeFirst ≤ wholeLast then
        [(mark + wholeFirst, mark + wholeLast) :: List.replicate (count + 1) anyContinuation] else []) ++
      (if toEnd then [] else within last 0 (high % unit))

/-- The stretches of characters that are spelled with the same number of bytes: the first and the last one, the mark of the
first byte, and the number of bytes after it. Between the third and the fourth there are no characters. -/
def utf8Stretches : List (Nat × Nat × Nat × Nat) :=
  [(0, 0x7F, 0, 0), (0x80, 0x7FF, 0xC0, 1), (0x800, 0xD7FF, 0xE0, 2), (0xE000, 0xFFFF, 0xE0, 2),
    (0x10000, lastCode, 0xF0, 3)]

/-- The most bytes of a character. -/
def maxRowLength : Nat := 4

/-- The rows that spell the characters of an interval. -/
def intervalRows (low high : Nat) : List ByteRow :=
  utf8Stretches.flatMap fun (first, last, mark, count) =>
    if max first low ≤ min last high then spell mark count (max first low) (min last high) else []

/-- The rows that spell the characters of a class. -/
def CharClass.rows (k : CharClass) : List ByteRow := k.intervals.flatMap fun (low, high) => intervalRows low high

/-- The bytes of a character. -/
def utf8Bytes (n : Nat) : List Nat := (intervalRows n n).flatten.map (·.1)

end CellExpr.Pattern
