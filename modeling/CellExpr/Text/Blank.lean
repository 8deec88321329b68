import CellExpr.Text.CharTable

/-!
# Blank characters

The white space of Unicode, trimming by it, and the two ways to cut a text at it: into all pieces, or into words.
-/

namespace CellExpr.Text

/-- Characters with the property White_Space. -/
def blankTable : Intervals := [
  (0x9, 0xD), (0x20, 0x20), (0x85, 0x85), (0xA0, 0xA0), (0x1680, 0x1680), (0x2000, 0x200A), (0x2028, 0x2029),
  (0x202F, 0x202F), (0x205F, 0x205F), (0x3000, 0x3000)]

/-- A space of any width, a line end or a tab. -/
def isBlank (c : Char) : Bool := blankTable.has c.toNat

/-- The text without the blank characters it begins with. -/
def trimStart (s : List Char) : List Char := s.dropWhile isBlank

/-- The text without the blank characters at both ends. -/
def trim (s : List Char) : List Char := (trimStart (trimStart s).reverse).reverse

/-- The pieces between the characters of a kind: one more than there are such characters. -/
def piecesBetween (p : Char → Bool) : List Char → List (List Char)
  | [] => [[]]
  | c :: rest =>
    if p c then [] :: piecesBetween p rest
    else match piecesBetween p rest with
      | [] => [[c]]
      | piece :: pieces => (c :: piece) :: pieces

/-- The stretches without blank characters. -/
def words (s : List Char) : List (List Char) := (piecesBetween isBlank s).filter (!·.isEmpty)

end CellExpr.Text
