import CellExpr.Pattern.Regex

/-!
# Splitting at matches

The pieces of a text between the matches of a regular expression, without the empty ones, or with those that are not at
the end.
-/

namespace CellExpr

open CellExpr.Pattern

namespace Pattern

/-- A match of nothing at the start of the text. -/
def Match.isEmptyAtStart (m : Match) : Bool := m.start == 0 && m.stop == 0

/-- A list without the empty texts at its end. -/
def dropLastEmpty (pieces : List (List Char)) : List (List Char) :=
  (pieces.reverse.dropWhile (·.isEmpty)).reverse

end Pattern

/-- The pieces of a text between matches. Empty pieces are left out, or only those at the end; then a match of nothing at
the start does not count, and a text without other matches is its only piece. -/
def Regex.splitPieces (r : Regex) (keepEmpty : Bool) (s : List Char) : List (List Char) :=
  if keepEmpty then
    match (r.findAll s).filter (!·.isEmptyAtStart) with
    | [] => [s]
    | found => dropLastEmpty (piecesFrom s 0 found)
  else (r.split s).filter (!·.isEmpty)

end CellExpr
