import CellExpr.Text.CaseTable

/-!
# Upper and lower case

Case mappings of characters and of texts. A capital sigma becomes the final form of the small one at the end of a word,
the only mapping that depends on its neighbours.
-/

namespace CellExpr.Text

/-- The image of a character, which may be several characters. -/
def mapCase (runs : Runs) (expansions : List (Nat × List Nat)) (c : Char) : List Char :=
  match expansions.lookup c.toNat with
  | some targets => targets.map Char.ofNat
  | none => match runs.image? c.toNat with
    | some target => [Char.ofNat target]
    | none => [c]

/-- The upper case of a character. -/
def upperChar (c : Char) : List Char := mapCase upperRuns upperExpansions c

/-- The lower case of a character that stands alone. -/
def lowerChar (c : Char) : List Char := mapCase lowerRuns lowerExpansions c

/-- Whether the first character that is not passed over is cased. -/
def meetsCased (s : List Char) : Bool :=
  match s.dropWhile fun c => caseIgnorableTable.has c.toNat with
  | [] => false
  | c :: _ => casedTable.has c.toNat

/-- The lower case of a text that follows the characters `before`, the nearest first. -/
def lowerAfter (before : List Char) : List Char → List Char
  | [] => []
  | c :: rest =>
    let image :=
      if c = 'Σ' then [if meetsCased before && !meetsCased rest then 'ς' else 'σ'] else lowerChar c
    image ++ lowerAfter (c :: before) rest

/-- The lower case of a text. -/
def lower (s : List Char) : List Char := lowerAfter [] s

/-- The upper case of a text. -/
def upper (s : List Char) : List Char := s.flatMap upperChar

/-- Each word begins with the upper case of its first character and goes on in lower case. -/
def titleFrom (atWordStart : Bool) (isBlank : Char → Bool) : List Char → List Char
  | [] => []
  | c :: rest =>
    if isBlank c then c :: titleFrom true isBlank rest
    else (if atWordStart then upperChar c else lowerChar c) ++ titleFrom false isBlank rest

end CellExpr.Text
