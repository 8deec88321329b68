import CellExpr.Text.Blank
import CellExpr.Text.CaseMap
import CellExpr.Text.Occurrence

/-!
# Editing texts

Splitting at a literal separator, cutting by lengths, exchanging characters, titles, and a key under which texts of the
same words fall together.
-/

namespace CellExpr.Text

/-- The pieces of a text between the occurrences of a separator, the empty separator standing for each blank character. The
empty text has no pieces. -/
def splitLiteral (separator : List Char) (keepEmpty : Bool) (s : List Char) : List (List Char) :=
  if s.isEmpty then []
  else
    let pieces := if separator.isEmpty then piecesBetween isBlank s else splitAtEach separator s
    pieces.filter fun p => keepEmpty || !p.isEmpty

/-- Each character of `from` exchanged for the one at the same place of `into`; one without a counterpart is left out. -/
def exchange (targets into s : List Char) : List Char :=
  s.filterMap fun c =>
    match targets.idxOf? c with
    | some i => into[i]?
    | none => some c

/-- The text with a capital letter at the start of each word. -/
def title (s : List Char) : List Char := titleFrom true isBlank s

/-- A mark of punctuation of ASCII. -/
def isAsciiPunctuation (c : Char) : Bool :=
  let n := c.toNat
  (33 ≤ n && n ≤ 47) || (58 ≤ n && n ≤ 64) || (91 ≤ n && n ≤ 96) || (123 ≤ n && n ≤ 126)

/-- A control character. -/
def isControl (c : Char) : Bool := c.toNat < 32 || (127 ≤ c.toNat && c.toNat < 160)

/-- Whether a character is kept in a key. -/
def isKeyChar (c : Char) : Bool := !isAsciiPunctuation c && (!isControl c || c == '\t')

/-- The order of two texts by their characters. -/
def charsLe (a b : List Char) : Bool := decide (¬ b < a)

/-- The words of a text for its key: without punctuation and in lower case. -/
def keyWords (s : List Char) : List (List Char) := words (lower ((trim s).filter isKeyChar))

/-- The key of a text: its words in order, each once. -/
def fingerprint (s : List Char) : List Char := joinWith [' '] ((keyWords s).mergeSort charsLe).eraseReps

end CellExpr.Text
