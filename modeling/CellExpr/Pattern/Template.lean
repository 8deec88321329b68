import CellExpr.Number.Reading
import CellExpr.Pattern.Regex

/-!
# Replacement templates

A template is a text in which `$name`, `${name}` and a number in place of the name stand for groups of a match; `$$` is a
dollar sign. What names no group is left out, and a dollar sign that begins none of these stands for itself.
-/

namespace CellExpr.Pattern

open CellExpr.Number

/-- A piece of a template. -/
inductive TemplatePiece where
  | literal (c : Char)
  | group (name : List Char)
  deriving DecidableEq, Repr

/-- A character of a name that stands without braces. -/
def isNameChar (c : Char) : Bool := c.isAlphanum || c == '_'

/-- The pieces of a template. `fuel` is at least its length. -/
def templatePieces : (fuel : Nat) → List Char → List TemplatePiece
  | 0, _ => []
  | _, [] => []
  | fuel + 1, '$' :: rest =>
    match rest with
    | '$' :: rest => .literal '$' :: templatePieces fuel rest
    | '\x7b' :: inner =>
      match inner.dropWhile (· ≠ '\x7d') with
      | [] => .literal '$' :: templatePieces fuel rest
      | _ :: after => .group (inner.takeWhile (· ≠ '\x7d')) :: templatePieces fuel after
    | rest =>
      let name := rest.takeWhile isNameChar
      if name.isEmpty then .literal '$' :: templatePieces fuel rest
      else .group name :: templatePieces fuel (rest.dropWhile isNameChar)
  | fuel + 1, c :: rest => .literal c :: templatePieces fuel rest

/-- The number that a group name is: digits, with a plus sign before them if one likes. -/
def groupNumber? (name : List Char) : Option Nat :=
  let digits := match name with
    | '+' :: rest => rest
    | rest => rest
  if digits.isEmpty || !digits.all isDigit || Nat.pow 2 64 ≤ digitsValue digits then none else some (digitsValue digits)

/-- The group that a name stands for. -/
def groupIndex? (r : Regex) (name : List Char) : Option Nat :=
  (groupNumber? name).or (r.program.names.lookup (String.ofList name))

/-- The text of a piece for a match. -/
def TemplatePiece.text (r : Regex) (s : List Char) (m : Match) : TemplatePiece → List Char
  | literal c => [c]
  | group name => ((groupIndex? r name).bind (m.groupText? s)).getD []

/-- The text from a place on, each of the matches replaced. -/
def replacedFrom (s : List Char) (replacement : Match → List Char) (place : Nat) : List Match → List Char
  | [] => s.drop place
  | m :: rest => slice s place m.start ++ replacement m ++ replacedFrom s replacement m.stop rest

end CellExpr.Pattern

namespace CellExpr

open CellExpr.Pattern

/-- The text with all matches replaced by a template. -/
def Regex.replaceAll (r : Regex) (template s : List Char) : List Char :=
  let pieces := templatePieces (template.length + 1) template
  replacedFrom s (fun m => pieces.flatMap (TemplatePiece.text r s m)) 0 (r.findAll s)

end CellExpr
