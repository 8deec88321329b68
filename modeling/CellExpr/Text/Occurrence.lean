/-!
# Occurrences of a literal text

Where a needle stands in a text, and what follows from it: the first and the last place, the pieces between the leftmost
occurrences that do not overlap, and replacement of these. Positions count characters.
-/

namespace CellExpr.Text

/-- What follows the needle at the start of the text, if the text begins with it. -/
def dropFront? : (needle s : List Char) → Option (List Char)
  | [], s => some s
  | _ :: _, [] => none
  | a :: needle, c :: s => if a = c then dropFront? needle s else none

/-- What precedes the needle at the end of the text, if the text ends with it. -/
def dropBack? (needle s : List Char) : Option (List Char) := (dropFront? needle.reverse s.reverse).map (·.reverse)

/-- Whether the text begins with the needle. -/
def beginsWith (needle s : List Char) : Bool := (dropFront? needle s).isSome

/-- Whether the text ends with the needle. -/
def finishesWith (needle s : List Char) : Bool := (dropBack? needle s).isSome

/-- The first position at which the needle stands. The empty needle stands everywhere, also at the end. -/
def firstPosition? (needle : List Char) : List Char → Option Nat
  | [] => if needle.isEmpty then some 0 else none
  | c :: s => if beginsWith needle (c :: s) then some 0 else (firstPosition? needle s).map (· + 1)

/-- The last position at which the needle stands. -/
def lastPosition? (needle : List Char) : List Char → Option Nat
  | [] => if needle.isEmpty then some 0 else none
  | c :: s => match lastPosition? needle s with
    | some i => some (i + 1)
    | none => if beginsWith needle (c :: s) then some 0 else none

/-- Whether the needle stands anywhere. -/
def occurs (needle s : List Char) : Bool := (firstPosition? needle s).isSome

/-- The pieces between the leftmost occurrences, where `skip` characters still belong to the last occurrence. -/
def splitAux (needle : List Char) : (skip : Nat) → List Char → List (List Char)
  | _, [] => [[]]
  | skip + 1, _ :: s => splitAux needle skip s
  | 0, c :: s =>
    if beginsWith needle (c :: s) then [] :: splitAux needle (needle.length - 1) s
    else match splitAux needle 0 s with
      | [] => [[c]]
      | piece :: pieces => (c :: piece) :: pieces

/-- The pieces between the leftmost occurrences of a needle that is not empty. -/
def splitAtEach (needle s : List Char) : List (List Char) := splitAux needle 0 s

/-- Puts a text between the pieces. -/
def joinWith (separator : List Char) (pieces : List (List Char)) : List Char := (pieces.intersperse separator).flatten

/-- Each occurrence replaced. The empty needle stands before each character and at the end. -/
def replaceEach (needle replacement s : List Char) : List Char :=
  if needle.isEmpty then replacement ++ s.flatMap (fun c => c :: replacement)
  else joinWith replacement (splitAtEach needle s)

end CellExpr.Text
