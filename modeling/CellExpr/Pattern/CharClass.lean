import CellExpr.Text.FoldTable

/-!
# Character classes

Sets of characters as intervals in increasing order that neither overlap nor touch, so that a search can stop early. All
set operations come down to union and complement.
-/

namespace CellExpr.Pattern

open CellExpr.Text

/-- The last code point. -/
def lastCode : Nat := 0x10FFFF

/-- A set of characters. -/
structure CharClass where
  /-- Intervals in increasing order with gaps between them. -/
  intervals : Intervals
  deriving DecidableEq, Repr

namespace CharClass

/-- Whether a code point lies in one of the intervals, which are in increasing order. -/
def hasIn : Intervals → Nat → Bool
  | [], _ => false
  | (low, high) :: rest, n => if n < low then false else if n ≤ high then true else hasIn rest n

/-- Whether a character belongs to the class. -/
def has (k : CharClass) (c : Char) : Bool := hasIn k.intervals c.toNat

/-- Joins an interval with those that follow it as long as they overlap or touch it. All come in the order of their lower
ends. -/
def joinFrom (low high : Nat) : Intervals → Intervals
  | [] => [(low, high)]
  | (low', high') :: rest =>
    if low' ≤ high + 1 then joinFrom low (max high high') rest else (low, high) :: joinFrom low' high' rest

/-- Joins intervals that overlap or touch. They come in the order of their lower ends. -/
def join : Intervals → Intervals
  | [] => []
  | (low, high) :: rest => joinFrom low high rest

/-- The class of some intervals in any order. -/
def ofIntervals (t : Intervals) : CharClass :=
  ⟨join ((t.filter fun (low, high) => low ≤ high).mergeSort fun a b => decide (a.1 ≤ b.1))⟩

/-- The class of no characters. -/
def empty : CharClass := ⟨[]⟩

/-- The class of all characters. -/
def all : CharClass := ⟨[(0, lastCode)]⟩

/-- The class of one character. -/
def single (c : Char) : CharClass := ⟨[(c.toNat, c.toNat)]⟩

/-- The class of the characters between two. -/
def range (first last : Char) : CharClass := ⟨[(first.toNat, last.toNat)]⟩

/-- The characters of either class. -/
def union (a b : CharClass) : CharClass := ofIntervals (a.intervals ++ b.intervals)

/-- The gaps from a code point on. -/
def gaps (start : Nat) : Intervals → Intervals
  | [] => if start ≤ lastCode then [(start, lastCode)] else []
  | (low, high) :: rest => if start < low then (start, low - 1) :: gaps (high + 1) rest else gaps (high + 1) rest

/-- The characters outside the class. -/
def complement (k : CharClass) : CharClass := ⟨gaps 0 k.intervals⟩

/-- The characters of both classes. -/
def inter (a b : CharClass) : CharClass := (a.complement.union b.complement).complement

/-- The characters of the first class that are not in the second. -/
def diff (a b : CharClass) : CharClass := a.inter b.complement

/-- The characters of one class only. -/
def symmDiff (a b : CharClass) : CharClass := (a.diff b).union (b.diff a)

/-- The character of a class that has one alone. -/
def single? (k : CharClass) : Option Nat :=
  match k.intervals with
  | [(low, high)] => if low = high then some low else none
  | _ => none

/-- Whether all characters are below 128. -/
def isAscii (k : CharClass) : Bool := k.intervals.all fun (_, high) => high < 128

/-- The class and all characters that differ from its own in case only. -/
def foldCase (k : CharClass) : CharClass :=
  let pairs := (foldPairs.flatMap Run.pairs).map fun (a, b) => [a, b]
  let touched := (pairs ++ foldGroups).filter fun group => group.any (hasIn k.intervals)
  ofIntervals (k.intervals ++ touched.flatten.map fun n => (n, n))

/-- The letters of ASCII in the other case. -/
def asciiVariant (n : Nat) : Nat :=
  if 65 ≤ n ∧ n ≤ 90 then n + 32 else if 97 ≤ n ∧ n ≤ 122 then n - 32 else n

/-- The class and the other case of all its letters of ASCII. -/
def foldAsciiCase (k : CharClass) : CharClass :=
  let letters := (List.range 128).filter (hasIn k.intervals)
  ofIntervals (k.intervals ++ letters.map fun n => (asciiVariant n, asciiVariant n))

end CharClass

end CellExpr.Pattern
