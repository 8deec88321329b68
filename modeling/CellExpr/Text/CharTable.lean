/-!
# Tables of characters

A set of characters is a list of intervals of code points; a large one is written as lines of text, `41-5a 61-7a aa`. A
map that moves characters is a list of runs: every `step`-th character from `first` to `last`, moved by the same distance.
-/

namespace CellExpr.Text

/-- Intervals of code points, both ends included. -/
abbrev Intervals := List (Nat × Nat)

/-- Whether a code point lies in one of the intervals. -/
def Intervals.has (t : Intervals) (n : Nat) : Bool := t.any fun (lo, hi) => lo ≤ n && n ≤ hi

/-- The value of hexadecimal digits in lower case. -/
def hexValue (digits : List Char) : Nat :=
  digits.foldl (fun n c => 16 * n + (if c.isDigit then c.toNat - '0'.toNat else c.toNat - 'a'.toNat + 10)) 0

/-- Every `step`-th code point from the first to the last, each an interval of its own. -/
def steppedIntervals (first last step : Nat) : Intervals :=
  (List.range ((last - first) / step + 1)).map fun i => (first + i * step, first + i * step)

/-- The intervals that one word stands for: `aa`, `41-5a`, or `100-12e/2` for every second code point. -/
def Intervals.ofWord (word : List Char) : Intervals :=
  let first := word.takeWhile (· ≠ '-')
  match word.dropWhile (· ≠ '-') with
  | [] => [(hexValue first, hexValue first)]
  | _ :: rest =>
    let last := rest.takeWhile (· ≠ '/')
    match rest.dropWhile (· ≠ '/') with
    | [] => [(hexValue first, hexValue last)]
    | _ :: step => steppedIntervals (hexValue first) (hexValue last) (hexValue step)

/-- The intervals that lines of words stand for. -/
def Intervals.ofLines (lines : List String) : Intervals :=
  lines.flatMap fun line => (line.toList.splitOn ' ').flatMap Intervals.ofWord

/-- A set of characters under some names. -/
structure NamedTable where
  names : List String
  lines : List String

/-- The set with a name, among several sets. -/
def NamedTable.find? (tables : List NamedTable) (name : String) : Option Intervals :=
  (tables.find? (·.names.contains name)).map fun t => .ofLines t.lines

/-- The characters `first`, `first + step`, …, `last`, the first of which is mapped to `target`. -/
structure Run where
  first : Nat
  last : Nat
  step : Nat
  target : Nat

/-- A map of characters. -/
abbrev Runs := List Run

/-- The image of a code point that lies on the run. -/
def Run.image? (r : Run) (n : Nat) : Option Nat :=
  if r.first ≤ n && n ≤ r.last && (n - r.first) % r.step == 0 then some (r.target + (n - r.first)) else none

/-- The code point on the run with the given image. -/
def Run.source? (r : Run) (m : Nat) : Option Nat :=
  if r.target ≤ m then
    let n := r.first + (m - r.target)
    if n ≤ r.last && (m - r.target) % r.step == 0 then some n else none
  else none

/-- The image under the first run that has the code point. -/
def Runs.image? (t : Runs) (n : Nat) : Option Nat := t.findSome? (·.image? n)

end CellExpr.Text
