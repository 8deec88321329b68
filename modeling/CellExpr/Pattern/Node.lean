import CellExpr.Pattern.CharClass

/-!
# Trees of patterns

What a pattern asks for: characters of a class, places in the text, groups that are remembered, sequences, choices in the
order of preference, and repetitions. `row`, `choice` and `repeated` put trees together in one form: rows and choices are
flat, single characters side by side make one class, and what all branches of a choice start with stands before it.
-/

namespace CellExpr.Pattern

/-- An edge of words, told from whether the neighbours on both sides are word characters. -/
inductive WordEdge where
  | boundary
  | noBoundary
  | start
  | finish
  | halfStart
  | halfFinish
  deriving DecidableEq, Repr

/-- A condition on a place in the text. -/
inductive Look where
  | textStart
  | textEnd
  | lineStart
  | lineEnd
  /-- The start of a line where `\r\n` and `\r` end lines too. -/
  | anyLineStart
  /-- The end of a line where `\r\n` and `\r` end lines too. -/
  | anyLineEnd
  | word (edge : WordEdge) (ascii : Bool)
  deriving DecidableEq, Repr

/-- A tree of a pattern. -/
inductive Node where
  | empty
  | chars (k : CharClass)
  | look (l : Look)
  /-- A remembered group, counted from 1. -/
  | group (index : Nat) (name : Option String) (body : Node)
  | loop (body : Node) (least : Nat) (most : Option Nat) (greedy : Bool)
  | seq (first second : Node)
  | alt (first second : Node)
  deriving DecidableEq, Repr

namespace Node

/-- Whether all that the tree can match is empty. -/
def onlyEmpty : Node → Bool
  | empty => true
  | chars _ => false
  | look _ => true
  | group _ _ body => body.onlyEmpty
  | loop body _ most _ => body.onlyEmpty || most == some 0
  | seq a b => a.onlyEmpty && b.onlyEmpty
  | alt a b => a.onlyEmpty && b.onlyEmpty

/-- The least number of characters that the tree matches. A class of no characters leaves it open. -/
def shortest? : Node → Option Nat
  | empty => some 0
  | chars k => if k.intervals.isEmpty then none else some 1
  | look _ => some 0
  | group _ _ body => body.shortest?
  | loop body least _ _ => body.shortest?.map (least * ·)
  | seq a b => do return (← a.shortest?) + (← b.shortest?)
  | alt a b => do return min (← a.shortest?) (← b.shortest?)

/-- Whether the tree is known to match no empty text. -/
def takesText (node : Node) : Bool := node.shortest?.any (0 < ·)

/-- Whether every match starts with a condition. -/
def startsWith (l : Look) : Node → Bool
  | look l' => l' = l
  | group _ _ body => body.startsWith l
  | loop body least _ _ => 0 < least && body.startsWith l
  | seq a b => a.startsWith l || (b.startsWith l && a.onlyEmpty)
  | alt a b => a.startsWith l && b.startsWith l
  | empty | chars _ => false

/-- Whether every match ends with a condition. -/
def endsWith (l : Look) : Node → Bool
  | look l' => l' = l
  | group _ _ body => body.endsWith l
  | loop body least _ _ => 0 < least && body.endsWith l
  | seq a b => b.endsWith l || (b.onlyEmpty && a.endsWith l)
  | alt a b => a.endsWith l && b.endsWith l
  | empty | chars _ => false

/-- A repetition. What matches the empty text alone is not repeated, and what is repeated no times is nothing: its groups
are forgotten. -/
def repeated (body : Node) (least : Nat) (most : Option Nat) (greedy : Bool) : Node :=
  let least' := if body.onlyEmpty then min least 1 else least
  let most' := if body.onlyEmpty then some (min (most.getD 1) 1) else most
  if least' = 0 ∧ most' = some 0 then empty
  else if least' = 1 ∧ most' = some 1 then body
  else loop body least' most' greedy

/-- The groups with their names. -/
def groups : Node → List (Nat × Option String)
  | empty | chars _ | look _ => []
  | group index name body => (index, name) :: body.groups
  | loop body _ _ _ => body.groups
  | seq a b => a.groups ++ b.groups
  | alt a b => a.groups ++ b.groups

/-! ## Rows and choices -/

/-- The parts of a tree that stand in a row, put before others. -/
def factorsOnto : Node → List Node → List Node
  | empty, rest => rest
  | seq a b, rest => a.factorsOnto (b.factorsOnto rest)
  | node, rest => node :: rest

/-- The parts of a tree that stand in a row. -/
def factors (node : Node) : List Node := node.factorsOnto []

/-- Trees in a row. -/
def row (nodes : List Node) : Node :=
  match nodes.flatMap factors with
  | [] => empty
  | node :: rest => rest.foldl seq node

/-- The branches of a tree, the last one first, put before others. -/
def branchesOnto : Node → List Node → List Node
  | alt a b, done => b.branchesOnto (a.branchesOnto done)
  | node, done => node :: done

/-- The branches of a tree in the order of preference. -/
def branches (node : Node) : List Node := (node.branchesOnto []).reverse

/-- A choice of branches as they are. -/
def ofBranches (nodes : List Node) : Node :=
  match nodes.reverse with
  | [] => chars .empty
  | last :: others => others.foldl (fun node branch => alt branch node) last

/-- The character that a tree asks for if it is a single one. -/
def letter? : Node → Option Nat
  | chars k => k.single?
  | _ => none

/-- The class that a tree asks for. -/
def class? : Node → Option CharClass
  | chars k => some k
  | _ => none

/-- The class of branches that are single characters alone, or classes of none or several alone. -/
def mergedClass? (branches : List Node) : Option CharClass :=
  if branches.all (·.letter?.isSome) || branches.all (·.letter?.isNone) then
    (branches.mapM class?).map fun classes => .ofIntervals (classes.flatMap (·.intervals))
  else none

/-- Trees side by side, in the order of preference, as a class if they make one. -/
def mergedChoice (nodes : List Node) : Node :=
  let flat := nodes.flatMap branches
  match mergedClass? flat with
  | some k => chars k
  | none => ofBranches flat

/-- The parts of a tree in a row, where single characters side by side are one part. -/
def pieces (node : Node) : List (List Node) := node.factors.splitBy fun a b => a.letter?.isSome && b.letter?.isSome

/-- What two lists start with. -/
def commonStart {α : Type} [DecidableEq α] : List α → List α → List α
  | a :: s, b :: t => if a = b then a :: commonStart s t else []
  | _, _ => []

/-- What all branches start with, as long as each of them has more parts than one. -/
def sharedStart (branches : List (List (List Node))) : List (List Node) :=
  match branches with
  | [] => []
  | first :: rest =>
    if branches.all (2 ≤ ·.length) then rest.foldl commonStart first else []

/-- Trees side by side, in the order of preference. What all of them start with stands before the choice. -/
def choice (nodes : List Node) : Node :=
  match nodes.flatMap branches with
  | [node] => node
  | flat =>
    let parts := flat.map pieces
    let start := sharedStart parts
    if start.isEmpty then mergedChoice flat
    else row (start.flatten ++ [mergedChoice (parts.map fun p => row (p.drop start.length).flatten)])

end Node

end CellExpr.Pattern
