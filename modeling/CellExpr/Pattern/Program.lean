import CellExpr.Pattern.Footprint

/-!
# Pattern programs

A pattern becomes a program: each instruction names the instructions after it, the preferred one first. The loop of a body
that can match nothing is entered as one turn and an optional loop, so that an empty turn ends it.
-/

namespace CellExpr.Pattern

/-- An instruction. -/
inductive Instr where
  | accept
  | chars (k : CharClass) (next : Nat)
  | look (l : Look) (next : Nat)
  /-- Remembers the place; the start and the end of group `i` have the slots `2 * i` and `2 * i + 1`. -/
  | save (slot : Nat) (next : Nat)
  | split (preferred other : Nat)
  deriving Repr

/-- A program under construction, of which all instructions so far are known but for the reserved ones. -/
abbrev Code := Array Instr

/-- Adds an instruction and gives its place. -/
def append (code : Code) (i : Instr) : Nat × Code := (code.size, code.push i)

/-- A choice between going on with a body and leaving it. -/
def Instr.turn (greedy : Bool) (body leave : Nat) : Instr := if greedy then .split body leave else .split leave body

/-- Puts `count` copies of a piece one before the other, each going on to the next; gives the place of the first. -/
def copies (piece : Nat → Code → Nat × Code) : (count : Nat) → (next : Nat) → Code → Nat × Code
  | 0, next, code => (next, code)
  | count + 1, next, code =>
    let (entry, code) := piece next code
    copies piece count entry code

/-- Puts `count` copies of a piece, each of which may be left for `leave` together with those after it. -/
def optionalCopies (greedy : Bool) (piece : Nat → Code → Nat × Code) (leave : Nat) :
    (count : Nat) → (next : Nat) → Code → Nat × Code
  | 0, next, code => (next, code)
  | count + 1, next, code =>
    let (entry, code) := piece next code
    let (entry, code) := append code (.turn greedy entry leave)
    optionalCopies greedy piece leave count entry code

/-- Adds the instructions of a tree that go on to `next`, and gives the place of the first one. -/
def Node.emit : Node → (next : Nat) → Code → Nat × Code
  | empty, next, code => (next, code)
  | chars k, next, code => append code (.chars k next)
  | look l, next, code => append code (.look l next)
  | group index _ body, next, code =>
    let (close, code) := append code (.save (2 * index + 1) next)
    let (entry, code) := body.emit close code
    append code (.save (2 * index) entry)
  | loop body least (some most) greedy, next, code =>
    let (entry, code) := optionalCopies greedy body.emit next (most - least) next code
    copies body.emit least entry code
  | loop body least none greedy, next, code =>
    let (turn, code) := append code (.split next next)
    let (entry, code) := body.emit turn code
    let code := code.set! turn (.turn greedy entry next)
    if least = 0 then
      if body.takesText then (turn, code) else append code (.turn greedy entry next)
    else copies body.emit (least - 1) entry code
  | seq a b, next, code =>
    let (entry, code) := b.emit next code
    a.emit entry code
  | alt a b, next, code =>
    let (second, code) := b.emit next code
    let (first, code) := a.emit next code
    append code (.split first second)

/-- A compiled pattern. -/
structure Program where
  code : Code
  entry : Nat
  /-- The number of groups, the whole match among them. -/
  groupCount : Nat
  /-- The groups that have names. -/
  names : List (String × Nat)
  deriving Repr

/-- The program of a tree, unless it grows too large. -/
def Node.compile? (node : Node) : Option Program :=
  if node.fits then
    let (entry, code) := node.emit 0 #[.accept]
    let groups := node.groups
    some {
      code, entry
      groupCount := groups.foldl (fun n (index, _) => max n (index + 1)) 1
      names := groups.filterMap fun (index, name) => name.map (·, index) }
  else none

end CellExpr.Pattern
