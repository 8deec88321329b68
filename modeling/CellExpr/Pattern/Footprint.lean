import CellExpr.Pattern.Node
import CellExpr.Pattern.Utf8
import Std.Data.HashMap

/-!
# The room of a pattern

A pattern stands for two automata over bytes: one reads its matches forward, the other one backward. They are not built, but
laid out to tell how much room they take. A state takes `stateBytes`; if it is a fork, each link to a state after it takes
`linkBytes`; if it has arrows, each arrow takes `arrowBytes`. All other states go on to one state and take nothing more.

A pattern whose automata take more than `maxBytes` is refused. Nothing that has been laid out is taken back, so the layout
ends as soon as the room runs out, and the counts of repetitions do not matter.
-/

namespace CellExpr.Pattern

/-- The bytes that an automaton may take up. -/
def maxBytes : Nat := 10 * Nat.pow 2 20

/-- The bytes of a state. -/
def stateBytes : Nat := 32

/-- The bytes of a link from a fork to a state after it. -/
def linkBytes : Nat := 4

/-- The bytes of an arrow, which takes the bytes of a range to a state. -/
def arrowBytes : Nat := 8

/-- What has been laid out: the number of states, and the bytes of their links and arrows. -/
structure Footprint where
  states : Nat := 0
  outgoing : Nat := 0
  deriving DecidableEq, Repr

instance : Add Footprint := ⟨fun a b => ⟨a.states + b.states, a.outgoing + b.outgoing⟩⟩

/-- The room of what has been laid out. -/
def Footprint.bytes (f : Footprint) : Nat := stateBytes * f.states + f.outgoing

/-- The way in which an automaton reads a text. -/
inductive Direction where
  | forward
  | backward
  deriving DecidableEq, Repr

/-- A part of laying out an automaton, which fails if the room runs out. -/
abbrev Laying := StateT Footprint Option

/-- Adds states with links and arrows, and gives the number of the first state. -/
def addStates (states outgoing : Nat) : Laying Nat := do
  let before ← get
  let after := before + ⟨states, outgoing⟩
  if maxBytes < after.bytes then failure
  set after
  return before.states

/-- Goes on from a state, which takes a link if the state is a fork. -/
def leave (fork : Bool) : Laying Unit := do
  let _ ← addStates 0 (if fork then linkBytes else 0)

/-! ## Classes -/

/-- States that may be used again: what a state does, as a list of numbers, and the number of the state. Each of them has a
slot, and the last one to take a slot stays. -/
abbrev Shared := Std.HashMap Nat (List Nat × Nat)

/-- One of some slots, picked by all of the numbers. -/
def slotOf (slots : Nat) (numbers : List Nat) : Nat :=
  let mix (hash : UInt64) (n : Nat) := UInt64.mul (UInt64.xor hash (Nat.toUInt64 n)) (Nat.toUInt64 1099511628211)
  (numbers.foldl mix (Nat.toUInt64 14695981039346656037)).toNat % slots

/-- The state that does what the numbers say: one laid out before, if its slot still holds it, or a new one. -/
def sharedState (slots : Nat) (numbers : List Nat) (outgoing : Nat) (shared : Shared) : Laying (Nat × Shared) := do
  let slot := slotOf slots numbers
  match shared[slot]? with
  | some (known, state) => if known = numbers then return (state, shared)
  | none => pure ()
  let state ← addStates 1 outgoing
  return (state, shared.insert slot (numbers, state))

/-- The number of slots for the states that read a character forward. -/
def forwardSlots : Nat := 10000

/-- The number of slots for the states that read a character backward. -/
def backwardSlots : Nat := 1000

/-- The states that read a character spelled by one of the rows, of at most `length` bytes each, and then go on to
`target`. Rows that start with the same range have one arrow, and states with the same arrows are one state. -/
def layRows (target : Nat) : (length : Nat) → List ByteRow → Shared → Laying (Nat × Shared)
  | 0, _, shared => return (target, shared)
  | length + 1, rows, shared => do
    if rows.all (·.isEmpty) then return (target, shared)
    let groups := rows.splitBy fun a b => a.head? == b.head?
    let (numbers, shared) ← groups.foldlM (fun (numbers, shared) group => do
      let (next, shared) ← layRows target length (group.map List.tail) shared
      let ends := (group.head?.bind List.head?).getD (0, 0)
      return (numbers ++ [ends.1, ends.2, next], shared)) ([], shared)
    sharedState forwardSlots numbers (arrowBytes * groups.length) shared

/-- The states that read a character spelled by a row backward and then go on to `target`. Rows that end with the same
ranges share the states that read them. -/
def layRowBackward (target : Nat) (row : ByteRow) (shared : Shared) : Laying (Nat × Shared) :=
  row.foldlM (fun (target, shared) (low, high) => sharedState backwardSlots [target, low, high] 0 shared) (target, shared)

/-- The states of a class. Characters of one byte each take a single state with arrows. -/
def layClass (direction : Direction) (k : CharClass) : Laying Unit := do
  if k.isAscii then
    let _ ← addStates 2 (arrowBytes * k.intervals.length)
  else match direction with
    | .forward =>
      let target ← addStates 1 0
      let _ ← layRows target maxRowLength k.rows ∅
    | .backward =>
      let fork ← addStates 2 (linkBytes * k.rows.length)
      let _ ← k.rows.foldlM (fun shared row => do return (← layRowBackward (fork + 1) row shared).2) (∅ : Shared)

/-! ## Texts side by side -/

/-- The stretches of texts between the empty ones. -/
def stretches : List (List Nat) → List (List (List Nat))
  | [] => [[]]
  | [] :: rest => [] :: stretches rest
  | s :: rest =>
    match stretches rest with
    | [] => [[s]]
    | stretch :: others => (s :: stretch) :: others

/-- Texts of which those that are empty and come first are one. -/
def joinEmpty : List (List Nat) → List (List Nat)
  | [] :: rest => [] :: rest.dropWhile (·.isEmpty)
  | texts => texts

/-- What follows the first byte of a text that starts with it. -/
def afterHead? (head : Nat) (text : List Nat) : Option (List Nat) :=
  if text.head? = some head then text.tail? else none

/-- The room of the states that tell texts of at most `length` bytes apart. Texts share what they start with, unless one
that lies between them ends there: the preferred one would be lost. -/
def textsFootprint : (length : Nat) → List (List Nat) → Footprint
  | 0, _ => {}
  | length + 1, texts =>
    if texts.all (·.isEmpty) then {}
    else
      let parts := stretches (joinEmpty texts)
      let used := parts.filter (!·.isEmpty)
      used.foldl (fun room part =>
        let heads := (part.filterMap List.head?).eraseDups
        heads.foldl (fun room head => room + textsFootprint length (part.filterMap (afterHead? head)))
          (room + ⟨1, if heads.length = 1 then 0 else arrowBytes * heads.length⟩))
        ⟨1, linkBytes * (used.length + parts.length - 1)⟩

/-- The bytes of the one text that a tree asks for. -/
def Node.text? (node : Node) : Option (List Nat) :=
  match node.factors with
  | [] => none
  | factors => (factors.mapM letter?).map (·.flatMap utf8Bytes)

/-- The texts that a tree asks for, if all of its branches ask for texts. -/
def Node.texts? (node : Node) : Option (List (List Nat)) := node.branches.mapM text?

/-! ## Trees -/

/-- So many copies of a part in a row, after one that ends in a fork or not. Tells whether the last one ends in a fork. -/
def layCopies (part : Laying Bool) : (count : Nat) → (fork : Bool) → Laying Bool
  | 0, fork => return fork
  | count + 1, fork => do
    leave fork
    layCopies part count (← part)

/-- A part so many times, which is one state if it is no times. -/
def layExactly (part : Laying Bool) (count : Nat) : Laying Bool := do
  if count = 0 then
    let _ ← addStates 1 0
  layCopies part count false

/-- So many copies of a part in a row, each with a fork before it to leave all the rest out. -/
def layOptional (part : Laying Bool) : (count : Nat) → (fork : Bool) → Laying Bool
  | 0, fork => return fork
  | count + 1, fork => do
    leave fork
    let _ ← addStates 1 (2 * linkBytes)
    layOptional part count (← part)

/-- A part again and again, at least some times. A part that may be empty has a fork of its own to pass it by. -/
def layUnbounded (part : Laying Bool) (takesText : Bool) : (least : Nat) → Laying Bool
  | 0 => do
    if takesText then
      let _ ← addStates 1 linkBytes
      leave (← part)
      return true
    else
      leave (← part)
      let _ ← addStates 3 (4 * linkBytes)
      return false
  | least + 1 => do
    leave (← layCopies part (least + 1) false)
    let _ ← addStates 1 linkBytes
    return true

/-- A part repeated. -/
def layLoop (part : Laying Bool) (takesText : Bool) (least : Nat) : (most : Option Nat) → Laying Bool
  | none => layUnbounded part takesText least
  | some most => do
    if least = most then layExactly part least
    else if least = 0 ∧ most = 1 then
      let _ ← addStates 1 (2 * linkBytes)
      leave (← part)
      let _ ← addStates 1 0
      return false
    else
      let fork ← layExactly part least
      let _ ← addStates 1 0
      leave (← layOptional part (most - least) fork)
      return false

/-- Where a tree stands. -/
inductive Standing where
  | alone
  /-- As a branch after so many others of one choice. -/
  | branch (earlier : Nat)

/-- Ends a tree that ends in a fork or not. The end of a branch goes on to the end of its choice, which is laid out with the
fork of the choice after the second branch. Tells whether the whole ends in a fork. -/
def Standing.finish : Standing → (fork : Bool) → Laying Bool
  | alone, fork => return fork
  | branch earlier, fork => do
    leave fork
    let _ ← addStates (if earlier = 1 then 2 else 0) linkBytes
    return false

/-- The states of a tree. Tells whether they end in a fork. -/
def Node.lay (direction : Direction) : Node → Standing → Laying Bool
  | empty, standing => do
    let _ ← addStates 1 0
    standing.finish false
  | chars k, standing => do
    match k.single? with
    | some n => let _ ← addStates (utf8Bytes n).length 0
    | none => layClass direction k
    standing.finish false
  | look _, standing => do
    let _ ← addStates 1 0
    standing.finish false
  | group _ _ body, standing => do
    match direction with
    | .forward =>
      let _ ← addStates 1 0
      leave (← body.lay direction .alone)
      let _ ← addStates 1 0
      standing.finish false
    | .backward => standing.finish (← body.lay direction .alone)
  | loop body least most _, standing => do
    standing.finish (← layLoop (body.lay direction .alone) body.takesText least most)
  | seq a b, standing => do
    match direction with
    | .forward =>
      leave (← a.lay direction .alone)
      standing.finish (← b.lay direction .alone)
    | .backward =>
      leave (← b.lay direction .alone)
      standing.finish (← a.lay direction .alone)
  | alt a b, .branch earlier => do
    let _ ← (Standing.branch earlier).finish (← a.lay direction .alone)
    b.lay direction (.branch (earlier + 1))
  | alt a b, .alone => do
    match (alt a b).texts? with
    | some texts =>
      let texts := match direction with
        | .forward => texts
        | .backward => texts.map List.reverse
      let room := textsFootprint (texts.foldl (fun n s => max n s.length) 0) texts
      let _ ← addStates (1 + room.states) room.outgoing
      return false
    | none =>
      let _ ← (Standing.branch 0).finish (← a.lay direction .alone)
      b.lay direction (.branch 1)

/-- The automaton of a tree. Unless every match lies at the edge of the text where the automaton starts, a loop before it
looks for a match further on. -/
def Node.layAutomaton (direction : Direction) (node : Node) : Laying Unit := do
  let anchored := match direction with
    | .forward => node.startsWith .textStart
    | .backward => node.endsWith .textEnd
  let _ ← if anchored then addStates 1 0 else addStates 3 (arrowBytes + 2 * linkBytes)
  match direction with
  | .forward =>
    let _ ← addStates 1 0
    leave (← node.lay direction .alone)
    let _ ← addStates 2 0
  | .backward =>
    leave (← node.lay direction .alone)
    let _ ← addStates 1 0

/-- Whether there is room for both automata of a tree. -/
def Node.fits (node : Node) : Bool :=
  ((node.layAutomaton .forward).run {}).isSome && ((node.layAutomaton .backward).run {}).isSome

end CellExpr.Pattern
