import CellExpr.Pattern.Program
import CellExpr.Pattern.Words

/-!
# Searching

A program is run by trying the preferred way first and keeping the other ways on a stack. No pair of an instruction and a
place is tried twice: what failed once fails again. So the first way found is the preferred one, and the work is bounded
by the number of such pairs.
-/

namespace CellExpr.Pattern

/-- The character before a place. -/
def before? (text : Array Char) (place : Nat) : Option Char := if place = 0 then none else text[place - 1]?

/-- Whether a condition holds at a place. -/
def Look.holds (l : Look) (text : Array Char) (place : Nat) : Bool :=
  let before := before? text place
  let after := text[place]?
  match l with
  | textStart => before.isNone
  | textEnd => after.isNone
  | lineStart => before.isNone || before == some '\n'
  | lineEnd => after.isNone || after == some '\n'
  | anyLineStart => before.isNone || before == some '\n' || (before == some '\r' && after != some '\n')
  | anyLineEnd => after.isNone || after == some '\r' || (after == some '\n' && before != some '\r')
  | word edge ascii =>
    let isWord := fun (c : Option Char) => c.any fun c => if ascii then isAsciiWord c else isWordChar c
    match edge with
    | .boundary => isWord before != isWord after
    | .noBoundary => isWord before == isWord after
    | .start => !isWord before && isWord after
    | .finish => isWord before && !isWord after
    | .halfStart => !isWord before
    | .halfFinish => !isWord after

/-- Places remembered so far, the latest first, each with its slot. -/
abbrev Slots := List (Nat × Nat)

/-- A way still to be tried: an instruction, a place and the places remembered on the way there. -/
structure Way where
  instr : Nat
  place : Nat
  slots : Slots

/-- The ways that an instruction opens, in the order of preference. -/
def waysFrom (text : Array Char) (w : Way) : Instr → List Way
  | .accept => []
  | .chars k next =>
    match text[w.place]? with
    | some c => if k.has c then [⟨next, w.place + 1, w.slots⟩] else []
    | none => []
  | .look l next => if l.holds text w.place then [⟨next, w.place, w.slots⟩] else []
  | .save slot next => [⟨next, w.place, (slot, w.place) :: w.slots⟩]
  | .split preferred other => [⟨preferred, w.place, w.slots⟩, ⟨other, w.place, w.slots⟩]

/-- Which pairs of an instruction and a place have been tried. -/
abbrev Tried := ByteArray

/-- Tries the ways on the stack until one is accepted. `fuel` is the number of pairs that may still be tried. -/
def explore (program : Program) (text : Array Char) :
    (fuel : Nat) → List Way → Tried → Option (Nat × Slots) × Tried
  | _, [], tried => (none, tried)
  | 0, _ :: _, tried => (none, tried)
  | fuel + 1, w :: rest, tried =>
    let pair := w.instr * (text.size + 1) + w.place
    if tried.get! pair ≠ 0 then explore program text fuel rest tried
    else match program.code[w.instr]? with
      | some .accept => (some (w.place, w.slots), tried)
      | some i => explore program text fuel (waysFrom text w i ++ rest) (tried.set! pair 1)
      | none => explore program text fuel rest tried

/-- A match: where it begins and ends, and the places of its groups. -/
structure Match where
  start : Nat
  stop : Nat
  slots : Slots

/-- Tries each place from `start` on as the beginning of a match. -/
def searchFrom (program : Program) (text : Array Char) (fuel : Nat) :
    (count : Nat) → (start : Nat) → Tried → Option Match
  | 0, _, _ => none
  | count + 1, start, tried =>
    match explore program text fuel [⟨program.entry, start, []⟩] tried with
    | (some (stop, slots), _) => some ⟨start, stop, slots⟩
    | (none, tried) => searchFrom program text fuel count (start + 1) tried

/-- The leftmost match that begins at `start` or later. -/
def Program.search? (program : Program) (text : Array Char) (start : Nat) : Option Match :=
  if text.size < start then none
  else
    let pairs := program.code.size * (text.size + 1)
    -- each pair is tried once and puts at most two ways on the stack
    searchFrom program text (2 * pairs + 2) (text.size + 1 - start) start ⟨Array.replicate pairs 0⟩

/-- The place of a group. -/
def Match.group? (m : Match) (index : Nat) : Option (Nat × Nat) :=
  if index = 0 then some (m.start, m.stop)
  else match m.slots.lookup (2 * index), m.slots.lookup (2 * index + 1) with
    | some start, some stop => some (start, stop)
    | _, _ => none

/-- The matches from `start` on. An empty match that begins where the last one ended is passed over. -/
def matchesFrom (program : Program) (text : Array Char) :
    (fuel : Nat) → (start : Nat) → (last : Option Nat) → List Match
  | 0, _, _ => []
  | fuel + 1, start, last =>
    match program.search? text start with
    | none => []
    | some m =>
      if m.start = m.stop ∧ last = some m.stop then
        match program.search? text (start + 1) with
        | none => []
        | some m => m :: matchesFrom program text fuel m.stop (some m.stop)
      else m :: matchesFrom program text fuel m.stop (some m.stop)

/-- All matches that do not overlap, from left to right. -/
def Program.allMatches (program : Program) (text : Array Char) : List Match :=
  matchesFrom program text (2 * text.size + 2) 0 none

end CellExpr.Pattern
