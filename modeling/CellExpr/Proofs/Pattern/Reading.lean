import CellExpr.Pattern.Regex

/-!
# Reading patterns

How a reader goes on from what it has read, and what becomes of a pattern that is put between `^(?:` and `)$`: if the pattern is read up
to the closing parenthesis, the whole is its tree between the start and the end of the text (`run_readBranches_anchored`).
-/

namespace CellExpr.Pattern

variable {α β : Type} {s : Cursor} {c : Char} {r : List Char} {f : Flags} {count : Nat} {names : List String}

namespace Reader

theorem run_bind (m : Reader α) (k : α → Reader β) (s : Cursor) : (m >>= k).run s = (m.run s).bind fun p => (k p.1).run p.2 :=
  StateT.run_bind m k s

theorem run_rest (s : Cursor) : rest.run s = some (s.rest, s) := rfl

theorem run_flags (s : Cursor) : flags.run s = some (s.flags, s) := rfl

theorem run_peek (h : s.rest = c :: r) : peek.run s = some (c, s) := by
  obtain ⟨_, f, count, names⟩ := s
  cases h
  rfl

theorem run_bump (h : s.rest = c :: r) : bump.run s = some (c, { s with rest := r }) := by
  obtain ⟨_, f, count, names⟩ := s
  cases h
  rfl

theorem run_skip (h : s.flags.free = false) : skip.run s = some ((), s) := by
  rw [skip, run_bind, run_flags, Option.bind_some, if_neg (by rw [h]; exact Bool.false_ne_true)]
  rfl

end Reader

open Reader

/-! ## Branches -/

variable {fuel : Nat} {done items : List Part}

/-- A character that begins a part which is neither a group nor a class in brackets nor a repetition, and that ends no branch. -/
def IsSimple (c : Char) : Prop := c ∉ [')', '|', '(', '[', '?', '*', '+', '\x7b']

instance (c : Char) : Decidable (IsSimple c) := inferInstanceAs (Decidable (c ∉ _))

theorem run_readBranches_simple (hfree : f.free = false) (hc : IsSimple c) :
    (readBranches (fuel + 1) done items).run ⟨c :: r, f, count, names⟩ =
      (readSimple.run ⟨c :: r, f, count, names⟩).bind fun p => (readBranches fuel done (⟨p.1, 0, false⟩ :: items)).run p.2 := by
  rw [readBranches, run_bind, run_skip hfree, Option.bind_some, run_bind, run_rest, Option.bind_some]
  dsimp only
  split <;> rename_i h
  case h_1 => cases h
  case h_10 => exact run_bind _ _ _
  all_goals
    obtain ⟨rfl, -⟩ := List.cons.inj h
    exact absurd hc (by decide)

theorem run_readBranches_nil (hfree : f.free = false) :
    (readBranches (fuel + 1) done items).run ⟨[], f, count, names⟩ = some (readBranches.close done items, ⟨[], f, count, names⟩) := by
  rw [readBranches, run_bind, run_skip hfree, Option.bind_some, run_bind, run_rest, Option.bind_some]
  rfl

theorem run_readBranches_closed (hfree : f.free = false) :
    (readBranches (fuel + 1) done items).run ⟨')' :: r, f, count, names⟩ =
      some (readBranches.close done items, ⟨')' :: r, f, count, names⟩) := by
  rw [readBranches, run_bind, run_skip hfree, Option.bind_some, run_bind, run_rest, Option.bind_some]
  rfl

theorem close_nil (items : List Part) : readBranches.close [] items = Part.row items.reverse := rfl

/-! ## Patterns for whole texts -/

/-- The options at the start of a pattern. -/
abbrev startFlags (ignoreCase : Bool) : Flags := { ignoreCase }

/-- A tree between the start and the end of the text. -/
def Node.anchored (node : Node) : Node := Node.row [.look .textStart, node, .look .textEnd]

/-- The characters that make a pattern match whole texts alone. -/
def anchoredSource (source : List Char) : List Char := '^' :: '(' :: '?' :: ':' :: (source ++ [')', '$'])

variable {ignoreCase : Bool} {source : List Char} {part : Part}

/-- Before the pattern stands a condition and the start of a group that is not remembered. -/
theorem run_readBranches_anchoredStart :
    (readBranches (fuel + 2) [] []).run ⟨anchoredSource source, startFlags ignoreCase, 0, []⟩ =
      ((readBranches fuel [] []).run ⟨source ++ [')', '$'], startFlags ignoreCase, 0, []⟩).bind fun p => (do
        if (← bump) ≠ ')' then failure
        setFlags (startFlags ignoreCase)
        readBranches fuel [] [⟨p.1.node, p.1.depth + 1, false⟩, ⟨.look .textStart, 0, false⟩] : Reader Part).run p.2 := by
  rfl

/-- If the pattern is read up to the parenthesis after it, the whole is its tree between the start and the end of the text. -/
theorem run_readBranches_anchored {flags' : Flags} (hfuel : 2 ≤ fuel)
    (h : (readBranches fuel [] []).run ⟨source ++ [')', '$'], startFlags ignoreCase, 0, []⟩ =
      some (part, ⟨[')', '$'], flags', count, names⟩)) :
    (readBranches (fuel + 2) [] []).run ⟨anchoredSource source, startFlags ignoreCase, 0, []⟩ =
      some (⟨part.node.anchored, part.depth + 2, false⟩, ⟨[], startFlags ignoreCase, count, names⟩) := by
  obtain ⟨fuel, rfl⟩ := Nat.exists_eq_add_of_le' hfuel
  have hend : readSimple.run ⟨['$'], startFlags ignoreCase, count, names⟩ =
    some (.look .textEnd, ⟨[], startFlags ignoreCase, count, names⟩) := rfl
  rw [run_readBranches_anchoredStart, h, Option.bind_some]
  show (readBranches (fuel + 2) [] [⟨part.node, part.depth + 1, false⟩, ⟨.look .textStart, 0, false⟩]).run
    ⟨['$'], startFlags ignoreCase, count, names⟩ = _
  rw [run_readBranches_simple rfl (by decide), hend, Option.bind_some, run_readBranches_nil rfl, close_nil]
  have hdepth : max (max (max 0 0) (part.depth + 1)) 0 + 1 = part.depth + 2 := by omega
  exact congrArg (fun depth => some ((⟨part.node.anchored, depth, false⟩ : Part), (⟨[], _, count, names⟩ : Cursor))) hdepth

/-- If all that follows is passed over after the pattern, its group is never closed. -/
theorem run_readBranches_unclosed {flags' : Flags}
    (h : (readBranches fuel [] []).run ⟨source ++ [')', '$'], startFlags ignoreCase, 0, []⟩ =
      some (part, ⟨[], flags', count, names⟩)) :
    (readBranches (fuel + 2) [] []).run ⟨anchoredSource source, startFlags ignoreCase, 0, []⟩ = none := by
  rw [run_readBranches_anchoredStart, h]
  rfl

/-! ## Trees -/

/-- The tree of a pattern and how deep it is nested, whatever the depth. -/
def readPart? (source : List Char) (ignoreCase : Bool) : Option (Part × Cursor) :=
  (readBranches (source.length + 1) [] []).run { rest := source, flags := startFlags ignoreCase }

theorem read?_eq_some_iff {node : Node} : read? source ignoreCase = some node ↔
    ∃ p, readPart? source ignoreCase = some p ∧ p.2.rest = [] ∧ p.1.depth ≤ maxDepth ∧ p.1.node = node := by
  have hread : read? source ignoreCase = (readPart? source ignoreCase).bind fun p =>
    if p.2.rest.isEmpty ∧ p.1.depth ≤ maxDepth then some p.1.node else none := rfl
  rw [hread, Option.bind_eq_some_iff]
  refine exists_congr fun p => and_congr_right fun _ => ?_
  rw [Option.ite_none_right_eq_some, List.isEmpty_iff, Option.some.injEq, and_assoc]

end CellExpr.Pattern
