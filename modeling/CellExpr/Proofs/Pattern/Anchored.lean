import CellExpr.Proofs.Pattern.Exploration
import CellExpr.Proofs.Pattern.Reading

/-!
# Whole texts

Between the start and the end of a text a tree matches this text as a whole or nothing (`firstMatch?_anchored`), and it has the groups
that it has alone. A regular expression has such a counterpart if the pattern that is put together from its source can be read and does
not grow too large (`exists_build_iff`).
-/

namespace CellExpr

open CellExpr.Pattern Relation

namespace Pattern

variable {text : Array Char} {node : Node} {a b : Spot} {place : Nat}

/-! ## Trees -/

theorem textStart_holds_iff (hplace : place ≤ text.size) : Look.textStart.holds text place = true ↔ place = 0 := by
  show (before? text place).isNone = true ↔ place = 0
  cases place with
  | zero => exact iff_of_true rfl rfl
  | succ place =>
    refine iff_of_false (fun hnone => ?_) (Nat.succ_ne_zero place)
    have hbefore : text[place]? = none := Option.isNone_iff_eq_none.1 hnone
    exact absurd (Array.getElem?_eq_none_iff.1 hbefore) (Nat.not_le_of_lt hplace)

theorem textEnd_holds_iff : Look.textEnd.holds text place = true ↔ text.size ≤ place := by
  show text[place]?.isNone = true ↔ text.size ≤ place
  rw [Option.isNone_iff_eq_none, Array.getElem?_eq_none_iff]

theorem matches_anchored : node.anchored.Matches text a b ↔
    Look.textStart.holds text a.1 = true ∧ node.Matches text a b ∧ text.size ≤ b.1 := by
  have hrow : node.anchored.Matches text = Node.MatchesAll text [.look .textStart, node, .look .textEnd] := Node.matches_row _
  rw [hrow]
  constructor
  · rintro ⟨_, ⟨hstart, rfl⟩, _, hnode, _, ⟨hend, rfl⟩, rfl⟩
    exact ⟨hstart, hnode, textEnd_holds_iff.1 hend⟩
  · rintro ⟨hstart, hnode, hend⟩
    exact ⟨a, ⟨hstart, rfl⟩, b, hnode, b, ⟨textEnd_holds_iff.2 hend, rfl⟩, rfl⟩

theorem groups_anchored (node : Node) : node.anchored.groups = node.groups := by
  rw [Node.anchored, Node.groups_row]
  exact List.append_nil _

/-! ## Programs -/

/-- The groups of a tree and the whole match. -/
def Node.groupCount (node : Node) : Nat := node.groups.foldl (fun n (index, _) => max n (index + 1)) 1

/-- The groups are counted up to the last one, which is the one with the greatest index. -/
theorem max?_groups (node : Node) : (0 :: node.groups.map Prod.fst).max? = some (node.groupCount - 1) := by
  have hmax : (1 :: node.groups.map fun g => g.1 + 1).max? = some node.groupCount := by
    rw [List.max?_cons', List.foldl_map]
    rfl
  obtain ⟨hmem, hle⟩ := List.max?_eq_some_iff.1 hmax
  refine List.max?_eq_some_iff.2 ⟨?_, fun index hindex => ?_⟩
  · rcases List.mem_cons.1 hmem with hone | hmem
    · exact List.mem_cons.2 (.inl (by rw [hone]))
    · obtain ⟨g, hg, hcount⟩ := List.mem_map.1 hmem
      exact List.mem_cons_of_mem _ (List.mem_map.2 ⟨g, hg, by rw [← hcount, Nat.add_sub_cancel]⟩)
  · rcases List.mem_cons.1 hindex with rfl | hindex
    · exact Nat.zero_le _
    · obtain ⟨g, hg, rfl⟩ := List.mem_map.1 hindex
      exact Nat.le_sub_one_of_lt (hle (g.1 + 1) (List.mem_cons_of_mem _ (List.mem_map.2 ⟨g, hg, rfl⟩)))

theorem groupCount_of_compile? {program : Program} (h : node.compile? = some program) : program.groupCount = node.groupCount := by
  rw [Node.compile?] at h
  split at h
  · obtain rfl := Option.some.inj h
    rfl
  · cases h

theorem isSome_compile? (node : Node) : node.compile?.isSome = node.fits := by
  rw [Node.compile?]
  split
  · rename_i hfits
    exact hfits.symm
  · rename_i hfits
    exact (Bool.eq_false_iff.2 hfits).symm

end Pattern

/-! ## Regular expressions -/

namespace Regex

variable {r whole : Regex} {s : List Char}

/-- There is a regular expression with a source just if this is read as a tree for which there is room. -/
theorem exists_build_iff {source : String} {ignoreCase : Bool} :
    (∃ r, build source ignoreCase = .ok r) ↔ ∃ node, read? source.toList ignoreCase = some node ∧ node.fits = true := by
  have hcompile : (∃ r, build source ignoreCase = .ok r) ↔ ∃ program, Pattern.compile? source ignoreCase = some program := by
    constructor
    · rintro ⟨r, hr⟩
      obtain ⟨rfl, rfl⟩ := build_eq_ok_iff.1 hr
      exact ⟨r.program, r.compiled⟩
    · rintro ⟨program, hprogram⟩
      exact ⟨⟨source, ignoreCase, program, hprogram⟩, build_eq_ok_iff.2 ⟨rfl, rfl⟩⟩
  rw [hcompile, ← Option.isSome_iff_exists, Pattern.compile?, Option.isSome_bind]
  cases read? source.toList ignoreCase with
  | none =>
    refine iff_of_false Bool.false_ne_true ?_
    rintro ⟨node, hnode, -⟩
    cases hnode
  | some node =>
    rw [Option.any_some, isSome_compile?]
    constructor
    · exact fun hfits => ⟨node, rfl, hfits⟩
    · rintro ⟨_, hnode, hfits⟩
      rwa [Option.some.inj hnode]

theorem build_of_compile?_eq_none {source : String} {ignoreCase : Bool} (h : Pattern.compile? source ignoreCase = none) :
    build source ignoreCase = .error (if (read? source.toList ignoreCase).isSome then .tooLarge else .malformed source) := by
  have hnone : of? source ignoreCase = none := by
    unfold of?
    split
    · rename_i program hprogram
      cases h.symm.trans hprogram
    · rfl
  rw [build, hnone]

/-- A source that cannot be read is refused as malformed. -/
theorem build_of_read?_eq_none {source : String} {ignoreCase : Bool} (h : read? source.toList ignoreCase = none) :
    build source ignoreCase = .error (.malformed source) := by
  rw [build_of_compile?_eq_none (by rw [Pattern.compile?, h, Option.bind_none]), h]
  rfl

/-- A source for whose tree there is no room is refused as too large. -/
theorem build_of_not_fits {source : String} {ignoreCase : Bool} {node : Node} (h : read? source.toList ignoreCase = some node)
    (hfits : node.fits = false) : build source ignoreCase = .error .tooLarge := by
  have hcompile : node.compile? = none := Option.not_isSome_iff_eq_none.1 (by rw [isSome_compile?, hfits]; exact Bool.false_ne_true)
  rw [build_of_compile?_eq_none (by rw [Pattern.compile?, h, Option.bind_some, hcompile]), h]
  rfl

theorem tree_of_build {source : String} {ignoreCase : Bool} {node : Node} (h : build source ignoreCase = .ok r)
    (hread : read? source.toList ignoreCase = some node) : r.tree = node := by
  obtain ⟨rfl, rfl⟩ := build_eq_ok_iff.1 h
  exact tree_eq_of_read? hread

theorem toList_anchored (source : String) : ("^(?:" ++ source ++ ")$").toList = anchoredSource source.toList := by
  rw [String.toList_append, String.toList_append]
  rfl

/-- The counterpart for whole texts has the tree that is read from the pattern put together. -/
theorem read?_of_anchored (h : r.anchored = .ok whole) : read? (anchoredSource r.source.toList) r.ignoreCase = some whole.tree := by
  obtain ⟨hsource, hcase⟩ := build_eq_ok_iff.1 h
  rw [← toList_anchored, ← hsource, ← hcase]
  exact whole.read?_eq

/-- There is a counterpart for whole texts if the pattern put together is read as a tree for which there is room. -/
theorem exists_anchored_of_read? {node : Node} (hread : read? (anchoredSource r.source.toList) r.ignoreCase = some node)
    (hfits : node.fits = true) : ∃ whole, r.anchored = .ok whole :=
  exists_build_iff.2 ⟨node, by rwa [toList_anchored], hfits⟩

/-- There is none if the pattern put together cannot be read. -/
theorem anchored_of_read?_eq_none (hread : read? (anchoredSource r.source.toList) r.ignoreCase = none) :
    r.anchored = .error (.malformed ("^(?:" ++ r.source ++ ")$")) :=
  build_of_read?_eq_none (by rwa [toList_anchored])

theorem groupCount_eq (r : Regex) : r.program.groupCount = r.tree.groupCount := groupCount_of_compile? r.compile?_tree

theorem groupCount_anchored (h : whole.tree = r.tree.anchored) : whole.program.groupCount = r.program.groupCount := by
  rw [groupCount_eq, groupCount_eq, h, Node.groupCount, groups_anchored]
  rfl

theorem matchesFrom_anchored (h : whole.tree = r.tree.anchored) {start : Nat} {b : Spot} (hstart : start ≤ s.length) :
    whole.MatchesFrom s start b ↔ start = 0 ∧ r.MatchesFrom s start b ∧ s.length ≤ b.1 := by
  rw [MatchesFrom, h, matches_anchored, textStart_holds_iff (by rwa [List.size_toArray]), List.size_toArray, MatchesFrom]

/-- The counterpart for whole texts finds the text as a whole if the regular expression matches it so, else nothing. -/
theorem firstMatch?_anchored (h : whole.tree = r.tree.anchored) (s : List Char) :
    (∃ slots, whole.firstMatch? s = some ⟨0, s.length, slots⟩ ∧ r.MatchesFrom s 0 (s.length, slots)) ∨
      whole.firstMatch? s = none ∧ ∀ slots, ¬r.MatchesFrom s 0 (s.length, slots) := by
  cases hfound : whole.firstMatch? s with
  | none =>
    refine .inr ⟨rfl, fun slots hmatch => search?_eq_none_tree hfound (Nat.le_refl 0) (Nat.zero_le _) (s.length, slots) ?_⟩
    exact (matchesFrom_anchored h (Nat.zero_le _)).2 ⟨rfl, hmatch, Nat.le_refl _⟩
  | some m =>
    obtain ⟨start, stop, slots⟩ := m
    obtain ⟨-, hstart, hstop⟩ := firstMatch?_isWithin hfound
    obtain ⟨rfl, hmatch, hlength⟩ := (matchesFrom_anchored h (Nat.le_trans hstart hstop)).1 (search?_eq_some_tree hfound).1
    obtain rfl := Nat.le_antisymm hstop hlength
    exact .inl ⟨slots, rfl, hmatch⟩

end Regex

end CellExpr
