import CellExpr.Proofs.Function.Patterns
import CellExpr.Proofs.Pattern.Anchored
import CellExpr.Proofs.Pattern.LiteralMatches
import CellExpr.Proofs.Pattern.TailReaders

/-!
# Matching whole texts

`match` puts a pattern together from the source of a regular expression. If this can be read and there is room for it, the groups of the
regular expression are returned for the texts that it matches as a whole, and null for all others (`call_match_regex`). If not, every call
with the regular expression is an error.

The pattern put together is read as the tree of the regular expression between the start and the end of a text (`tree_of_anchored`), or it
is no pattern. It is none if a comment at the end of the source takes the parenthesis after it with it, or if the two levels of nesting
that are added are too many (`read?_anchored_iff`).
-/

namespace CellExpr

open CellExpr.Pattern

namespace Regex

variable {r whole : Regex} {node : Node}

/-- How deep the tree is nested. -/
def depth (r : Regex) : Nat := ((readPart? r.source.toList r.ignoreCase).map fun p => p.1.depth).getD 0

/-- What is put after the source would be passed over, as part of a comment. -/
def EndsInComment (r : Regex) : Prop := ∃ p, readPart? (r.source.toList ++ [')', '$']) r.ignoreCase = some p ∧ p.2.rest = []

/-- The source is read to its end as a part that is not nested too deep. -/
theorem exists_readPart (r : Regex) : ∃ p, readPart? r.source.toList r.ignoreCase = some p ∧ p.2.rest = [] ∧ p.1.depth = r.depth ∧
    r.depth ≤ maxDepth ∧ p.1.node = r.tree := by
  obtain ⟨p, hread, hrest, hdepth, hnode⟩ := read?_eq_some_iff.1 r.read?_eq
  have heq : r.depth = p.1.depth := by
    rw [depth, hread]
    rfl
  exact ⟨p, hread, hrest, heq.symm, heq ▸ hdepth, hnode⟩

/-- Before a parenthesis the source is read as the same part, up to the parenthesis or, with a comment, to the end. -/
theorem exists_readPart_closing (r : Regex) : ∃ part tail flags count names,
    readPart? (r.source.toList ++ [')', '$']) r.ignoreCase = some (part, ⟨tail, flags, count, names⟩) ∧
      part.depth = r.depth ∧ part.node = r.tree ∧ (tail = [')', '$'] ∨ tail = [] ∧ MarkedAtEnd r.source.toList) := by
  obtain ⟨⟨part, s⟩, hread, hrest, hdepth, -, hnode⟩ := r.exists_readPart
  have hbound : r.source.toList.length + 1 ≤ (r.source.toList ++ [')', '$']).length + 1 := by
    rw [List.length_append]
    omega
  obtain ⟨-, tail, htail, hrun⟩ := reads_readBranches hbound [] [] _ _ .closing part s hread
  obtain ⟨l, flags, count, names⟩ := s
  obtain rfl : l = [] := hrest
  exact ⟨part, tail, flags, count, names, hrun, hdepth, hnode, htail⟩

/-- A comment at the end of the source begins in its last line. -/
theorem EndsInComment.markedAtEnd (h : r.EndsInComment) : MarkedAtEnd r.source.toList := by
  obtain ⟨p, hread, hrest⟩ := h
  obtain ⟨part, tail, flags, count, names, hread', -, -, htail⟩ := r.exists_readPart_closing
  obtain rfl := Option.some.inj (hread.symm.trans hread')
  rcases htail with rfl | ⟨-, hmarked⟩
  · cases hrest
  · exact hmarked

/-- The pattern for whole texts is read as the tree between the start and the end of a text. It is no pattern if the source ends in a
comment or is nested too deep. -/
theorem read?_anchored_iff : read? (anchoredSource r.source.toList) r.ignoreCase = some node ↔
    ¬r.EndsInComment ∧ r.depth + 2 ≤ maxDepth ∧ node = r.tree.anchored := by
  obtain ⟨part, tail, flags, count, names, hread, hdepth, hnode, htail⟩ := r.exists_readPart_closing
  -- more characters than those of the source may be read here
  have hbound : (r.source.toList ++ [')', '$']).length + 1 ≤ (r.source.toList ++ [')', '$']).length + 3 := Nat.le_add_right _ 2
  obtain ⟨-, tail', htail', hrun⟩ := reads_readBranches hbound [] [] _ _ .none _ _ hread
  obtain rfl : tail' = [] := htail'.elim id And.left
  rw [Cursor.before_nil, Cursor.before_nil] at hrun
  have hlength : (anchoredSource r.source.toList).length + 1 = (r.source.toList ++ [')', '$']).length + 3 + 2 := by
    simp only [anchoredSource, List.length_cons]
  rcases htail with rfl | ⟨rfl, -⟩
  · have hends : ¬r.EndsInComment := by
      rintro ⟨p, hp, hrest⟩
      obtain rfl := Option.some.inj (hread.symm.trans hp)
      cases hrest
    have hanchored := run_readBranches_anchored (Nat.le_add_left _ _) hrun
    rw [read?_eq_some_iff, readPart?, hlength]
    constructor
    · rintro ⟨p, hp, -, hle, rfl⟩
      obtain rfl := Option.some.inj (hanchored.symm.trans hp)
      exact ⟨hends, hdepth ▸ hle, congrArg Node.anchored hnode⟩
    · rintro ⟨-, hle, rfl⟩
      exact ⟨_, hanchored, rfl, by rw [← hdepth] at hle; exact hle, congrArg Node.anchored hnode⟩
  · have hends : r.EndsInComment := ⟨_, hread, rfl⟩
    refine iff_of_false (fun h => ?_) fun h => h.1 hends
    obtain ⟨p, hp, -⟩ := read?_eq_some_iff.1 h
    rw [readPart?, hlength] at hp
    cases hp.symm.trans (run_readBranches_unclosed hrun)

/-- A regular expression has a counterpart for whole texts unless its source ends in a comment or it is nested too deep or there is no
room for it. -/
theorem exists_anchored_iff : (∃ whole, r.anchored = .ok whole) ↔
    ¬r.EndsInComment ∧ r.depth + 2 ≤ maxDepth ∧ r.tree.anchored.fits = true := by
  rw [anchored, exists_build_iff, toList_anchored]
  constructor
  · rintro ⟨node, hread, hfits⟩
    obtain ⟨hends, hle, rfl⟩ := read?_anchored_iff.1 hread
    exact ⟨hends, hle, hfits⟩
  · rintro ⟨hends, hle, hfits⟩
    exact ⟨_, read?_anchored_iff.2 ⟨hends, hle, rfl⟩, hfits⟩

/-- A pattern for whole texts that cannot be read is refused as malformed. -/
theorem anchored_of_unreadable (h : r.EndsInComment ∨ maxDepth < r.depth + 2) :
    r.anchored = .error (.malformed ("^(?:" ++ r.source ++ ")$")) := by
  refine anchored_of_read?_eq_none (Option.eq_none_iff_forall_ne_some.2 fun node hread => ?_)
  obtain ⟨hends, hle, -⟩ := read?_anchored_iff.1 hread
  exact h.elim hends (Nat.not_lt_of_le hle)

/-- One that can be read is refused as too large if there is no room for it. -/
theorem anchored_of_not_fits (hends : ¬r.EndsInComment) (hdepth : r.depth + 2 ≤ maxDepth) (hfits : r.tree.anchored.fits = false) :
    r.anchored = .error .tooLarge :=
  build_of_not_fits (by rw [toList_anchored]; exact read?_anchored_iff.2 ⟨hends, hdepth, rfl⟩) hfits

/-- The counterpart has the tree of the regular expression between the start and the end of a text. -/
theorem tree_of_anchored (h : r.anchored = .ok whole) : whole.tree = r.tree.anchored :=
  (read?_anchored_iff.1 (read?_of_anchored h)).2.2

end Regex

/-! ## Calls -/

/-- Matching with a regular expression. Unless its source ends in a comment, it is nested too deep or there is no room left, it has a
counterpart for whole texts, and this is its tree between the start and the end of a text. Then the groups up to the last one of the tree
are returned for just those texts that it can match as a whole, and null for the others. In the cases left every call is an error. -/
theorem call_match_regex (now : Calendar.Instant) (scope : Scope) (r : Regex) :
    ((∃ whole, r.anchored = .ok whole) ↔ ¬r.EndsInComment ∧ r.depth + 2 ≤ maxDepth ∧ r.tree.anchored.fits = true) ∧
    (r.EndsInComment → MarkedAtEnd r.source.toList) ∧
    (0 :: r.tree.groups.map Prod.fst).max? = some (r.program.groupCount - 1) ∧
    (∀ whole, r.anchored = .ok whole → whole.tree = r.tree.anchored ∧ ∀ s : String,
      (∃ slots, r.MatchesFrom s.toList 0 (s.toList.length, slots) ∧
        ((Registry.standard now).call "match" [.string s, .regex r] scope).value =
          .array ((List.range (r.program.groupCount - 1)).map fun i => groupValue s.toList ⟨0, s.toList.length, slots⟩ (i + 1))) ∨
        (∀ slots, ¬r.MatchesFrom s.toList 0 (s.toList.length, slots)) ∧
          ((Registry.standard now).call "match" [.string s, .regex r] scope).value = .null) ∧
    (r.EndsInComment ∨ maxDepth < r.depth + 2 → ∀ s : String,
      ((Registry.standard now).call "match" [.string s, .regex r] scope).value =
        .error (patternError (.malformed ("^(?:" ++ r.source ++ ")$")))) ∧
    (¬r.EndsInComment → r.depth + 2 ≤ maxDepth → r.tree.anchored.fits = false → ∀ s : String,
      ((Registry.standard now).call "match" [.string s, .regex r] scope).value = .error (patternError .tooLarge)) := by
  refine ⟨Regex.exists_anchored_iff, Regex.EndsInComment.markedAtEnd, ?_, ?_, fun hunreadable s => ?_, fun hends hdepth hfits s => ?_⟩
  · rw [Regex.groupCount_eq, max?_groups]
  · intro whole hwhole
    have htree := Regex.tree_of_anchored hwhole
    exact ⟨htree, fun s => @call_match_of_anchored now scope (.regex r) r rfl s whole hwhole htree⟩
  · exact @call_match_of_error now scope (.regex r) r rfl s _ (Regex.anchored_of_unreadable hunreadable)
  · exact @call_match_of_error now scope (.regex r) r rfl s _ (Regex.anchored_of_not_fits hends hdepth hfits)

/-- The second one of two branches matches the whole text, so that the group of the first one is null. -/
theorem call_match_regex_branches :
    let now : Calendar.Instant := ⟨0, 0, by decide⟩
    ∃ r, Regex.build "(?m)(a)$|(b)" false = .ok r ∧ (∃ whole, r.anchored = .ok whole) ∧ ¬r.EndsInComment ∧
      ((Registry.standard now).call "match" [.string "b", .regex r] []).value = .array [.null, .string "b"] := by
  intro now
  let node : Node := .alt (.seq (.group 1 none (.chars (.single 'a'))) (.look .lineEnd)) (.group 2 none (.chars (.single 'b')))
  have hread : read? "(?m)(a)$|(b)".toList false = some node := by decide +kernel
  have hreadWhole : read? (anchoredSource "(?m)(a)$|(b)".toList) false = some node.anchored := by decide +kernel
  have hfits : node.anchored.fits = true := by decide +kernel
  obtain ⟨r, hr⟩ := Regex.exists_build_iff.2 ⟨node, hread, by decide +kernel⟩
  have htree : r.tree = node := Regex.tree_of_build hr hread
  obtain ⟨hsource, hcase⟩ := Regex.build_eq_ok_iff.1 hr
  rw [← hsource, ← hcase] at hreadWhole
  obtain ⟨hanchored, -, hgroups, hmatch, -⟩ := call_match_regex now [] r
  obtain ⟨whole, hwhole⟩ := Regex.exists_anchored_of_read? hreadWhole hfits
  refine ⟨r, hr, ⟨whole, hwhole⟩, (hanchored.1 ⟨whole, hwhole⟩).1, ?_⟩
  rw [htree] at hgroups
  have hcount : r.program.groupCount - 1 = 2 := Option.some.inj (hgroups.symm.trans (by decide))
  have hslots : ∀ slots, r.MatchesFrom "b".toList 0 ("b".toList.length, slots) ↔ slots = [(5, 1), (4, 0)] := by
    intro slots
    rw [Regex.MatchesFrom, htree]
    constructor
    · rintro (⟨_, ⟨_, ⟨⟨c, hc, ha⟩, -⟩, -⟩, -⟩ | ⟨_, ⟨-, hbody⟩, hslots⟩)
      · obtain rfl : 'b' = c := Option.some.inj hc
        exact absurd ha (by decide)
      · obtain rfl := (Prod.mk.inj hbody).2
        exact hslots
    · rintro rfl
      exact .inr ⟨[(4, 0)], ⟨⟨'b', rfl, by decide⟩, rfl⟩, rfl⟩
  rcases (hmatch whole hwhole).2 "b" with ⟨slots, hmatches, hcall⟩ | ⟨hno, -⟩
  · obtain rfl := (hslots slots).1 hmatches
    rw [hcall, hcount]
    rfl
  · exact absurd ((hslots _).2 rfl) (hno _)

/-- A comment at the end takes what is put after it with it, so that a pattern that matches the whole text is refused. -/
theorem call_match_comment :
    let now : Calendar.Instant := ⟨0, 0, by decide⟩
    ∃ r, Regex.build "(?x)a #c" false = .ok r ∧ r.EndsInComment ∧ r.MatchesFrom "a".toList 0 ("a".toList.length, []) ∧
      ((Registry.standard now).call "match" [.string "a", .regex r] []).value.isError = true := by
  intro now
  have hread : read? "(?x)a #c".toList false = some (literalNode ['a']) := by decide +kernel
  have hrest : (readPart? ("(?x)a #c".toList ++ [')', '$']) false).map (fun p => p.2.rest) = some [] := by decide +kernel
  obtain ⟨r, hr⟩ := Regex.exists_build_iff.2 ⟨_, hread, (fits_literalNode_iff _).2 (by decide)⟩
  have htree : r.tree = literalNode ['a'] := Regex.tree_of_build hr hread
  obtain ⟨hsource, hcase⟩ := Regex.build_eq_ok_iff.1 hr
  rw [← hsource, ← hcase] at hrest
  have hends : r.EndsInComment := Option.map_eq_some_iff.1 hrest
  refine ⟨r, hr, hends, (Regex.matchesFrom_literal_iff htree).2 ⟨by decide, rfl⟩, ?_⟩
  rw [@call_match_of_error now [] (.regex r) r rfl "a" _ (Regex.anchored_of_unreadable (.inl hends))]
  rfl

end CellExpr
