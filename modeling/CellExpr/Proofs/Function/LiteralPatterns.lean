import CellExpr.Proofs.Function.Patterns
import CellExpr.Proofs.Function.Searching
import CellExpr.Proofs.Function.Splitting
import CellExpr.Proofs.Pattern.LiteralMatches

/-!
# Literal texts as patterns

A literal text is looked for by comparing texts in some functions and with a regular expression in others. They agree on where it stands,
on its leftmost occurrences and on the pieces around these (`call_literalPattern`). The regular expression exists for texts that are not
too long.
-/

namespace CellExpr

open CellExpr.Pattern CellExpr.Text CellExpr.TextFunctions

variable {p s : List Char} {i : Nat}

/-! ## Occurrences -/

theorem Text.Occurrences.standsAt_of_mem {start : Nat} {places : List Nat} (h : Occurrences p s start places) :
    ∀ i ∈ places, StandsAt p s i := by
  induction h with
  | none => nofun
  | next hi _ ih => exact List.forall_mem_cons.2 ⟨hi.1.2, ih⟩

theorem isLeast_standsAt_iff : IsLeast {q | 0 ≤ q ∧ StandsAt p s q} i ↔ IsLeast {q | StandsAt p s q} i := by
  have hset : {q | 0 ≤ q ∧ StandsAt p s q} = {q | StandsAt p s q} := Set.ext fun q => and_iff_right (Nat.zero_le q)
  rw [hset]

theorem text_literalMatch (h : StandsAt p s i) : (literalMatch p i).text s = p := by
  show (s.drop i).take (i + p.length - i) = p
  rw [Nat.add_sub_cancel_left]
  exact (List.prefix_iff_eq_take.1 h.2).symm

theorem before_text_after {m : Match} (h : m.IsWithin s.length 0) : m.before s ++ (m.text s ++ m.after s) = s := by
  rw [Match.text, Match.after, slice_append_drop h.2.1, Match.before, List.take_append_drop]

namespace Regex

variable {r : Regex}

/-- The first match of a literal text is at its first position. -/
theorem firstMatch?_literal (h : r.tree = literalNode p) (s : List Char) :
    r.firstMatch? s = (firstPosition? p s).map (literalMatch p) := by
  rcases search?_literal h s 0 with ⟨i, hi, hfound⟩ | ⟨hnone, hfound⟩
  · cases hfirst : firstPosition? p s with
    | none => exact absurd hi.1.2 (not_standsAt_of_firstPosition? hfirst i)
    | some j =>
      obtain rfl := (standsAt_of_firstPosition? hfirst).unique (isLeast_standsAt_iff.1 hi)
      exact hfound
  · cases hfirst : firstPosition? p s with
    | none => exact hfound
    | some j => exact absurd (standsAt_of_firstPosition? hfirst).1 (hnone j (Nat.zero_le j))

/-- What is found of a literal text is this text each time. -/
theorem exists_findAll_literal (h : r.tree = literalNode p) (s : List Char) :
    ∃ places : List Nat, r.findAll s = places.map (literalMatch p) ∧ ∀ i ∈ places, StandsAt p s i := by
  by_cases hp : p = []
  · subst hp
    refine ⟨_, findAll_empty h s, fun i hi => ⟨?_, List.nil_prefix⟩⟩
    exact Nat.le_of_lt_succ (List.mem_range.1 hi)
  · obtain ⟨places, hplaces⟩ := exists_occurrences hp s 0
    exact ⟨places, findAll_literal h hp hplaces, hplaces.standsAt_of_mem⟩

theorem texts_findAll_literal (h : r.tree = literalNode p) (s : List Char) :
    (r.findAll s).map (·.text s) = List.replicate (r.findAll s).length p := by
  obtain ⟨places, hfound, hstands⟩ := exists_findAll_literal h s
  rw [hfound, List.map_map, List.length_map]
  refine List.eq_replicate_iff.2 ⟨List.length_map _, fun text htext => ?_⟩
  obtain ⟨i, hi, rfl⟩ := List.mem_map.1 htext
  exact text_literalMatch (hstands i hi)

theorem piecesFrom_literal (p s : List Char) (start : Nat) (places : List Nat) :
    piecesFrom s start (places.map (literalMatch p)) = piecesAround s p.length start places := by
  induction places generalizing start with
  | nil => rfl
  | cons i places ih => exact congrArg (slice s start i :: ·) (ih (i + p.length))

/-- Split at the matches of a literal text, a text has the pieces around its occurrences as tokens but for the empty ones at the end. -/
theorem splitPieces_literal (h : r.tree = literalNode p) (hs : s ≠ []) (hp : p ≠ []) :
    r.splitPieces true s = dropLastEmpty (splitLiteral p true s) := by
  obtain ⟨places, hplaces⟩ := exists_occurrences hp s 0
  have hcounts : (r.findAll s).filter (!·.isEmptyAtStart) = places.map (literalMatch p) := by
    rw [findAll_literal h hp hplaces]
    refine List.filter_eq_self.2 fun m hm => ?_
    obtain ⟨i, -, rfl⟩ := List.mem_map.1 hm
    have hpos := List.length_pos_iff.2 hp
    rw [Match.isEmptyAtStart, Bool.not_eq_true', Bool.and_eq_false_iff]
    exact .inr (beq_eq_false_iff_ne.2 (show i + p.length ≠ 0 by omega))
  rw [splitLiteral_eq_piecesAround hs hp hplaces, Regex.splitPieces, if_pos rfl, hcounts]
  cases places with
  | nil =>
    have hempty : s.isEmpty = false := List.isEmpty_eq_false_iff.2 hs
    show [s] = dropLastEmpty [s]
    rw [dropLastEmpty, List.reverse_singleton, List.dropWhile_cons, hempty]
    rfl
  | cons i places => exact congrArg dropLastEmpty (piecesFrom_literal p s 0 (i :: places))

/-- A literal text has no groups. -/
theorem groupCount_literal (h : r.tree = literalNode p) : r.program.groupCount = 1 := by
  have hgroups : (literalNode p).groups = [] := by
    rw [literalNode, Node.groups_row, List.flatMap_eq_nil_iff]
    intro node hnode
    obtain ⟨c, -, rfl⟩ := List.mem_map.1 hnode
    rfl
  rw [groupCount_eq, h, Node.groupCount, hgroups]
  rfl

end Regex

/-! ## The functions -/

theorem call_contains_text (now : Calendar.Instant) (scope : Scope) (s p : String) :
    ((Registry.standard now).call "contains" [.string s, .string p] scope).value =
      .boolean (firstPosition? p.toList s.toList).isSome := rfl

theorem call_indexOf_text (now : Calendar.Instant) (scope : Scope) (s p : String) :
    ((Registry.standard now).call "indexOf" [.string s, .string p] scope).value = numberOfPlace (firstPosition? p.toList s.toList) :=
  Outcome.value_toTraced (position_text false s p scope)

theorem call_lastIndexOf_text (now : Calendar.Instant) (scope : Scope) (s p : String) :
    ((Registry.standard now).call "lastIndexOf" [.string s, .string p] scope).value = numberOfPlace (lastPosition? p.toList s.toList) :=
  Outcome.value_toTraced (position_text true s p scope)

section

variable (now : Calendar.Instant) (scope : Scope) {p : String} {r : Regex} (h : Regex.ofLiteral p = .ok r) (s : String)

include h

theorem call_find_literal : ((Registry.standard now).call "find" [.string s, .string p] scope).value =
    .ofTexts (List.replicate (r.findAll s.toList).length p.toList) := by
  rw [call_find now scope (regexOf_ofLiteral h), Regex.texts_findAll_literal (Regex.tree_ofLiteral h)]

/-- A text is cut around a place at which a literal text stands. -/
theorem call_partition_literal {fromEnd : Bool} {i : Nat} (hi : StandsAt p.toList s.toList i)
    (hcut : cuttingMatch? fromEnd r s.toList = some (literalMatch p.toList i)) :
    ((Registry.standard now).call (partitionName fromEnd) [.string s, .string p] scope).value =
      .ofTexts [s.toList.take i, p.toList, s.toList.drop (i + p.toList.length)] := by
  rw [value_call_partition_default now scope (.literal p), call_partition now scope (regexOf_ofLiteral h), hcut]
  show Value.ofTexts [_, (literalMatch p.toList i).text s.toList, _] = _
  rw [text_literalMatch hi]
  rfl

/-- A literal text has no groups, and it matches no other text than itself. -/
theorem call_match_literal : ((Registry.standard now).call "match" [.string s, .string p] scope).value =
    if s = p then .array [] else .null := by
  obtain ⟨whole, hwhole, htree⟩ := Regex.exists_anchored_ofLiteral h
  have hliteral := Regex.tree_ofLiteral h
  rcases call_match_of_anchored now scope (regexOf_ofLiteral h) s hwhole htree with ⟨slots, hmatch, hcall⟩ | ⟨hno, hcall⟩
  · rw [hcall, Regex.groupCount_literal hliteral, if_pos (String.toList_inj.1 (Regex.eq_of_matchesWhole_literal hliteral hmatch))]
    rfl
  · rw [hcall, if_neg]
    rintro rfl
    exact hno [] (Regex.matchesWhole_literal hliteral)

/-- Where a literal text stands first, all functions find it. -/
theorem call_literal_of_some {i : Nat} (hplace : firstPosition? p.toList s.toList = some i) :
    ((Registry.standard now).call "contains" [.string s, .string p] scope).value = .boolean true ∧
      0 < (r.findAll s.toList).length ∧
      ((Registry.standard now).call "indexOf" [.string s, .string p] scope).value = .ofNat i ∧
      ((Registry.standard now).call "partition" [.string s, .string p] scope).value =
        .ofTexts [s.toList.take i, p.toList, s.toList.drop (i + p.toList.length)] := by
  have hfirst : r.firstMatch? s.toList = some (literalMatch p.toList i) := by
    rw [Regex.firstMatch?_literal (Regex.tree_ofLiteral h), hplace, Option.map_some]
  have hstands := (standsAt_of_firstPosition? hplace).1
  rw [call_contains_text, call_indexOf_text, hplace]
  refine ⟨rfl, List.length_pos_iff.2 fun hnil => ?_, rfl, @call_partition_literal now scope _ _ h s false i hstands hfirst⟩
  have hhead := (r.head?_findAll s.toList).trans hfirst
  rw [hnil] at hhead
  cases hhead

/-- If a literal text stands nowhere, no function finds it. -/
theorem call_literal_of_none (hplace : firstPosition? p.toList s.toList = none) :
    ((Registry.standard now).call "contains" [.string s, .string p] scope).value = .boolean false ∧
      ((Registry.standard now).call "find" [.string s, .string p] scope).value = .ofTexts [] ∧
      ((Registry.standard now).call "indexOf" [.string s, .string p] scope).value = .number (-1) ∧
      ((Registry.standard now).call "partition" [.string s, .string p] scope).value = .ofTexts [s.toList, [], []] := by
  have hfirst : r.firstMatch? s.toList = none := by
    rw [Regex.firstMatch?_literal (Regex.tree_ofLiteral h), hplace, Option.map_none]
  have hall : r.findAll s.toList = [] := List.head?_eq_none_iff.1 ((r.head?_findAll s.toList).trans hfirst)
  have hparts := call_partition now scope (regexOf_ofLiteral h) s false false
  rw [show cuttingMatch? false r s.toList = none from hfirst] at hparts
  rw [call_contains_text, call_indexOf_text, hplace, call_find_literal now scope h, hall]
  exact ⟨rfl, rfl, rfl, (value_call_partition_default now scope (.literal p) s false).trans hparts⟩

/-- The tokens of a text at a literal text, what is found of this and what replaces it. -/
theorem call_literal_tokens (hs : s ≠ "") (hp : p ≠ "") :
    (r.findAll s.toList).length + 1 = (splitLiteral p.toList true s.toList).length ∧
      (∀ w : String, ((Registry.standard now).call "replace" [.string s, .string p, .string w] scope).value =
        .ofChars (joinWith w.toList (splitLiteral p.toList true s.toList))) ∧
      ((Registry.standard now).call "split" [.string s, .regex r, .boolean true] scope).value =
        .ofTexts (dropLastEmpty (splitLiteral p.toList true s.toList)) := by
  have htree := Regex.tree_ofLiteral h
  have hs' : s.toList ≠ [] := fun hnil => hs (String.toList_eq_nil_iff.1 hnil)
  have hp' : p.toList ≠ [] := fun hnil => hp (String.toList_eq_nil_iff.1 hnil)
  obtain ⟨places, hplaces⟩ := exists_occurrences hp' s.toList 0
  refine ⟨?_, fun w => ?_, ?_⟩
  · rw [splitLiteral_eq_piecesAround hs' hp' hplaces, length_piecesAround, Regex.findAll_literal htree hp' hplaces, List.length_map]
  · have hreplace : ((Registry.standard now).call "replace" [.string s, .string p, .string w] scope).value =
      .ofChars (replaceEach p.toList w.toList s.toList) := rfl
    rw [hreplace, replaceEach, splitLiteral_of_ne_nil hs', if_neg (by rwa [List.isEmpty_iff]), if_neg (by rwa [List.isEmpty_iff])]
  · rw [call_split_pattern, Regex.splitPieces_literal htree hs' hp']

end

/-- A literal text of at most 327,673 bytes stands for a regular expression. Then the functions that search for it agree: either it
stands in the text, and all of them tell where it stands first, or it does not, and none of them finds it. It matches no other text than
itself. If neither text is empty, there is one token more than the text is found, the tokens with another text between them are what
replacing it gives, and without the empty ones at the end they are what splitting at the regular expression gives. -/
theorem call_literalPattern (now : Calendar.Instant) (scope : Scope) (p : String) :
    ((∃ r, Regex.ofLiteral p = .ok r) ↔ byteLength p.toList ≤ 327673) ∧
    ∀ r, Regex.ofLiteral p = .ok r → ∀ s : String,
      ((∃ (i count : Nat) (before after : List Char), IsLeast {q | StandsAt p.toList s.toList q} i ∧
          ((Registry.standard now).call "contains" [.string s, .string p] scope).value = .boolean true ∧
          ((Registry.standard now).call "find" [.string s, .string p] scope).value = .ofTexts (List.replicate count p.toList) ∧
          0 < count ∧
          ((Registry.standard now).call "indexOf" [.string s, .string p] scope).value = .ofNat i ∧
          ((Registry.standard now).call "partition" [.string s, .string p] scope).value = .ofTexts [before, p.toList, after] ∧
          before.length = i ∧ before ++ (p.toList ++ after) = s.toList) ∨
        (∀ q, ¬StandsAt p.toList s.toList q) ∧ p ≠ "" ∧
          ((Registry.standard now).call "contains" [.string s, .string p] scope).value = .boolean false ∧
          ((Registry.standard now).call "find" [.string s, .string p] scope).value = .ofTexts [] ∧
          ((Registry.standard now).call "indexOf" [.string s, .string p] scope).value = .number (-1) ∧
          ((Registry.standard now).call "partition" [.string s, .string p] scope).value = .ofTexts [s.toList, [], []]) ∧
      ((Registry.standard now).call "match" [.string s, .string p] scope).value = (if s = p then .array [] else .null) ∧
      (s ≠ "" → p ≠ "" → ∃ (tokens : List (List Char)) (count : Nat),
        ((Registry.standard now).call "split" [.string s, .string p, .boolean true] scope).value = .ofTexts tokens ∧
        ((Registry.standard now).call "find" [.string s, .string p] scope).value = .ofTexts (List.replicate count p.toList) ∧
        count + 1 = tokens.length ∧
        (∀ w : String, ((Registry.standard now).call "replace" [.string s, .string p, .string w] scope).value =
          .ofChars (joinWith w.toList tokens)) ∧
        ((Registry.standard now).call "split" [.string s, .regex r, .boolean true] scope).value = .ofTexts (dropLastEmpty tokens)) := by
  refine ⟨Regex.exists_ofLiteral_iff, fun r h s => ⟨?_, call_match_literal now scope h s, fun hs hp => ?_⟩⟩
  · cases hplace : firstPosition? p.toList s.toList with
    | none =>
      obtain ⟨hcontains, hfind, hindex, hpartition⟩ := call_literal_of_none now scope h s hplace
      have hnowhere := not_standsAt_of_firstPosition? hplace
      refine .inr ⟨hnowhere, ?_, hcontains, hfind, hindex, hpartition⟩
      rintro rfl
      exact hnowhere 0 ⟨Nat.zero_le _, List.nil_prefix⟩
    | some i =>
      obtain ⟨hcontains, hcount, hindex, hpartition⟩ := call_literal_of_some now scope h s hplace
      have hleast := standsAt_of_firstPosition? hplace
      refine .inl ⟨i, _, _, _, hleast, hcontains, call_find_literal now scope h s, hcount, hindex, hpartition, ?_, ?_⟩
      · rw [List.length_take, Nat.min_eq_left hleast.1.1]
      · have hparts := before_text_after (show (literalMatch p.toList i).IsWithin s.toList.length 0 from
          ⟨Nat.zero_le _, Nat.le_add_right _ _, hleast.1.le⟩)
        rwa [text_literalMatch hleast.1] at hparts
  · obtain ⟨hcount, hreplace, hsplit⟩ := call_literal_tokens now scope h s hs hp
    exact ⟨_, _, rfl, call_find_literal now scope h s, hcount, hreplace, hsplit⟩

/-- The first two of three characters that overlap are found, and those at the end. -/
theorem call_literalPattern_overlapping :
    let now : Calendar.Instant := ⟨0, 0, by decide⟩
    let s := "aaaéaa"
    let p := "aa"
    ∃ r, Regex.ofLiteral p = .ok r ∧ s ≠ "" ∧ p ≠ "" ∧
      ((Registry.standard now).call "match" [.string s, .string p] []).value = .null ∧
      ∃ (tokens : List (List Char)) (count : Nat),
        ((Registry.standard now).call "split" [.string s, .string p, .boolean true] []).value = .ofTexts tokens ∧
        ((Registry.standard now).call "find" [.string s, .string p] []).value = .ofTexts (List.replicate count p.toList) ∧
        count + 1 = tokens.length ∧
        ((Registry.standard now).call "split" [.string s, .regex r, .boolean true] []).value = .ofTexts (dropLastEmpty tokens) := by
  intro now s p
  obtain ⟨hlong, hagree⟩ := call_literalPattern now [] p
  obtain ⟨r, hr⟩ := hlong.2 (by decide)
  have hs : s ≠ "" := by decide
  have hp : p ≠ "" := by decide
  obtain ⟨-, hmatch, htokens⟩ := hagree r hr s
  obtain ⟨tokens, count, hsplit, hfind, hcount, -, hregex⟩ := htokens hs hp
  exact ⟨r, hr, hs, hp, hmatch, tokens, count, hsplit, hfind, hcount, hregex⟩

end CellExpr
