import CellExpr.Function.Standard
import CellExpr.Proofs.Evaluation.Bodies
import CellExpr.Proofs.Evaluation.Complete
import CellExpr.Proofs.Pattern.Exploration
import CellExpr.Proofs.Text.Pieces
import Mathlib.Data.List.DropRight

/-!
# Splitting and joining

What `split` makes of a text and a separator that is a text (`call_split`): the pieces around the leftmost occurrences of the separator
that do not overlap, or between blank characters if the separator is empty. Joining texts with a character that is in none of them,
and splitting at this character, gives the texts back.

What `split` makes of a text and a regular expression (`call_split_regex`): with the flag the tokens are the pieces between the matches
but for the empty ones at the end, and a match of nothing at the start does not count; without it they are the tokens that are not empty.
Put together with the matches in turn, the pieces make up the text (`weave_piecesFrom`).
-/

namespace CellExpr

open CellExpr.Text

section

variable (now : Calendar.Instant) (scope : Scope)

theorem call_split_flag (s separator : String) (keepEmpty : Bool) :
    ((Registry.standard now).call "split" [.string s, .string separator, .boolean keepEmpty] scope).value =
      .ofTexts (splitLiteral separator.toList keepEmpty s.toList) := rfl

theorem call_split_text (s separator : String) : ((Registry.standard now).call "split" [.string s, .string separator] scope).value =
    .ofTexts (splitLiteral separator.toList false s.toList) := rfl

/-- Texts that are not empty are all joined. -/
theorem call_join_texts {xs : List String} (h : ∀ x ∈ xs, x ≠ "") (separator : String) :
    ((Registry.standard now).call "join" [.array (xs.map .string), .string separator] scope).value =
      .string (separator.intercalate xs) := by
  have hkept : ((xs.map Value.string).filter (!·.isBlank)).map Value.text = xs := by
    rw [List.filter_eq_self.2, List.map_map]
    · exact List.map_id xs
    · intro v hv
      obtain ⟨x, hx, rfl⟩ := List.mem_map.1 hv
      rw [Value.isBlank, Bool.not_eq_true', ← Bool.not_eq_true, String.isEmpty_iff]
      exact h x hx
  show Value.string (separator.intercalate (((xs.map Value.string).filter (!·.isBlank)).map Value.text)) = _
  rw [hkept]

end

/-- The tokens of a text at a separator: without the flag those that are not empty, with it all. If neither the text nor the separator
is empty, no token contains the separator, there is one more of them than leftmost occurrences that do not overlap, and with the
separator between them they make up the text. If the separator is empty, they are what lies between the blank characters. Texts that
are not empty and do not contain a character are what splitting gives back after they have been joined with this character. -/
theorem call_split (now : Calendar.Instant) (scope : Scope) :
    (∀ s separator : String,
      ((Registry.standard now).call "split" [.string s, .string separator] scope).value =
        ((Registry.standard now).call "split" [.string s, .string separator, .boolean false] scope).value ∧
      ∀ keepEmpty, ((Registry.standard now).call "split" [.string s, .string separator, .boolean keepEmpty] scope).value =
        .ofTexts (splitLiteral separator.toList keepEmpty s.toList)) ∧
    (∀ s separator : List Char,
      splitLiteral separator false s = (splitLiteral separator true s).filter (!·.isEmpty)) ∧
    (∀ s separator : List Char, s ≠ [] → separator ≠ [] →
      (∀ token ∈ splitLiteral separator true s, ¬separator <:+: token) ∧
      (∃! places, Occurrences separator s 0 places) ∧
      (∀ places, Occurrences separator s 0 places → (splitLiteral separator true s).length = places.length + 1) ∧
      joinWith separator (splitLiteral separator true s) = s) ∧
    (∀ s : List Char, s ≠ [] →
      (∀ token ∈ splitLiteral [] true s, ∀ c ∈ token, isBlank c = false) ∧ CutAt isBlank s (splitLiteral [] true s)) ∧
    ∀ (c : Char) (xs : List String), (∀ x ∈ xs, x ≠ "" ∧ c ∉ x.toList) →
      ((Registry.standard now).call "split" [((Registry.standard now).call "join"
        [.array (xs.map .string), .string (.singleton c)] scope).value, .string (.singleton c)] scope).value = .array (xs.map .string) := by
  refine ⟨fun s separator => ⟨rfl, call_split_flag now scope s separator⟩, fun s separator => splitLiteral_false separator s,
    fun s separator hs hseparator => ?_, fun s hs => ?_, fun c xs hxs => ?_⟩
  · obtain ⟨places, hplaces⟩ := exists_occurrences hseparator s 0
    rw [splitLiteral_eq_piecesAround hs hseparator hplaces]
    refine ⟨fun token => not_isInfix_of_mem_piecesAround hseparator (Nat.zero_le _) hplaces,
      ⟨places, hplaces, fun places' h => h.unique hplaces⟩, fun places' h => ?_, joinWith_piecesAround hplaces⟩
    rw [h.unique hplaces, length_piecesAround]
  · exact ⟨(cutAt_splitLiteral_nil hs).eq_false_of_mem, cutAt_splitLiteral_nil hs⟩
  · rw [call_join_texts now scope (fun x hx => (hxs x hx).1), call_split_text, String.toList_intercalate]
    have htokens : splitLiteral [c] false (joinWith [c] (xs.map String.toList)) = xs.map String.toList := by
      refine splitLiteral_joinWith fun piece hpiece => ?_
      obtain ⟨x, hx, rfl⟩ := List.mem_map.1 hpiece
      exact ⟨fun h => (hxs x hx).1 (String.toList_eq_nil_iff.1 h), (hxs x hx).2⟩
    have htexts : (xs.map String.toList).map Value.ofChars = xs.map .string := by
      rw [List.map_map]
      exact List.map_congr_left fun x _ => congrArg Value.string String.ofList_toList
    rw [String.toList_singleton]
    exact (congrArg Value.ofTexts htokens).trans (congrArg Value.array htexts)

/-- Of the three occurrences of a separator that overlap in a text the first and the last are where it is cut. A comma that stands
between two texts tells them apart again. -/
theorem call_split_overlapping :
    let now : Calendar.Instant := ⟨0, 0, by decide⟩
    let s := "abababa".toList
    let separator := "aba".toList
    (s ≠ [] ∧ separator ≠ [] ∧ Occurrences separator s 0 [0, 4] ∧ (splitLiteral separator true s).length = 3 ∧
        joinWith separator (splitLiteral separator true s) = s) ∧
      (∀ x ∈ ["a b", "é"], x ≠ "" ∧ ',' ∉ x.toList) ∧
      ((Registry.standard now).call "split" [((Registry.standard now).call "join"
        [.array (["a b", "é"].map .string), .string (.singleton ',')] []).value, .string (.singleton ',')] []).value =
          .array (["a b", "é"].map .string) := by
  intro now s separator
  obtain ⟨-, -, htokens, -, hjoined⟩ := call_split now []
  have hs : s ≠ [] := by decide
  have hseparator : separator ≠ [] := by decide
  have htexts : ∀ x ∈ ["a b", "é"], x ≠ "" ∧ ',' ∉ x.toList := by decide
  have hplaces : Occurrences separator s 0 [0, 4] := by
    refine .next ⟨⟨Nat.le_refl 0, by decide⟩, fun _ _ => Nat.zero_le _⟩ (.next ⟨⟨by decide, by decide⟩, fun p hp => ?_⟩ (.none ?_))
    · refine Nat.lt_of_le_of_ne hp.1 ?_
      rintro rfl
      exact absurd hp.2 (by decide)
    · intro i hi hstands
      exact absurd (Nat.le_trans (Nat.add_le_add_right hi 3) hstands.le) (by decide)
  obtain ⟨-, -, hlength, hjoin⟩ := htokens s separator hs hseparator
  exact ⟨⟨hs, hseparator, hplaces, hlength _ hplaces, hjoin⟩, htexts, hjoined ',' _ htexts⟩

end CellExpr

namespace CellExpr

open CellExpr.Pattern

namespace Pattern

variable {program : Program} {text : Array Char} {s : List Char}

/-! ## The match at the start -/

/-- After a match that ended at the place from which the search goes on, all matches end further on. -/
theorem lt_stop_of_mem_matchesFrom {fuel start : Nat} {m : Match} (hm : m ∈ matchesFrom program text fuel start (some start)) :
    start < m.stop := by
  have hlater : ∀ {fuel place : Nat} {first : Match}, first.IsWithin text.size place → start < first.stop →
      m ∈ first :: matchesFrom program text fuel first.stop (some first.stop) → start < m.stop := by
    intro fuel place first _ hlt hm
    rcases List.mem_cons.1 hm with rfl | hm
    · exact hlt
    · obtain ⟨hstart, hstop, -⟩ := (matchesFrom_inOrder fuel first.stop (some first.stop)).isWithin m hm
      omega
  cases fuel with
  | zero => cases hm
  | succ fuel =>
    rw [matchesFrom] at hm
    cases hfound : program.search? text start with
    | none =>
      rw [hfound] at hm
      cases hm
    | some first =>
      rw [hfound] at hm
      dsimp only at hm
      have hwithin := search?_isWithin hfound
      split at hm
      · cases hnext : program.search? text (start + 1) with
        | none =>
          rw [hnext] at hm
          cases hm
        | some next =>
          rw [hnext] at hm
          have hwithin' := search?_isWithin hnext
          exact hlater hwithin' (Nat.le_trans hwithin'.1 hwithin'.2.1) hm
      · rename_i hcounts
        refine hlater hwithin (Nat.lt_of_not_le fun hle => hcounts ?_) hm
        have hstart := hwithin.1
        have hstop := hwithin.2.1
        exact ⟨by omega, congrArg some (by omega)⟩

/-- Only the first match can be one of nothing at the start of the text. -/
theorem filter_isEmptyAtStart (r : Regex) (s : List Char) :
    r.findAll s = (r.findAll s).filter (!·.isEmptyAtStart) ∨
      ∃ slots, r.findAll s = ⟨0, 0, slots⟩ :: (r.findAll s).filter (!·.isEmptyAtStart) := by
  have hlater : ∀ {fuel : Nat} {m : Match}, (matchesFrom r.program s.toArray fuel m.stop (some m.stop)).filter (!·.isEmptyAtStart) =
      matchesFrom r.program s.toArray fuel m.stop (some m.stop) := by
    intro fuel m
    refine List.filter_eq_self.2 fun m' hm' => ?_
    have hlt := lt_stop_of_mem_matchesFrom hm'
    rw [Match.isEmptyAtStart, Bool.not_eq_true', Bool.and_eq_false_iff]
    exact .inr (beq_eq_false_iff_ne.2 (by omega))
  cases hfirst : r.firstMatch? s with
  | none => exact .inl (by rw [Regex.findAll_of_none hfirst, List.filter_nil])
  | some m =>
    rw [Regex.findAll_of_some hfirst, List.filter_cons, hlater]
    cases hm : m.isEmptyAtStart with
    | false => exact .inl rfl
    | true =>
      obtain ⟨start, stop, slots⟩ := m
      obtain ⟨hstart, hstop⟩ := Bool.and_eq_true_iff.1 hm
      obtain ⟨rfl, rfl⟩ : start = 0 ∧ stop = 0 := ⟨beq_iff_eq.1 hstart, beq_iff_eq.1 hstop⟩
      exact .inr ⟨slots, rfl⟩

/-! ## Pieces -/

/-- The text of pieces with one separator after each but the last. -/
def weave {α : Type} : (pieces separators : List (List α)) → List α
  | [], separators => separators.flatten
  | piece :: pieces, [] => piece ++ pieces.flatten
  | piece :: pieces, separator :: separators => piece ++ (separator ++ weave pieces separators)

/-- Between two places and from the second one on stands what stands from the first one on. -/
theorem slice_append_drop {start stop : Nat} (h : start ≤ stop) : slice s start stop ++ s.drop stop = s.drop start := by
  rw [slice, ← Nat.add_sub_cancel' h, ← List.drop_drop, Nat.add_sub_cancel_left, List.take_append_drop]

/-- The pieces between matches with the matches in turn make up the text. -/
theorem weave_piecesFrom {place : Nat} {found : List Match} (h : InOrder s.length place found) :
    weave (piecesFrom s place found) (found.map (·.text s)) = s.drop place := by
  induction found generalizing place with
  | nil => exact List.append_nil _
  | cons m rest ih =>
    obtain ⟨⟨hstart, hstop, -⟩, hrest⟩ := h
    rw [piecesFrom, List.map_cons, weave, ih hrest, Match.text, slice_append_drop hstop, slice_append_drop hstart]

/-- A match of nothing at the start adds an empty piece. -/
theorem piecesFrom_emptyAtStart (s : List Char) (slots : Slots) (found : List Match) :
    piecesFrom s 0 (⟨0, 0, slots⟩ :: found) = [] :: piecesFrom s 0 found := rfl

/-! ## Empty pieces at the end -/

/-- Leaving out the empty texts at the end leaves the others, and the last one of them is not empty. -/
theorem dropLastEmpty_spec (pieces : List (List Char)) :
    (∃ count, dropLastEmpty pieces ++ List.replicate count [] = pieces) ∧ (dropLastEmpty pieces).getLast? ≠ some [] := by
  have hdrop : dropLastEmpty pieces = pieces.rdropWhile (·.isEmpty) := rfl
  constructor
  · have hempty : pieces.rtakeWhile (·.isEmpty) = List.replicate (pieces.rtakeWhile (·.isEmpty)).length [] :=
      List.eq_replicate_iff.2 ⟨rfl, fun piece hpiece => List.isEmpty_iff.1 (List.mem_rtakeWhile_imp hpiece)⟩
    exact ⟨_, by rw [← hempty, hdrop, List.rdropWhile_append_rtakeWhile]⟩
  · intro hlast
    obtain ⟨hne, hlast⟩ := List.mem_getLast?_eq_getLast hlast
    exact List.rdropWhile_last_not _ _ hne (List.isEmpty_iff.2 hlast.symm)

theorem filter_dropLastEmpty (pieces : List (List Char)) : (dropLastEmpty pieces).filter (!·.isEmpty) = pieces.filter (!·.isEmpty) := by
  obtain ⟨⟨count, hpieces⟩, -⟩ := dropLastEmpty_spec pieces
  conv_rhs => rw [← hpieces, List.filter_append]
  rw [List.filter_replicate_of_neg (by decide), List.append_nil]

end Pattern

/-! ## Tokens -/

namespace Regex

variable {r : Regex} {s : List Char}

/-- Without the flag the empty tokens are dropped. -/
theorem splitPieces_false (r : Regex) (s : List Char) : r.splitPieces false s = (r.splitPieces true s).filter (!·.isEmpty) := by
  have hkept : (r.split s).filter (!·.isEmpty) = (piecesFrom s 0 ((r.findAll s).filter (!·.isEmptyAtStart))).filter (!·.isEmpty) := by
    rw [Regex.split]
    rcases filter_isEmptyAtStart r s with hfound | ⟨slots, hfound⟩
    · rw [← hfound]
    · conv_lhs => rw [hfound, piecesFrom_emptyAtStart]
      rfl
  have htokens : (r.splitPieces true s).filter (!·.isEmpty) =
      (piecesFrom s 0 ((r.findAll s).filter (!·.isEmptyAtStart))).filter (!·.isEmpty) := by
    rw [Regex.splitPieces, if_pos rfl]
    cases (r.findAll s).filter (!·.isEmptyAtStart) with
    | nil => rfl
    | cons m rest => exact filter_dropLastEmpty _
  rw [htokens, ← hkept]
  rfl

end Regex

theorem call_split_pattern (now : Calendar.Instant) (scope : Scope) (s : String) (r : Regex) (keepEmpty : Bool) :
    ((Registry.standard now).call "split" [.string s, .regex r, .boolean keepEmpty] scope).value =
      .ofTexts (r.splitPieces keepEmpty s.toList) := by
  refine Outcome.value_toTraced (?_ : TextFunctions.split [.string s, .regex r, .boolean keepEmpty] scope = _)
  show (do return Value.ofTexts (← TextFunctions.cutAtMatches r keepEmpty s.toList) : Outcome Value) = _
  rw [TextFunctions.cutAtMatches_eq]
  rfl

/-- The tokens of a text at the matches of a regular expression: without the flag those that are not empty. With the flag, if nothing
matches but for a match of nothing at the start, the text is the only token; else the tokens are the pieces between the matches, this
one aside, without the empty ones at the end. With those and the matches put back the tokens make up the text. -/
theorem call_split_regex (now : Calendar.Instant) (scope : Scope) (s : String) (r : Regex) :
    ∃ (tokens : List (List Char)) (found : List Match),
      ((Registry.standard now).call "split" [.string s, .regex r, .boolean true] scope).value = .ofTexts tokens ∧
      ((Registry.standard now).call "split" [.string s, .regex r, .boolean false] scope).value =
        .ofTexts (tokens.filter (!·.isEmpty)) ∧
      ((Registry.standard now).call "split" [.string s, .regex r] scope).value =
        ((Registry.standard now).call "split" [.string s, .regex r, .boolean false] scope).value ∧
      InOrder s.toList.length 0 (r.findAll s.toList) ∧
      found = (r.findAll s.toList).filter (!·.isEmptyAtStart) ∧
      (r.findAll s.toList = found ∨ ∃ slots, r.findAll s.toList = ⟨0, 0, slots⟩ :: found) ∧
      (found = [] ∧ tokens = [s.toList] ∨
        found ≠ [] ∧ tokens.getLast? ≠ some [] ∧
          ∃ count, tokens ++ List.replicate count [] = piecesFrom s.toList 0 found ∧
            weave (tokens ++ List.replicate count []) (found.map (·.text s.toList)) = s.toList) := by
  have hfound := (r.findAll_inOrder s.toList).filter (!·.isEmptyAtStart)
  refine ⟨r.splitPieces true s.toList, _, call_split_pattern now scope s r true, ?_, rfl, r.findAll_inOrder s.toList, rfl,
    filter_isEmptyAtStart r s.toList, ?_⟩
  · rw [call_split_pattern, r.splitPieces_false]
  · rw [Regex.splitPieces, if_pos rfl]
    cases h : (r.findAll s.toList).filter (!·.isEmptyAtStart) with
    | nil => exact .inl ⟨rfl, rfl⟩
    | cons m rest =>
      obtain ⟨⟨count, hpieces⟩, hlast⟩ := dropLastEmpty_spec (piecesFrom s.toList 0 (m :: rest))
      refine .inr ⟨List.cons_ne_nil m rest, hlast, count, hpieces, ?_⟩
      rw [hpieces, weave_piecesFrom (h ▸ hfound), List.drop_zero]

end CellExpr
