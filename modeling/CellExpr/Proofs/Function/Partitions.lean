import CellExpr.Proofs.Function.LiteralPatterns

/-!
# Partitions

`partition` and `rpartition` cut a text before and after a match of a pattern, so that the pieces make up the text
(`call_partition_pieces`). `partition` cuts at the first match and `rpartition` at the last one of those that do not overlap. For a literal
text this is its last occurrence unless occurrences overlap at the end (`call_rpartition_overlapping`).
-/

namespace CellExpr

open CellExpr.Pattern CellExpr.Text CellExpr.TextFunctions

variable {p s : List Char} {i start : Nat}

/-! ## The last occurrence -/

/-- After the last one of the leftmost occurrences the text has none that it does not overlap. -/
theorem Text.Occurrences.lt_of_getLast? {places : List Nat} (h : Occurrences p s start places) (hi : places.getLast? = some i) {q : Nat}
    (hq : StandsAt p s q) : q < i + p.length := by
  induction h with
  | none => cases hi
  | @next start j places hj hrest ih =>
    cases hrest with
    | none hnone =>
      obtain rfl := Option.some.inj hi
      exact Nat.lt_of_not_le fun hle => hnone q hle hq
    | next hi' hrest' => exact ih hi

/-- The last one of the leftmost occurrences is the last occurrence, or it overlaps this. -/
theorem eq_or_overlaps_of_isGreatest {places : List Nat} (h : Occurrences p s 0 places) (hi : places.getLast? = some i) {last : Nat}
    (hlast : IsGreatest {q | StandsAt p s q} last) :
    i ≤ last ∧ last < i + p.length ∧ ((∀ q, StandsAt p s q → q < last → q + p.length ≤ last) → i = last) := by
  have hstands := h.standsAt_of_mem i (List.mem_of_getLast? hi)
  have hle : i ≤ last := hlast.2 hstands
  have hlt := h.lt_of_getLast? hi hlast.1
  refine ⟨hle, hlt, fun hapart => Nat.le_antisymm hle (Nat.le_of_not_lt fun hbefore => ?_)⟩
  exact absurd (hapart i hstands hbefore) (Nat.not_le_of_lt hlt)

/-- The last one of the matches of a literal text that occurs is one of its occurrences. -/
theorem Regex.getLast?_findAll_literal {r : Regex} (h : r.tree = literalNode p) {last : Nat}
    (hlast : IsGreatest {q | StandsAt p s q} last) :
    ∃ i, (r.findAll s).getLast? = some (literalMatch p i) ∧ StandsAt p s i ∧ i ≤ last ∧
      (p = [] ∧ i = last ∨ ∃ places, Occurrences p s 0 places ∧ places.getLast? = some i) := by
  by_cases hp : p = []
  · subst hp
    have hend : s.length = last := Nat.le_antisymm (hlast.2 ⟨Nat.le_refl _, List.nil_prefix⟩) hlast.1.1
    refine ⟨s.length, ?_, ⟨Nat.le_refl _, List.nil_prefix⟩, Nat.le_of_eq hend, .inl ⟨rfl, hend⟩⟩
    rw [findAll_empty h, List.range_succ, List.map_append]
    exact List.getLast?_concat
  · obtain ⟨places, hplaces⟩ := exists_occurrences hp s 0
    rw [findAll_literal h hp hplaces, List.getLast?_map]
    cases hi : places.getLast? with
    | none =>
      obtain rfl := List.getLast?_eq_none_iff.1 hi
      cases hplaces with
      | none hnone => exact absurd hlast.1 (hnone last (Nat.zero_le _))
    | some i =>
      have hstands := hplaces.standsAt_of_mem i (List.mem_of_getLast? hi)
      exact ⟨i, rfl, hstands, hlast.2 hstands, .inr ⟨places, hplaces, hi⟩⟩

/-! ## Pieces -/

theorem partsAround_cuttingMatch? (fromEnd : Bool) (r : Regex) (s : List Char) :
    ∃ before middle after, partsAround fromEnd s (cuttingMatch? fromEnd r s) = (before, middle, after) ∧
      before ++ (middle ++ after) = s := by
  cases h : cuttingMatch? fromEnd r s with
  | none =>
    cases fromEnd with
    | true => exact ⟨[], [], s, rfl, rfl⟩
    | false => exact ⟨s, [], [], rfl, List.append_nil s⟩
  | some m => exact ⟨_, _, _, rfl, before_text_after (cuttingMatch?_isWithin h)⟩

/-- The pieces make up the text, and with the flag the middle one is left out. -/
theorem call_partition_parts (now : Calendar.Instant) (scope : Scope) {v : Value} {r : Regex} (h : regexOf v = .ok r) (s : String)
    (fromEnd : Bool) : ∃ before middle after : List Char, before ++ (middle ++ after) = s.toList ∧
      ((Registry.standard now).call (partitionName fromEnd) [.string s, v] scope).value = .ofTexts [before, middle, after] ∧
      ((Registry.standard now).call (partitionName fromEnd) [.string s, v, .boolean false] scope).value =
        .ofTexts [before, middle, after] ∧
      ((Registry.standard now).call (partitionName fromEnd) [.string s, v, .boolean true] scope).value = .ofTexts [before, after] := by
  obtain ⟨before, middle, after, hparts, htext⟩ := partsAround_cuttingMatch? fromEnd r s.toList
  have hcall : ∀ omitMatch, ((Registry.standard now).call (partitionName fromEnd) [.string s, v, .boolean omitMatch] scope).value =
      .ofTexts (if omitMatch then [before, after] else [before, middle, after]) := by
    intro omitMatch
    rw [call_partition now scope h, hparts]
  have hdefault := value_call_partition_default now scope (isPattern_of_regexOf h) s fromEnd
  exact ⟨before, middle, after, htext, hdefault.trans (hcall false), hcall false, hcall true⟩

theorem exists_regexOf_string_iff {p : String} : (∃ r, regexOf (.string p) = .ok r) ↔ byteLength p.toList ≤ 327673 := by
  rw [← Regex.exists_ofLiteral_iff]
  refine exists_congr fun r => ⟨fun h => ?_, regexOf_ofLiteral⟩
  obtain h | ⟨p', hp', h⟩ := eq_of_regexOf h
  · cases h
  · rwa [Value.string.inj hp']

/-- A literal text that is too long for a regular expression makes the call fail. -/
theorem isError_call_partition (now : Calendar.Instant) (scope : Scope) (s : String) {p : String} (hp : 327673 < byteLength p.toList) :
    ((Registry.standard now).call "partition" [.string s, .string p] scope).value.isError = true := by
  cases h : Regex.ofLiteral p with
  | ok r => exact absurd hp (Nat.not_lt_of_le (Regex.exists_ofLiteral_iff.1 ⟨r, h⟩))
  | error f =>
    have hcall := call_partition_of_error now scope s h false
    rw [partitionName_false] at hcall
    rw [hcall]
    rfl

/-- How many bytes a character written so many times has. -/
theorem byteLength_replicate (count : Nat) (c : Char) : byteLength (List.replicate count c) = count * c.utf8Size := by
  induction count with
  | zero => exact (Nat.zero_mul _).symm
  | succ count ih => rw [List.replicate_succ, byteLength, ih, Nat.succ_mul, Nat.add_comm]

theorem exists_isError_call_partition (now : Calendar.Instant) (scope : Scope) (count : Nat) (h : 327673 < count) :
    ∃ long : String, StandsAt long.toList long.toList 0 ∧
      ((Registry.standard now).call "partition" [.string long, .string long] scope).value.isError = true := by
  refine ⟨String.ofList (List.replicate count 'a'), ⟨Nat.zero_le _, List.prefix_refl _⟩, isError_call_partition now scope _ ?_⟩
  rwa [String.toList_ofList, byteLength_replicate, show 'a'.utf8Size = 1 from rfl, Nat.mul_one]

/-- The pieces of a partition make up the text, and with the flag the middle one is left out. The pattern is a regular expression or
a literal text that stands for one. A literal text that occurs is cut at its first position by `partition`, and by `rpartition` at the last
one of its leftmost occurrences that do not overlap. This is the last position, unless another occurrence overlaps the one there; then it
is before the last position by less than the text is long. -/
theorem call_partition_pieces (now : Calendar.Instant) (scope : Scope) :
    (∀ r : Regex, regexOf (.regex r) = .ok r) ∧
    (∀ p : String, (∃ r, regexOf (.string p) = .ok r) ↔ byteLength p.toList ≤ 327673) ∧
    (∀ (v : Value) (r : Regex), regexOf v = .ok r → ∀ s : String,
      (∃ before middle after : List Char, before ++ (middle ++ after) = s.toList ∧
        ((Registry.standard now).call "partition" [.string s, v] scope).value = .ofTexts [before, middle, after] ∧
        ((Registry.standard now).call "partition" [.string s, v, .boolean false] scope).value = .ofTexts [before, middle, after] ∧
        ((Registry.standard now).call "partition" [.string s, v, .boolean true] scope).value = .ofTexts [before, after]) ∧
      ∃ before middle after : List Char, before ++ (middle ++ after) = s.toList ∧
        ((Registry.standard now).call "rpartition" [.string s, v] scope).value = .ofTexts [before, middle, after] ∧
        ((Registry.standard now).call "rpartition" [.string s, v, .boolean false] scope).value = .ofTexts [before, middle, after] ∧
        ((Registry.standard now).call "rpartition" [.string s, v, .boolean true] scope).value = .ofTexts [before, after]) ∧
    ∀ (s p : String) (r : Regex), regexOf (.string p) = .ok r → ∀ q, StandsAt p.toList s.toList q → ∃ first i last,
      IsLeast {q | StandsAt p.toList s.toList q} first ∧ IsGreatest {q | StandsAt p.toList s.toList q} last ∧
      ((Registry.standard now).call "indexOf" [.string s, .string p] scope).value = .ofNat first ∧
      ((Registry.standard now).call "lastIndexOf" [.string s, .string p] scope).value = .ofNat last ∧
      ((Registry.standard now).call "partition" [.string s, .string p] scope).value =
        .ofTexts [s.toList.take first, p.toList, s.toList.drop (first + p.toList.length)] ∧
      ((Registry.standard now).call "rpartition" [.string s, .string p] scope).value =
        .ofTexts [s.toList.take i, p.toList, s.toList.drop (i + p.toList.length)] ∧
      StandsAt p.toList s.toList i ∧ i ≤ last ∧
      (p = "" ∨ last < i + p.toList.length ∧ ∃ places, Occurrences p.toList s.toList 0 places ∧ places.getLast? = some i) ∧
      ((∀ q, StandsAt p.toList s.toList q → q < last → q + p.toList.length ≤ last) → i = last) := by
  have hparts : ∀ (v : Value) (r : Regex), regexOf v = .ok r → ∀ s : String, _ ∧ _ := fun v r h s =>
    ⟨call_partition_parts now scope h s false, call_partition_parts now scope h s true⟩
  rw [partitionName_false, partitionName_true] at hparts
  refine ⟨fun r => rfl, fun p => exists_regexOf_string_iff, hparts, fun s p r h q hq => ?_⟩
  have hr : Regex.ofLiteral p = .ok r := by
    obtain hr | ⟨p', hp', hr⟩ := eq_of_regexOf h
    · cases hr
    · rwa [Value.string.inj hp']
  have htree := Regex.tree_ofLiteral hr
  cases hfirst : firstPosition? p.toList s.toList with
  | none => exact absurd hq (not_standsAt_of_firstPosition? hfirst q)
  | some first =>
    cases hlast : lastPosition? p.toList s.toList with
    | none => exact absurd hq (not_standsAt_of_lastPosition? hlast q)
    | some last =>
      have hleast := standsAt_of_firstPosition? hfirst
      have hgreatest := standsAt_of_lastPosition? hlast
      obtain ⟨-, -, hindex, hpartition⟩ := call_literal_of_some now scope hr s hfirst
      have hlastIndex := call_lastIndexOf_text now scope s p
      rw [hlast] at hlastIndex
      obtain ⟨i, hcut, hstands, hle, hplaces⟩ := Regex.getLast?_findAll_literal htree hgreatest
      have hrpartition := @call_partition_literal now scope _ _ hr s true i hstands hcut
      rw [partitionName_true] at hrpartition
      refine ⟨first, i, last, hleast, hgreatest, hindex, hlastIndex, hpartition, hrpartition, hstands, hle, ?_⟩
      rcases hplaces with ⟨hp, rfl⟩ | ⟨places, hplaces, hi⟩
      · exact ⟨.inl (String.toList_eq_nil_iff.1 hp), fun _ => rfl⟩
      · obtain ⟨-, hlt, heq⟩ := eq_or_overlaps_of_isGreatest hplaces hi hgreatest
        exact ⟨.inr ⟨hlt, places, hplaces, hi⟩, heq⟩

/-- Two occurrences that do not overlap: each of them is where one of the functions cuts. -/
theorem call_partition_pieces_apart :
    let now : Calendar.Instant := ⟨0, 0, by decide⟩
    let s := "aabaaé"
    let p := "aa"
    ∃ r, regexOf (.string p) = .ok r ∧ StandsAt p.toList s.toList 0 ∧
      (∃ before middle after : List Char, before ++ (middle ++ after) = s.toList ∧
        ((Registry.standard now).call "rpartition" [.string s, .string p] []).value = .ofTexts [before, middle, after]) ∧
      (∀ q, StandsAt p.toList s.toList q → q < 3 → q + p.toList.length ≤ 3) ∧
      ((Registry.standard now).call "lastIndexOf" [.string s, .string p] []).value = .ofNat 3 ∧
      ((Registry.standard now).call "rpartition" [.string s, .string p] []).value = .ofTexts ["aab".toList, p.toList, "é".toList] := by
  intro now s p
  obtain ⟨-, hliteral, hpieces, hplaces⟩ := call_partition_pieces now []
  obtain ⟨r, hr⟩ := (hliteral p).2 (by decide)
  have hfirst : StandsAt p.toList s.toList 0 := ⟨by decide, by decide⟩
  have hbelow : ∀ q < 5, StandsAt p.toList s.toList q → q = 0 ∨ q = 3 := by decide
  have honly : ∀ q, StandsAt p.toList s.toList q → q = 0 ∨ q = 3 := fun q hq =>
    hbelow q (Nat.lt_of_add_lt_add_right (Nat.lt_of_le_of_lt hq.le (show s.toList.length < 5 + p.toList.length by decide))) hq
  have hlast : IsGreatest {q | StandsAt p.toList s.toList q} 3 := by
    refine ⟨⟨by decide, by decide⟩, fun q hq => ?_⟩
    rcases honly q hq with rfl | rfl <;> decide
  have hapart : ∀ q, StandsAt p.toList s.toList q → q < 3 → q + p.toList.length ≤ 3 := by
    intro q hq hlt
    rcases honly q hq with rfl | rfl
    · decide
    · exact absurd hlt (Nat.lt_irrefl 3)
  obtain ⟨before, middle, after, htext, hcut, -⟩ := (hpieces _ r hr s).2
  obtain ⟨first, i, last, -, hgreatest, -, hindex, -, hparts, -, -, -, heq⟩ := hplaces s p r hr 0 hfirst
  obtain rfl := hgreatest.unique hlast
  obtain rfl := heq hapart
  have hbefore : s.toList.take 3 = "aab".toList := by decide
  have hafter : s.toList.drop (3 + p.toList.length) = "é".toList := by decide
  rw [hbefore, hafter] at hparts
  exact ⟨r, hr, hfirst, ⟨before, middle, after, htext, hcut⟩, hapart, hindex, hparts⟩

/-- Of two occurrences that overlap the first one is where the text is cut, also from the end. A text that is too long is not cut at all,
although it stands in itself. -/
theorem call_rpartition_overlapping :
    let now : Calendar.Instant := ⟨0, 0, by decide⟩
    let s := "aaa"
    let p := "aa"
    StandsAt p.toList s.toList 1 ∧
      ((Registry.standard now).call "rpartition" [.string s, .string p] []).value = .ofTexts [[], p.toList, ['a']] ∧
      ((Registry.standard now).call "lastIndexOf" [.string s, .string p] []).value = .ofNat 1 ∧
      (¬∃ before middle after : List Char, before.length = 1 ∧
        ((Registry.standard now).call "rpartition" [.string s, .string p] []).value = .ofTexts [before, middle, after]) ∧
      ∃ long : String, StandsAt long.toList long.toList 0 ∧
        ((Registry.standard now).call "partition" [.string long, .string long] []).value.isError = true := by
  intro now s p
  obtain ⟨r, hr⟩ := Regex.exists_ofLiteral_iff.2 (show byteLength p.toList ≤ 327673 by decide)
  have hplaces : Occurrences p.toList s.toList 0 [0] := by
    refine .next ⟨⟨Nat.le_refl 0, by decide⟩, fun _ _ => Nat.zero_le _⟩ (.none fun i hi hstands => ?_)
    exact absurd (Nat.le_trans (Nat.add_le_add_right hi _) hstands.le) (by decide)
  have hcut : cuttingMatch? true r s.toList = some (literalMatch p.toList 0) := by
    show (r.findAll s.toList).getLast? = _
    rw [Regex.findAll_literal (Regex.tree_ofLiteral hr) (by decide) hplaces]
    rfl
  have hstands : StandsAt p.toList s.toList 0 := ⟨by decide, by decide⟩
  have hparts : ((Registry.standard now).call "rpartition" [.string s, .string p] []).value = .ofTexts [[], p.toList, ['a']] := by
    have hafter : s.toList.drop (0 + p.toList.length) = ['a'] := by decide
    have hcall := @call_partition_literal now [] _ _ hr s true 0 hstands hcut
    rwa [hafter, partitionName_true] at hcall
  have hlast := call_lastIndexOf_text now [] s p
  have hplace : lastPosition? p.toList s.toList = some 1 := by decide
  rw [hplace] at hlast
  refine ⟨⟨by decide, by decide⟩, hparts, hlast, ?_, exists_isError_call_partition now [] 327674 (by decide)⟩
  rintro ⟨before, middle, after, hlength, heq⟩
  have htexts := Value.array.inj (hparts.symm.trans heq)
  have hbefore : String.ofList [] = String.ofList before := Value.string.inj (List.cons.inj htexts).1
  obtain rfl := String.ofList_injective hbefore
  cases hlength

end CellExpr
