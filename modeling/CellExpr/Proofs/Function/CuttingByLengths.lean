import CellExpr.Proofs.Function.Invocation
import CellExpr.Proofs.Function.Patterns
import CellExpr.Proofs.Number.Whole
import Mathlib.Data.List.Forall2

/-!
# Cutting by lengths

What `splitByLengths` makes of a text and some lengths (`call_splitByLengths`). A length is looked at if those before it do not use up
the text, and then it has to be a count. The pieces are consecutive, each as long as its length or as what is left of the text. Lengths
and places are counted with 64 bits, and what goes beyond is held at the greatest count; no text is long enough to show this.
-/

namespace CellExpr

open CellExpr.Number CellExpr.Outcome CellExpr.TextFunctions

namespace Number

/-- The double is a whole number that is not negative. -/
def IsCount (x : Float) (n : Nat) : Prop := IsInteger x n

instance (x : Float) (n : Nat) : Decidable (IsCount x n) := inferInstanceAs (Decidable (IsInteger x n))

/-- Held at the greatest count, a place after some characters is still beyond the end of a text, or it is exact. -/
theorem min_saturate {start n length : Nat} (hstart : start < countBound) (hlength : length < countBound) :
    min (saturate (start + saturate n)) length = min (start + n) length := by
  unfold saturate
  omega

end Number

/-! ## Lengths -/

theorem isCount_iff {x : Float} {n : Nat} :
    IsCount x n ↔ ∃ negative units, exact x = .finite negative units ∧ units = n * unitsInOne ∧ ¬(negative = true ∧ units ≠ 0) := by
  unfold IsCount IsInteger inUnits?
  rw [← Int.natCast_mul]
  generalize n * unitsInOne = units
  cases exact x with
  | finite negative units' =>
    cases negative with
    | false => simp [Int.natCast_inj]
    | true =>
      simp
      omega
  | infinite | undefined =>
    constructor
    · intro h
      cases h
    · rintro ⟨_, _, heq, -⟩
      cases heq

theorem count_of_isCount {x : Float} {n : Nat} (h : IsCount x n) : count (.number x) = .ok (saturate n) := by
  obtain ⟨negative, units, hexact, hunits, hsign⟩ := isCount_iff.1 h
  have hdivides : ¬(units % unitsInOne ≠ 0 ∨ negative = true ∧ units ≠ 0) :=
    not_or.2 ⟨not_not.2 (by rw [hunits, Nat.mul_mod_left]), hsign⟩
  rw [count, Args.number, ok_bind, hexact]
  dsimp only
  rw [if_neg hdivides, hunits, Nat.mul_div_cancel _ unitsInOne_pos]
  rfl

theorem count_of_not_isCount {x : Float} (h : ∀ n, ¬IsCount x n) : count (.number x) = .fault (.notACount (Number.text x)) := by
  rw [count, Args.number, ok_bind]
  cases hexact : exact x with
  | finite negative units =>
    refine if_pos ?_
    by_contra hdivides
    rw [not_or, not_not] at hdivides
    refine h (units / unitsInOne) (isCount_iff.2 ⟨negative, units, hexact, ?_, hdivides.2⟩)
    exact (Nat.div_mul_cancel (Nat.dvd_of_mod_eq_zero hdivides.1)).symm
  | infinite | undefined => rfl

/-! ## Pieces -/

/-- Consecutive pieces of the given lengths, as long as there is something left of the text. -/
def piecesOfLengths (s : List Char) : List Nat → List (List Char)
  | [] => []
  | n :: counts => if s = [] then [] else s.take n :: piecesOfLengths (s.drop n) counts

/-- The lengths are counts, and each of them is looked at: those before it do not use up a text of some length. -/
structure LooksAt (total : Nat) (lengths : List Float) (counts : List Nat) : Prop where
  isCount : List.Forall₂ IsCount lengths counts
  left : ∀ k < counts.length, (counts.take k).sum < total

variable {s : List Char} {lengths before after : List Float} {counts : List Nat} {x : Float} {n start : Nat}

theorem flatten_piecesOfLengths (s : List Char) (counts : List Nat) :
    (piecesOfLengths s counts).flatten = s.take (min counts.sum s.length) := by
  rw [← List.take_eq_take_min]
  induction counts generalizing s with
  | nil => rfl
  | cons n counts ih =>
    rw [piecesOfLengths]
    split
    · rename_i hs
      rw [hs, List.take_nil, List.flatten_nil]
    · rw [List.flatten_cons, ih, List.sum_cons, List.take_add]

theorem LooksAt.tail {y : Float} (h : LooksAt s.length (y :: lengths) (n :: counts)) :
    s ≠ [] ∧ LooksAt (s.drop n).length lengths counts := by
  refine ⟨?_, (List.forall₂_cons.1 h.isCount).2, fun k hk => ?_⟩
  · have hpos : 0 < s.length := h.left 0 (Nat.succ_pos _)
    exact List.length_pos_iff.1 hpos
  · have hsum := h.left (k + 1) (Nat.succ_lt_succ hk)
    rw [List.take_succ_cons, List.sum_cons] at hsum
    rw [List.length_drop]
    omega

/-- There is a piece for each length that is looked at, as long as this length or as what is left. -/
theorem LooksAt.lengths_eq (h : LooksAt s.length lengths counts) :
    (piecesOfLengths s counts).length = counts.length ∧
      ∀ (k : Nat) (piece : List Char) (n : Nat), (piecesOfLengths s counts)[k]? = some piece → counts[k]? = some n →
        piece.length = min n (s.length - (counts.take k).sum) := by
  induction counts generalizing s lengths with
  | nil => exact ⟨rfl, fun k piece n hpiece => nomatch hpiece⟩
  | cons m counts ih =>
    obtain ⟨y, lengths, hy, hrest, rfl⟩ := List.forall₂_cons_right_iff.1 h.isCount
    obtain ⟨hs, htail⟩ := h.tail
    obtain ⟨hlength, hpieces⟩ := ih htail
    rw [piecesOfLengths, if_neg hs]
    refine ⟨congrArg Nat.succ hlength, fun k piece n hpiece hn => ?_⟩
    cases k with
    | zero =>
      obtain rfl := Option.some.inj hpiece
      obtain rfl := Option.some.inj hn
      exact List.length_take
    | succ k =>
      rw [hpieces k piece n hpiece hn, List.length_drop, List.take_succ_cons, List.sum_cons]
      omega

/-! ## Cutting -/

/-- Nothing is looked at any more where the text is used up. -/
theorem cutByLengths_of_le (h : s.length ≤ start) (lengths : List Value) : cutByLengths s start lengths = .ok [] := by
  cases lengths with
  | nil => rfl
  | cons length rest =>
    rw [cutByLengths, if_pos h]
    rfl

theorem cutByLengths_of_not_isCount (h : start < s.length) (hx : ∀ n, ¬IsCount x n) (lengths : List Value) :
    cutByLengths s start (.number x :: lengths) = .fault (.notACount (Number.text x)) := by
  rw [cutByLengths, if_neg (Nat.not_le.2 h), count_of_not_isCount hx]
  rfl

/-- The pieces for lengths that are counts come first. -/
theorem cutByLengths_append (hs : s.length < countBound) (hstart : start ≤ s.length) (h : List.Forall₂ IsCount before counts)
    (rest : List Value) :
    cutByLengths s start (before.map .number ++ rest) =
      (piecesOfLengths (s.drop start) counts ++ ·) <$> cutByLengths s (min (start + counts.sum) s.length) rest := by
  induction h generalizing start with
  | nil =>
    rw [List.map_nil, List.nil_append, List.sum_nil, Nat.add_zero, Nat.min_eq_left hstart]
    exact (id_map _).symm
  | @cons y n before counts hy h ih =>
    rw [List.map_cons, List.cons_append, piecesOfLengths]
    rcases Nat.eq_or_lt_of_le hstart with rfl | hlt
    · rw [cutByLengths_of_le (Nat.le_refl _), if_pos (List.drop_length), cutByLengths_of_le (by omega)]
      rfl
    · have hne : s.drop start ≠ [] := fun hnil => absurd (List.drop_eq_nil_iff.1 hnil) (Nat.not_le.2 hlt)
      have hstop : min (saturate (start + saturate n)) s.length = min (start + n) s.length := min_saturate (by omega) hs
      rw [cutByLengths, if_neg (Nat.not_le.2 hlt), if_neg hne, count_of_isCount hy, ok_bind]
      dsimp only
      have hpiece : (s.drop start).take (min (start + n) s.length - start) = (s.drop start).take n := by
        rw [List.take_eq_take_min, List.take_eq_take_min (i := n), List.length_drop]
        exact congrArg (List.take · _) (by omega)
      have hdrop : s.drop (min (start + n) s.length) = (s.drop start).drop n := by
        rw [List.drop_drop]
        rcases Nat.le_total (start + n) s.length with hle | hle
        · rw [Nat.min_eq_left hle]
        · rw [Nat.min_eq_right hle, List.drop_length, List.drop_eq_nil_of_le hle]
      have hsum : min (min (start + n) s.length + counts.sum) s.length = min (start + (n :: counts).sum) s.length := by
        rw [List.sum_cons]
        omega
      rw [hstop, part_of_le (by omega) (Nat.min_le_right _ _), ok_bind, ih (Nat.min_le_right _ _), hpiece, hdrop, hsum]
      cases cutByLengths s (min (start + (n :: counts).sum) s.length) rest <;> rfl

theorem splitByLengths_eq (s : String) (lengths : List Value) (scope : Scope) :
    splitByLengths (.string s :: lengths) scope = Value.ofTexts <$> cutByLengths s.toList 0 lengths := by
  have hafter : Args.after (.string s :: lengths) 1 = .ok lengths := by
    rw [Args.after, partFrom, part_of_le (by simp) (Nat.le_refl _), List.length_cons, Nat.add_sub_cancel, List.drop_one, List.tail_cons,
      List.take_length]
  show (do return Value.ofTexts (← cutByLengths s.toList 0 (← Args.after (.string s :: lengths) 1))) = _
  rw [hafter, ok_bind]
  cases cutByLengths s.toList 0 lengths <;> rfl

section

variable (scope : Scope) {s : String} (hs : s.length < countBound) (h : List.Forall₂ IsCount before counts)

include hs h

/-- If all lengths that are looked at are counts, they give the pieces. -/
theorem splitByLengths_of_lookedAt (hafter : after = [] ∨ s.length ≤ counts.sum) :
    (splitByLengths (.string s :: (before ++ after).map .number) scope).toTraced.value = .ofTexts (piecesOfLengths s.toList counts) := by
  rw [← String.length_toList] at hs hafter
  have hrest : cutByLengths s.toList (min (0 + counts.sum) s.toList.length) (after.map .number) = .ok [] := by
    rcases hafter with rfl | hle
    · rfl
    · exact cutByLengths_of_le (by omega) _
  rw [splitByLengths_eq, List.map_append, cutByLengths_append hs (Nat.zero_le _) h, hrest, List.drop_zero]
  exact congrArg Value.ofTexts (List.append_nil _)

/-- A length that is looked at and is no count is reported. -/
theorem splitByLengths_of_not_isCount (hsum : counts.sum < s.length) (hx : ∀ n, ¬IsCount x n) :
    (splitByLengths (.string s :: (before ++ x :: after).map .number) scope).toTraced.value =
      .error (Fault.notACount (Number.text x)).toError := by
  rw [← String.length_toList] at hs hsum
  rw [splitByLengths_eq, List.map_append, cutByLengths_append hs (Nat.zero_le _) h, List.map_cons,
    cutByLengths_of_not_isCount (by omega) hx]
  rfl

end

/-- Some of the first lengths are looked at and are counts. The next one is not looked at, because there is none or the text is used
up, or it is no count. -/
theorem exists_looksAt (total : Nat) (lengths : List Float) :
    ∃ before after counts, lengths = before ++ after ∧ LooksAt total before counts ∧
      (after = [] ∨ total ≤ counts.sum ∨ ∃ x rest, after = x :: rest ∧ ∀ n, ¬IsCount x n) := by
  induction lengths generalizing total with
  | nil => exact ⟨[], [], [], rfl, ⟨.nil, nofun⟩, .inl rfl⟩
  | cons x lengths ih =>
    rcases Nat.eq_zero_or_pos total with rfl | hpos
    · exact ⟨[], x :: lengths, [], rfl, ⟨.nil, nofun⟩, .inr (.inl (Nat.zero_le _))⟩
    by_cases hx : ∃ n, IsCount x n
    · obtain ⟨n, hn⟩ := hx
      obtain ⟨before, after, counts, rfl, hlooks, hafter⟩ := ih (total - n)
      refine ⟨x :: before, after, n :: counts, rfl, ⟨.cons hn hlooks.isCount, fun k hk => ?_⟩, ?_⟩
      · cases k with
        | zero => exact hpos
        | succ k =>
          have hleft := hlooks.left k (Nat.lt_of_succ_lt_succ hk)
          rw [List.take_succ_cons, List.sum_cons]
          omega
      · refine hafter.imp_right (Or.imp_left fun hle => ?_)
        rw [List.sum_cons]
        omega
    · exact ⟨[], x :: lengths, [], rfl, ⟨.nil, nofun⟩, .inr (.inr ⟨x, lengths, rfl, not_exists.1 hx⟩)⟩

/-- A text and at least one number are what the function takes. -/
theorem value_call_splitByLengths (now : Calendar.Instant) (scope : Scope) (s : String) (hlengths : lengths ≠ []) :
    ((Registry.standard now).call "splitByLengths" (.string s :: lengths.map .number) scope).value =
      (splitByLengths (.string s :: lengths.map .number) scope).toTraced.value := by
  let f := ((((Function.new "splitByLengths" splitByLengths).withArity 2 none).taking [.string, .number]).variadic .number).describedAs
    "splitByLengths(s, n1, n2, ...) cuts consecutive substrings"
  have hcount : f.acceptsCount (Value.string s :: lengths.map Value.number).length = true := by
    refine Function.acceptsCount_iff.2 ⟨?_, nofun⟩
    rw [List.length_cons, List.length_map]
    exact Nat.succ_le_succ (List.length_pos_iff.2 hlengths)
  have hkinds : f.TakesKinds (Value.string s :: lengths.map Value.number) := by
    intro i v hv
    cases i with
    | zero =>
      obtain rfl := Option.some.inj hv
      rfl
    | succ i =>
      rw [List.getElem?_cons_succ, List.getElem?_map] at hv
      obtain ⟨x, -, rfl⟩ := Option.map_eq_some_iff.1 hv
      cases i <;> rfl
  have herrors : (Value.string s :: lengths.map Value.number).find? Value.isError = none := by
    simp [Value.isError]
  exact Registry.value_call splitByLengths (f := f) rfl rfl herrors
    ((if_pos hcount).trans (Function.misfitFrom?_of_takesKinds hkinds))

/-- The lengths that are looked at are the first ones, up to the one that uses up the text. If one of them is no count, the result is an
error of kind `semantic` that shows it. If all of them are counts, there is a piece for each: it has as many characters as its length
says or as are left, and one after the other the pieces are the start of the text that is as long as the lengths together, or the whole
text. What comes after the lengths that are looked at does not matter. A text has no more characters than can be counted. -/
theorem call_splitByLengths (now : Calendar.Instant) (scope : Scope) {s : String} (hs : s.length < countBound) (lengths : List Float) :
    let result := (splitByLengths (.string s :: lengths.map .number) scope).toTraced.value
    (lengths ≠ [] → ((Registry.standard now).call "splitByLengths" (.string s :: lengths.map .number) scope).value = result) ∧
      (∀ before after counts, lengths = before ++ after → LooksAt s.length before counts →
        (∀ x rest, after = x :: rest → counts.sum < s.length → (∀ n, ¬IsCount x n) →
          result = .error { kind := .semantic, message := s!"expected a non-negative integer, got {Number.text x}" }) ∧
        (after = [] ∨ s.length ≤ counts.sum →
          ∃ pieces, result = .ofTexts pieces ∧ pieces.length = counts.length ∧
            (∀ (k : Nat) (piece : List Char) (n : Nat), pieces[k]? = some piece → counts[k]? = some n →
              piece.length = min n (s.length - (counts.take k).sum)) ∧
            pieces.flatten = s.toList.take (min counts.sum s.length))) ∧
      ∃ before after counts, lengths = before ++ after ∧ LooksAt s.length before counts ∧
        (after = [] ∨ s.length ≤ counts.sum ∨ ∃ x rest, after = x :: rest ∧ ∀ n, ¬IsCount x n) := by
  intro result
  refine ⟨value_call_splitByLengths now scope s, fun before after counts heq hlooks => ⟨fun x rest hafter hsum hx => ?_, fun hafter => ?_⟩,
    exists_looksAt s.length lengths⟩
  · subst heq hafter
    exact splitByLengths_of_not_isCount scope hs hlooks.isCount hsum hx
  · subst heq
    have hpieces := (String.length_toList (s := s)).symm ▸ hlooks
    obtain ⟨hlength, heach⟩ := hpieces.lengths_eq
    rw [String.length_toList] at heach
    refine ⟨_, splitByLengths_of_lookedAt scope hs hlooks.isCount hafter, hlength, heach, ?_⟩
    rw [flatten_piecesOfLengths, String.length_toList]

/-- After one character the greatest double takes what is left, and a half after it is not looked at. Where it is looked at it is a
fault. -/
theorem call_splitByLengths_greatest :
    let now : Calendar.Instant := ⟨0, 0, by decide⟩
    let greatest := Float.ofBits 0x7FEFFFFFFFFFFFFF
    let half := Float.ofBits 0x3FE0000000000000
    "aéb".length < countBound ∧ LooksAt "aéb".length [1, greatest] [1, (2 ^ 53 - 1) * 2 ^ 971] ∧
      ((Registry.standard now).call "splitByLengths" [.string "aéb", .number 1, .number greatest, .number half] []).value =
        .ofTexts [['a'], ['é', 'b']] ∧
      LooksAt "aéb".length [1] [1] ∧ (∀ n, ¬IsCount half n) ∧
      ((Registry.standard now).call "splitByLengths" [.string "aéb", .number 1, .number half, .number greatest] []).value =
        .error { kind := .semantic, message := s!"expected a non-negative integer, got {Number.text half}" } := by
  intro now greatest half
  have hbound : "aéb".length < countBound := by decide
  have hlooks : LooksAt "aéb".length [1, greatest] [1, (2 ^ 53 - 1) * 2 ^ 971] :=
    ⟨.cons (by decide +kernel) (.cons (by decide +kernel) .nil), by decide +kernel⟩
  have hlooks' : LooksAt "aéb".length [1] [1] := ⟨.cons (by decide +kernel) .nil, by decide⟩
  have hhalf : ∀ n, ¬IsCount half n := by
    intro n hn
    obtain ⟨negative, units, hexact, hunits, -⟩ := isCount_iff.1 hn
    have hexact' : exact half = .finite false (Nat.pow 2 1073) := by decide +kernel
    obtain ⟨-, hunits'⟩ := Exact.finite.inj (hexact'.symm.trans hexact)
    have hdivides : Nat.pow 2 1073 % unitsInOne = 0 := by rw [hunits', hunits, Nat.mul_mod_left]
    exact absurd hdivides (by decide +kernel)
  have hsum : "aéb".length ≤ [1, (2 ^ 53 - 1) * 2 ^ 971].sum := by decide +kernel
  obtain ⟨hcall, hcut, -⟩ := call_splitByLengths now [] hbound [1, greatest, half]
  obtain ⟨hcall', hcut', -⟩ := call_splitByLengths now [] hbound [1, half, greatest]
  refine ⟨hbound, hlooks, ?_, hlooks', hhalf, ?_⟩
  · obtain ⟨pieces, hresult, hlength, heach, hflatten⟩ := (hcut [1, greatest] [half] _ rfl hlooks).2 (.inr hsum)
    obtain ⟨p, q, rfl⟩ := List.length_eq_two.1 hlength
    have hp : p.length = 1 := heach 0 p 1 rfl rfl
    rw [Nat.min_eq_right hsum, List.flatten_cons, List.flatten_singleton] at hflatten
    obtain ⟨rfl, rfl⟩ : p = ['a'] ∧ q = ['é', 'b'] := List.append_inj hflatten hp
    exact (hcall nofun).trans hresult
  · exact (hcall' nofun).trans ((hcut' [1] [half, greatest] [1] rfl hlooks').1 half [greatest] rfl (by decide) hhalf)

end CellExpr
