import CellExpr.Proofs.Number.Shortest

/-!
# Texts of whole numbers

A whole number below `10^15` is the only whole number in the interval around its double, and is found on a grid of whole numbers before
any finer one is tried. So its text has all its digits and nothing else (`text_of_isInteger`).
-/

namespace CellExpr.Number

variable {x : Float} {n : Int} {e : Int} {d : Decimal} {tie : Tie} {m units : Nat}

/-! ## Whole numbers in the interval -/

/-- The interval around a whole number does not reach to the middle between whole numbers, or just so. -/
theorem Interval.around_whole (h : m ≠ 0) (hm : m < 2 ^ 53) :
    4 * (m * unitsInOne) ≤ (Interval.around (m * unitsInOne)).low + 2 * unitsInOne ∧
      (Interval.around (m * unitsInOne)).high ≤ 4 * (m * unitsInOne) + 2 * unitsInOne := by
  have hlog : m.log2 < 53 := (Nat.log2_lt h).2 hm
  obtain ⟨k, hk, hunits⟩ := exists_unitsInOne_eq
  have hstep : 2 ^ ((m * 2 ^ k).log2 - 52) ≤ 2 ^ k := by
    rw [log2_mul_two_pow h]
    exact Nat.pow_le_pow_right (by decide) (by omega)
  have hone : 1 ≤ 2 ^ k := Nat.two_pow_pos k
  rw [hunits]
  unfold around
  simp only [Nat.pow_eq]
  generalize (m * 2 ^ k).log2 = log at hstep ⊢
  split
  · dsimp only
    omega
  · dsimp only
    split <;> omega

/-- On a grid of whole numbers nothing but the number itself is taken. -/
theorem eq_of_onGrid?_whole (h : m ≠ 0) (hm : m < 2 ^ 53) (he : 0 ≤ e) (hgrid : onGrid? tie (m * unitsInOne) e = some d) :
    d.digits * 10 ^ e.toNat = m := by
  obtain ⟨-, hcontains⟩ := contains_of_onGrid? hgrid
  obtain ⟨hlow, hhigh⟩ := Interval.around_whole h hm
  have hpos := unitsInOne_pos
  have hpower : 10 ^ (-e).toNat = 1 := by
    rw [Int.toNat_of_nonpos (by omega), Nat.pow_zero]
  have hquarters : d.digits * (4 * unitsInOne * 10 ^ e.toNat) = 4 * (d.digits * 10 ^ e.toNat * unitsInOne) := by ring
  have hwithin : (Interval.around (m * unitsInOne)).low ≤ 4 * (d.digits * 10 ^ e.toNat * unitsInOne) ∧
      4 * (d.digits * 10 ^ e.toNat * unitsInOne) ≤ (Interval.around (m * unitsInOne)).high := by
    rw [hquarters, hpower] at hcontains
    unfold Interval.contains at hcontains
    split at hcontains <;> simp only [Bool.and_eq_true, decide_eq_true_eq, Nat.mul_one] at hcontains <;> omega
  generalize d.digits * 10 ^ e.toNat = k at hwithin ⊢
  rcases Nat.lt_trichotomy k m with hlt | heq | hgt
  · have := Nat.mul_le_mul_right unitsInOne hlt
    rw [Nat.succ_mul] at this
    omega
  · exact heq
  · have := Nat.mul_le_mul_right unitsInOne hgt
    rw [Nat.succ_mul] at this
    omega

/-- On the grid of all whole numbers the number is found. -/
theorem isSome_onGrid?_ones (tie : Tie) (h : m ≠ 0) (hunits : units = m * unitsInOne) : (onGrid? tie units 0).isSome = true := by
  have hone := unitsInOne_pos
  unfold onGrid?
  dsimp only
  simp only [Nat.pow_eq, Int.toNat_zero, Int.neg_zero, Nat.pow_zero, Nat.mul_one]
  generalize unitsInOne = one at hone hunits ⊢
  have hself : 4 * units = m * (4 * one) := by rw [hunits]; ring
  have hcontains : (Interval.around units).contains (m * (4 * one)) 1 = true := by
    obtain ⟨hlow, hhigh, -⟩ := Interval.around_spec (hunits ▸ Nat.mul_ne_zero h hone.ne')
    rw [← hself]
    unfold Interval.contains
    split <;> simp only [Bool.and_eq_true, decide_eq_true_eq, Nat.mul_one] <;> omega
  rw [hself, Nat.mul_div_cancel _ (Nat.mul_pos (by decide) hone), hcontains]
  split <;> first | rfl | contradiction

/-! ## The first grid of a whole number -/

/-- The first grid for a whole number below `10^15` has steps of ones at least, and ones come among the grids that are tried. -/
theorem magnitudeOf_whole (h : m ≠ 0) (hm : m < 10 ^ 15) : 1 ≤ magnitudeOf (m * unitsInOne) ∧ magnitudeOf (m * unitsInOne) ≤ 15 := by
  have hlog : (m * unitsInOne).log2 = m.log2 + 1074 := by
    obtain ⟨k, hk, hunits⟩ := exists_unitsInOne_eq
    rw [hunits, log2_mul_two_pow h, hk]
  have hlog' : m.log2 < 53 := (Nat.log2_lt h).2 (by omega)
  constructor
  · have hbelow {k : Int} (hk : m * unitsInOne * 10 ^ (-k).toNat < unitsInOne * 10 ^ k.toNat) : 1 ≤ k := by
      by_contra hle
      generalize unitsInOne = one at hk
      rw [Int.toNat_of_nonpos (show k ≤ 0 by omega), Nat.pow_zero, Nat.mul_one, Nat.mul_right_comm] at hk
      have hge : one ≤ m * 10 ^ (-k).toNat * one :=
        Nat.le_mul_of_pos_left _ (Nat.mul_pos (Nat.pos_of_ne_zero h) (Nat.pow_pos (by decide)))
      omega
    unfold magnitudeOf
    dsimp only
    simp only [Nat.pow_eq, hlog]
    split
    · exact hbelow ‹_›
    split
    · exact hbelow ‹_›
    split
    · exact hbelow ‹_›
    · omega
  · have hle := zpow_magnitudeOf_le (Nat.mul_ne_zero h unitsInOne_pos.ne') (by omega)
    rw [Nat.cast_mul, mul_comm, mul_le_mul_iff_left₀ unitsInOne_pos'] at hle
    by_contra hgt
    have hpower : (10 : ℚ) ^ (15 : Int) ≤ 10 ^ (magnitudeOf (m * unitsInOne) - 1) := zpow_le_zpow_right₀ (by norm_num) (by omega)
    have hlt : (m : ℚ) < 10 ^ (15 : Int) := by exact_mod_cast hm
    linarith

/-- If one of the first `n` values is there, then the first that is there comes no later. -/
theorem exists_findSome?_range {α : Type} {f : Nat → Option α} {k n : Nat} (hk : k < n) (h : (f k).isSome = true) :
    ∃ j a, j ≤ k ∧ f j = some a ∧ (List.range n).findSome? f = some a := by
  have hsome : ((List.range (k + 1)).findSome? f).isSome = true :=
    List.findSome?_isSome_iff.2 ⟨k, List.mem_range.2 (Nat.lt_succ_self k), h⟩
  obtain ⟨a, ha⟩ := Option.isSome_iff_exists.1 hsome
  obtain ⟨j, hj, hfound⟩ := List.exists_of_findSome?_eq_some ha
  refine ⟨j, a, Nat.le_of_lt_succ (List.mem_range.1 hj), hfound, ?_⟩
  rw [show n = k + 1 + (n - (k + 1)) by omega, List.range_add, List.findSome?_append, ha, Option.some_or]

/-! ## Their texts -/

theorem Decimal.le_exponent_trimZeros (fuel : Nat) (d : Decimal) : d.exponent ≤ (d.trimZeros fuel).exponent := by
  induction fuel generalizing d with
  | zero => exact Int.le_refl _
  | succ fuel ih =>
    rw [trimZeros]
    split
    · exact Int.le_trans (Int.le_add_of_nonneg_right (by decide)) (ih _)
    · exact Int.le_refl _

/-- The shortest decimal of a whole number is this number, with an exponent that is not below zero. -/
theorem exists_shortest_whole (tie : Tie) (h : m ≠ 0) (hm : m < 10 ^ 15) :
    ∃ digits zeros : Nat, shortest tie (m * unitsInOne) = ⟨digits, zeros⟩ ∧ digits * 10 ^ zeros = m := by
  obtain ⟨hmin, hmax⟩ := magnitudeOf_whole h hm
  obtain ⟨top, htop⟩ := Int.eq_ofNat_of_zero_le (Int.le_trans (by decide) hmin)
  have hones : (onGrid? tie (m * unitsInOne) (magnitudeOf (m * unitsInOne) - (top - 1 + 1 : Nat))).isSome = true := by
    rw [show magnitudeOf (m * unitsInOne) - (top - 1 + 1 : Nat) = 0 by omega]
    exact isSome_onGrid?_ones tie h rfl
  obtain ⟨count, d, hle, hgrid, hfound⟩ := exists_findSome?_range (n := 17)
    (f := fun count => onGrid? tie (m * unitsInOne) (magnitudeOf (m * unitsInOne) - (count + 1 : Nat))) (show top - 1 < 17 by omega) hones
  have hshortest : shortest tie (m * unitsInOne) = d.trimZeros 17 := by
    unfold shortest
    dsimp only
    rw [hfound]
    rfl
  have hexponent := (contains_of_onGrid? hgrid).1
  have hvalue := eq_of_onGrid?_whole h (by omega) (by omega) hgrid
  rw [← hexponent] at hvalue
  obtain ⟨zeros, hzeros⟩ := Int.eq_ofNat_of_zero_le (show 0 ≤ (d.trimZeros 17).exponent from
    Int.le_trans (by omega) (d.le_exponent_trimZeros 17))
  obtain ⟨ones, hones⟩ := Int.eq_ofNat_of_zero_le (show 0 ≤ d.exponent by omega)
  refine ⟨(d.trimZeros 17).digits, zeros, by rw [hshortest, ← hzeros], ?_⟩
  have htrim := d.value_trimZeros 17
  rw [Decimal.value, Decimal.value, hzeros, hones, zpow_natCast, zpow_natCast] at htrim
  rw [← hvalue, hones]
  exact_mod_cast htrim

/-- Zeros at the end of a text of digits. -/
theorem digitsText_mul_pow (h : m ≠ 0) (k : Nat) : digitsText (m * 10 ^ k) = digitsText m ++ List.replicate k '0' := by
  induction k with
  | zero => rw [Nat.pow_zero, Nat.mul_one, List.replicate_zero, List.append_nil]
  | succ k ih =>
    have hpos : 0 < m * 10 ^ k := Nat.mul_pos (Nat.pos_of_ne_zero h) (Nat.pow_pos (by decide))
    have happend := Nat.toDigits_append_toDigits (b := 10) (d := 0) (by decide) hpos (by decide)
    rw [Nat.pow_succ, ← Nat.mul_assoc, Nat.mul_comm _ 10, List.replicate_succ', ← List.append_assoc, ← ih]
    exact happend.symm

/-- The units of a whole number, and its sign if it is not zero. -/
theorem IsInteger.exact_eq (h : IsInteger x n) :
    ∃ negative, exact x = .finite negative (n.natAbs * unitsInOne) ∧ (n ≠ 0 → (negative = true ↔ n < 0)) := by
  have hpos := unitsInOne_pos
  unfold IsInteger inUnits? at h
  split at h
  · rename_i negative units hexact
    have hsign : (if negative then -(units : Int) else units) = n * unitsInOne := Option.some.inj h
    have hunits : units = n.natAbs * unitsInOne := by
      rw [← Int.natAbs_natCast unitsInOne, ← Int.natAbs_mul, ← hsign]
      split <;> omega
    refine ⟨negative, hunits ▸ hexact, fun hne => ?_⟩
    have hpositive : units ≠ 0 := hunits ▸ Nat.mul_ne_zero (Int.natAbs_ne_zero.2 hne) hpos.ne'
    rw [← not_le, ← mul_nonneg_iff_of_pos_right (Int.natCast_pos.2 hpos), ← hsign]
    cases negative with
    | false => simp
    | true =>
      simp only [if_true, true_iff]
      omega
  · cases h

/-- The text of a whole number below `10^15` is the text of the integer. -/
theorem text_of_isInteger (h : IsInteger x n) (hn : n.natAbs < 10 ^ 15) : text x = toString n := by
  obtain ⟨negative, hexact, hsign⟩ := h.exact_eq
  unfold text
  rw [hexact]
  dsimp only
  rw [← String.toList_inj]
  by_cases hzero : n = 0
  · rw [hzero, Int.natAbs_zero, Nat.zero_mul, if_pos rfl]
    rfl
  obtain ⟨digits, zeros, hshortest, hvalue⟩ := exists_shortest_whole .up (Int.natAbs_ne_zero.2 hzero) hn
  have hdigits : (shortest .up (n.natAbs * unitsInOne)).positional = digitsText n.natAbs := by
    have hne : digits ≠ 0 := by
      rintro rfl
      rw [Nat.zero_mul] at hvalue
      omega
    rw [hshortest, ← hvalue, digitsText_mul_pow hne]
    rfl
  rw [if_neg (Nat.mul_ne_zero (Int.natAbs_ne_zero.2 hzero) unitsInOne_pos.ne'), hdigits, String.toList_ofList]
  cases n with
  | ofNat m =>
    obtain rfl : negative = false := Bool.eq_false_iff.2 (mt (hsign hzero).1 (Int.not_lt.2 (Int.natCast_nonneg m)))
    exact (Json.toList_ofNat m).symm
  | negSucc m =>
    obtain rfl : negative = true := (hsign hzero).2 (Int.negSucc_lt_zero m)
    exact (Json.toList_negSucc m).symm

end CellExpr.Number
