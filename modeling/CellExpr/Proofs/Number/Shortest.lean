import CellExpr.Number.Layout
import CellExpr.Proofs.Json.Scalars
import CellExpr.Proofs.Number.Spellings
import CellExpr.Proofs.Writing.Spelling
import Mathlib.Tactic.Ring

/-!
# Shortest decimals read back

The interval around a double reaches halfway to both of its neighbours, and what lies in it is nearest to this double
(`isNearestCode_of_contains`). On a grid of seventeen digits there always is a decimal in the interval (`isSome_onGrid?`), so that the
shortest decimal is one that reads back (`isNearestCode_shortest`). Its text spells it digit by digit (`spells_positional`), and with the
sign before it the text of a finite double reads as this double, but that a zero loses its sign (`read?_text`).
-/

namespace CellExpr.Number

open Float.Model Float.Model.UnpackedFloat

variable {x : Float} {c p q units : Nat} {e : Int} {d : Decimal} {tie : Tie}

/-! ## The interval around a double -/

/-- The interval around a double of full precision. The neighbour below a power of two is half as far. -/
theorem Interval.around_mul_two_pow {m k : Nat} (hm : 2 ^ 52 ≤ m) (hm' : m < 2 ^ 53) (hk : 0 < k) :
    Interval.around (m * 2 ^ k) =
      ⟨4 * (m * 2 ^ k) - (if m = 2 ^ 52 then 2 ^ k else 2 * 2 ^ k), 4 * (m * 2 ^ k) + 2 * 2 ^ k, m % 2 == 0⟩ := by
  have hlog : (m * 2 ^ k).log2 = k + 52 := by
    rw [log2_mul_two_pow (by omega), Nat.add_comm]
    congr 1
    exact (Nat.log2_eq_iff (by omega)).2 ⟨hm, hm'⟩
  have hlarge : ¬m * 2 ^ k < 2 ^ 53 := by
    have := Nat.mul_le_mul hm (Nat.pow_le_pow_right (show 0 < 2 by decide) hk)
    omega
  have hstep : (m * 2 ^ k).log2 - 52 = k := by omega
  have hpower : m * 2 ^ k = 2 ^ (m * 2 ^ k).log2 ↔ m = 2 ^ 52 := by
    rw [hlog, Nat.add_comm, Nat.pow_add]
    exact Nat.mul_left_inj (Nat.two_pow_pos k).ne'
  simp only [Interval.around, Nat.pow_eq, if_neg hlarge, hpower, hstep, Nat.mul_div_cancel _ (Nat.two_pow_pos k)]

/-- The ends of the interval lie in the middle between neighbours, and belong to it if the last binary digit is zero. -/
theorem Interval.around_unitsAt (c : Nat) :
    Interval.around (unitsAt (c + 1)) =
      ⟨2 * (unitsAt c + unitsAt (c + 1)), 2 * (unitsAt (c + 1) + unitsAt (c + 2)), (c + 1) % 2 == 0⟩ := by
  obtain ⟨m, k, hc, hm, hfull⟩ := exists_eq_add (c + 1)
  have hself : unitsAt (c + 1) = m * 2 ^ k := by rw [hc, unitsAt_add (by omega) hfull]
  have hnext : unitsAt (c + 2) = (m + 1) * 2 ^ k := by
    rw [show c + 2 = m + 1 + k * 2 ^ 52 by omega, unitsAt_add (by omega) (by omega)]
  rw [hself, hnext]
  rcases Nat.eq_zero_or_pos k with rfl | hk
  · have hbefore : unitsAt c = m - 1 := by
      rw [show c = m - 1 + 0 * 2 ^ 52 by omega, unitsAt_add (by omega) (.inl rfl), Nat.pow_zero, Nat.mul_one]
    obtain rfl : c + 1 = m := by omega
    simp only [Interval.around, hbefore, Nat.pow_zero, Nat.mul_one, Nat.pow_eq, if_pos hm, Interval.mk.injEq, and_true]
    omega
  · have hm' : 2 ^ 52 ≤ m := by omega
    have heven : m % 2 = (c + 1) % 2 := by omega
    rw [Interval.around_mul_two_pow hm' hm hk, heven]
    simp only [Interval.mk.injEq, and_true]
    refine ⟨?_, by rw [Nat.add_mul]; omega⟩
    by_cases hsmallest : m = 2 ^ 52
    · obtain ⟨k, rfl⟩ := Nat.exists_eq_add_one_of_ne_zero (Nat.ne_of_gt hk)
      have hbefore : unitsAt c = (2 ^ 53 - 1) * 2 ^ k := by
        rw [show c = 2 ^ 53 - 1 + k * 2 ^ 52 by omega, unitsAt_add (by omega) (by omega)]
      rw [if_pos hsmallest, hbefore, hsmallest, Nat.pow_succ]
      omega
    · have hbefore : unitsAt c = (m - 1) * 2 ^ k := by
        rw [show c = m - 1 + k * 2 ^ 52 by omega, unitsAt_add (by omega) (by omega)]
      have hle : 2 ^ k ≤ m * 2 ^ k := Nat.le_mul_of_pos_left _ (by omega)
      rw [if_neg hsmallest, hbefore, Nat.sub_mul]
      omega

/-- What lies in the interval around a double is nearest to it. -/
theorem isNearestCode_of_contains (hq : 0 < q) (hc : c + 1 < infinityCode)
    (h : (Interval.around (unitsAt (c + 1))).contains p q = true) : IsNearestCode (p / (4 * q)) (c + 1) := by
  have hq' : (0 : ℚ) < 4 * q := by positivity
  have hmiddle (a b : Nat) : (2 * (a + b) * q ≤ p ↔ (a + b : ℚ) ≤ 2 * (p / (4 * q))) ∧
      (p ≤ 2 * (a + b) * q ↔ 2 * (p / (4 * q)) ≤ (a + b : ℚ)) := by
    rw [← mul_div_assoc, le_div_iff₀ hq', div_le_iff₀ hq', ← @Nat.cast_le ℚ, ← @Nat.cast_le ℚ]
    push_cast
    constructor <;> constructor <;> intro h <;> linarith
  rw [Interval.around_unitsAt] at h
  obtain ⟨hlow, hlow'⟩ := hmiddle (unitsAt c) (unitsAt (c + 1))
  obtain ⟨hhigh, hhigh'⟩ := hmiddle (unitsAt (c + 1)) (unitsAt (c + 2))
  -- an end that belongs to the interval is one of an even double
  have hends : unitsAt c + unitsAt (c + 1) ≤ 2 * (p / (4 * q) : ℚ) ∧ 2 * (p / (4 * q) : ℚ) ≤ unitsAt (c + 1) + unitsAt (c + 2) ∧
      ((2 * (p / (4 * q) : ℚ) = unitsAt c + unitsAt (c + 1) ∨ 2 * (p / (4 * q) : ℚ) = unitsAt (c + 1) + unitsAt (c + 2)) →
        (c + 1) % 2 = 0) := by
    unfold Interval.contains at h
    split at h
    · rename_i heven
      simp only [Bool.and_eq_true, decide_eq_true_eq] at h
      exact ⟨hlow.1 h.1, hhigh'.1 h.2, fun _ => beq_iff_eq.1 heven⟩
    · simp only [Bool.and_eq_true, decide_eq_true_eq] at h
      refine ⟨hlow.1 h.1.le, hhigh'.1 h.2.le, ?_⟩
      rintro (heq | heq)
      · exact absurd (hlow'.2 heq.le) (Nat.not_le.2 h.1)
      · exact absurd (hhigh.2 heq.ge) (Nat.not_le.2 h.2)
  obtain ⟨hlow, hhigh, heven⟩ := hends
  rcases lt_or_ge (p / (4 * q) : ℚ) (unitsAt (c + 1)) with hlt | hge
  · exact isNearestCode_succ hc.le hlt hlow fun heq => heven (.inl heq)
  · exact isNearestCode_floor hc.le hge hhigh fun heq => heven (.inr heq)

/-! ## Decimals on a grid -/

/-- A power of ten as a fraction of whole numbers. -/
theorem ten_zpow_eq_div (e : Int) : (10 : ℚ) ^ e = 10 ^ e.toNat / 10 ^ (-e).toNat := by
  rw [← zpow_natCast, ← zpow_natCast, ← zpow_sub₀ (by norm_num)]
  congr 1
  omega

/-- The number of quarters of a unit that a decimal is. -/
theorem Decimal.value_mul_unitsInOne (d : Decimal) :
    d.value * unitsInOne =
      (d.digits * (4 * unitsInOne * 10 ^ d.exponent.toNat) : Nat) / (4 * (10 ^ (-d.exponent).toNat : Nat)) := by
  rw [value, ten_zpow_eq_div]
  push_cast
  rw [mul_div_assoc', div_mul_eq_mul_div, ← mul_div_mul_left _ _ (show (4 : ℚ) ≠ 0 by norm_num)]
  congr 1
  ring

/-- What is taken on a grid lies in the interval. -/
theorem contains_of_onGrid? (h : onGrid? tie units e = some d) :
    d.exponent = e ∧ (Interval.around units).contains (d.digits * (4 * unitsInOne * 10 ^ e.toNat)) (10 ^ (-e).toNat) = true := by
  unfold onGrid? at h
  dsimp only at h
  simp only [Nat.pow_eq] at h
  split at h
  · rename_i hbelow habove
    obtain rfl := Option.some.inj h
    refine ⟨rfl, ?_⟩
    dsimp only
    split
    · exact habove
    · exact hbelow
  · rename_i hbelow _
    obtain rfl := Option.some.inj h
    exact ⟨rfl, hbelow⟩
  · rename_i _ habove
    obtain rfl := Option.some.inj h
    exact ⟨rfl, habove⟩
  · cases h

/-- What is taken on a grid for a double is nearest to it. -/
theorem isNearestCode_of_onGrid? (hc : c + 1 < infinityCode) (h : onGrid? tie (unitsAt (c + 1)) e = some d) :
    IsNearestCode (d.value * unitsInOne) (c + 1) := by
  obtain ⟨rfl, hcontains⟩ := contains_of_onGrid? h
  rw [d.value_mul_unitsInOne]
  exact isNearestCode_of_contains (Nat.pow_pos (by decide)) hc hcontains

/-! ## Seventeen digits are enough -/

/-- A double lies inside its interval, which is wider than the `2^53`rd part of the double. -/
theorem Interval.around_spec (h : units ≠ 0) :
    (Interval.around units).low < 4 * units ∧ 4 * units < (Interval.around units).high ∧
      units < 2 ^ 51 * ((Interval.around units).high - (Interval.around units).low) := by
  unfold around
  simp only [Nat.pow_eq]
  split
  · dsimp only
    omega
  · have hlog : 53 ≤ units.log2 := (Nat.le_log2 h).2 (by omega)
    have hle : 2 ^ units.log2 ≤ units := Nat.log2_self_le h
    have hlt : units < 2 ^ (units.log2 + 1) := Nat.lt_log2_self
    have hstep : 2 ^ units.log2 = 2 ^ 52 * 2 ^ (units.log2 - 52) := by rw [← Nat.pow_add]; congr 1; omega
    have hpos : 0 < 2 ^ (units.log2 - 52) := Nat.two_pow_pos _
    rw [Nat.pow_succ] at hlt
    generalize 2 ^ (units.log2 - 52) = step at *
    generalize 2 ^ units.log2 = power at *
    dsimp only
    split <;> omega

theorem Interval.le_low_of_not_contains {i : Interval} {n : Nat} (h : i.contains n q = false) (hn : n < i.high * q) : n ≤ i.low * q := by
  unfold contains at h
  split at h <;> simp only [Bool.and_eq_false_iff, decide_eq_false_iff_not] at h <;> omega

theorem Interval.high_le_of_not_contains {i : Interval} {n : Nat} (h : i.contains n q = false) (hn : i.low * q < n) : i.high * q ≤ n := by
  unfold contains at h
  split at h <;> simp only [Bool.and_eq_false_iff, decide_eq_false_iff_not] at h <;> omega

/-- Of two neighbours on a grid whose step is not wider than the interval, one lies in the interval. -/
theorem Interval.contains_or (h : units ≠ 0) (hp : 0 < p) (hq : 0 < q) (hfine : 10 ^ 16 * p ≤ 4 * units * q) :
    (Interval.around units).contains (4 * units * q / p * p) q = true ∨
      (Interval.around units).contains ((4 * units * q / p + 1) * p) q = true := by
  obtain ⟨hlow, hhigh, hwidth⟩ := Interval.around_spec h
  have hlow' := Nat.mul_lt_mul_of_pos_right hlow hq
  have hhigh' := Nat.mul_lt_mul_of_pos_right hhigh hq
  have hbelow : 4 * units * q / p * p ≤ 4 * units * q := Nat.div_mul_le_self _ _
  have habove : 4 * units * q < (4 * units * q / p + 1) * p := by
    rw [Nat.mul_comm (4 * units * q / p + 1)]
    exact Nat.lt_mul_div_succ _ hp
  by_contra hnone
  rw [not_or, Bool.not_eq_true, Bool.not_eq_true] at hnone
  have hbefore := Interval.le_low_of_not_contains hnone.1 (by omega)
  have hafter := Interval.high_le_of_not_contains hnone.2 (by omega)
  -- the step would be at least as wide as the interval
  have hstep : ((Interval.around units).high - (Interval.around units).low) * q ≤ p := by
    rw [Nat.add_mul] at hafter
    rw [Nat.sub_mul]
    omega
  have hscaled : units * q < 2 ^ 51 * (((Interval.around units).high - (Interval.around units).low) * q) := by
    rw [← Nat.mul_assoc]
    exact Nat.mul_lt_mul_of_pos_right hwidth hq
  rw [Nat.mul_assoc] at hfine
  omega

theorem toNat_le_iff (e : Int) (a b : Nat) : a * 10 ^ e.toNat ≤ b * 10 ^ (-e).toNat ↔ a * (10 : ℚ) ^ e ≤ b := by
  rw [ten_zpow_eq_div, ← mul_div_assoc, div_le_iff₀ (by positivity)]
  exact_mod_cast Iff.rfl

/-- On a grid that is fine enough there is a decimal in the interval. -/
theorem isSome_onGrid? (tie : Tie) (h : units ≠ 0) (hfine : (10 ^ 16 * unitsInOne : Nat) * (10 : ℚ) ^ e ≤ units) :
    (onGrid? tie units e).isSome = true := by
  have hp : 0 < 4 * unitsInOne * 10 ^ e.toNat := Nat.mul_pos (Nat.mul_pos (by decide) unitsInOne_pos) (Nat.pow_pos (by decide))
  have hstep : 10 ^ 16 * (4 * unitsInOne * 10 ^ e.toNat) ≤ 4 * units * 10 ^ (-e).toNat := by
    have hscaled := (toNat_le_iff e _ _).2 hfine
    rw [Nat.mul_assoc] at hscaled ⊢
    rw [Nat.mul_assoc]
    omega
  have hcontains := Interval.contains_or h hp (Nat.pow_pos (by decide)) hstep
  unfold onGrid?
  dsimp only
  simp only [Nat.pow_eq]
  split
  · rfl
  · rfl
  · rfl
  · rename_i hbelow habove
    rw [hbelow, habove] at hcontains
    rcases hcontains with hcontains | hcontains <;> cases hcontains

/-! ## The first grid -/

/-- Powers of ten and of two compared: the logarithm of two is between 0.3 and 13/43. -/
theorem ten_zpow_le_two_zpow {a b : Int} (h : 10 * b ≤ 3 * a) (h' : 43 * b ≤ 13 * a) : (10 : ℚ) ^ b ≤ 2 ^ a := by
  have hraise (n : Nat) (hn : n ≠ 0) (k : Int) (hpow : (10 : ℚ) ^ k ≤ (2 ^ n) ^ a) (hk : n * b ≤ k) : (10 : ℚ) ^ b ≤ 2 ^ a := by
    refine le_of_pow_le_pow_left₀ hn (zpow_nonneg (by norm_num) _) ?_
    calc ((10 : ℚ) ^ b) ^ n = 10 ^ (n * b : Int) := by rw [← zpow_natCast, ← zpow_mul, mul_comm]
      _ ≤ 10 ^ k := zpow_le_zpow_right₀ (by norm_num) hk
      _ ≤ (2 ^ n) ^ a := hpow
      _ = (2 ^ a) ^ n := by rw [← zpow_natCast, ← zpow_natCast, zpow_comm]
  rcases Int.le_total 0 a with ha | ha
  · refine hraise 10 (by decide) (3 * a) ?_ h
    rw [zpow_mul]
    exact zpow_le_zpow_left₀ ha (by norm_num) (by norm_num)
  · refine hraise 43 (by decide) (13 * a) ?_ h'
    obtain ⟨n, rfl⟩ := Int.exists_eq_neg_ofNat ha
    rw [zpow_mul, zpow_neg, zpow_neg]
    refine inv_anti₀ (zpow_pos (by norm_num) _) (zpow_le_zpow_left₀ (Int.natCast_nonneg n) (by norm_num) ?_)
    norm_num

theorem exists_unitsInOne_eq : ∃ k : Nat, k = 1074 ∧ unitsInOne = 2 ^ k := by
  refine ⟨_, rfl, ?_⟩
  unfold unitsInOne
  generalize 1074 = k
  exact Nat.pow_eq

/-- The first grid that is tried is not above the double. -/
theorem zpow_magnitudeOf_le (h : units ≠ 0) (hlog : units.log2 < 2098) : unitsInOne * (10 : ℚ) ^ (magnitudeOf units - 1) ≤ units := by
  have hnot {k : Int} (hk : ¬units * 10 ^ (-k).toNat < unitsInOne * 10 ^ k.toNat) : unitsInOne * (10 : ℚ) ^ k ≤ units :=
    (toNat_le_iff k _ _).1 (Nat.not_lt.1 hk)
  have hestimate : unitsInOne * (10 : ℚ) ^ (((units.log2 : Int) - 1074) * 30103 / 100000 - 1 - 1) ≤ units := by
    obtain ⟨k, hk, hunits⟩ := exists_unitsInOne_eq
    calc (unitsInOne : ℚ) * 10 ^ (((units.log2 : Int) - 1074) * 30103 / 100000 - 1 - 1)
        ≤ unitsInOne * 2 ^ ((units.log2 : Int) - 1074) :=
          mul_le_mul_of_nonneg_left (ten_zpow_le_two_zpow (by omega) (by omega)) unitsInOne_pos'.le
      _ = 2 ^ units.log2 := by
          rw [hunits, Nat.cast_pow, Nat.cast_ofNat, ← zpow_natCast, ← zpow_natCast, ← zpow_add₀ two_ne_zero,
            show (k : Int) + (units.log2 - 1074) = units.log2 by omega]
      _ ≤ units := by exact_mod_cast Nat.log2_self_le h
  unfold magnitudeOf
  dsimp only
  simp only [Nat.pow_eq]
  split
  · exact hestimate
  rename_i hbefore
  split
  · exact hnot hbefore
  rename_i hat
  split
  · rw [Int.add_sub_cancel]
    exact hnot hat
  · rename_i hafter
    rw [show ∀ k : Int, k + 2 - 1 = k + 1 by omega]
    exact hnot hafter

/-! ## The shortest decimal -/

/-- Zeros at the end of the digits make no difference. -/
theorem Decimal.value_trimZeros (fuel : Nat) (d : Decimal) : (d.trimZeros fuel).value = d.value := by
  induction fuel generalizing d with
  | zero => rfl
  | succ fuel ih =>
    rw [trimZeros]
    split
    · rename_i h
      have hdigits : (d.digits : ℚ) = (d.digits / 10 : Nat) * 10 := by exact_mod_cast (Nat.div_mul_cancel (Nat.dvd_of_mod_eq_zero h.2)).symm
      rw [ih, value, value, hdigits, zpow_add_one₀ (by norm_num), mul_comm ((10 : ℚ) ^ _), mul_assoc]
    · rfl

/-- The shortest decimal is the one that is taken on some grid, without its zeros. -/
theorem exists_shortest_eq (tie : Tie) (h : units ≠ 0) (hlog : units.log2 < 2098) :
    ∃ e d, onGrid? tie units e = some d ∧ shortest tie units = d.trimZeros 17 := by
  have hsome : ((List.range 17).findSome? fun count => onGrid? tie units (magnitudeOf units - (count + 1 : Nat))).isSome = true := by
    refine List.findSome?_isSome_iff.2 ⟨16, by decide, isSome_onGrid? tie h ?_⟩
    have hle := zpow_magnitudeOf_le h hlog
    generalize magnitudeOf units = top at hle ⊢
    rw [show top - 1 = (16 : Nat) + (top - (16 + 1 : Nat)) by omega, zpow_add₀ (by norm_num), zpow_natCast] at hle
    rwa [Nat.cast_mul, Nat.cast_pow, Nat.cast_ofNat, mul_comm ((10 : ℚ) ^ 16), mul_assoc]
  obtain ⟨d, hd⟩ := Option.isSome_iff_exists.1 hsome
  obtain ⟨count, -, hcount⟩ := List.exists_of_findSome?_eq_some hd
  refine ⟨_, d, hcount, ?_⟩
  unfold shortest
  dsimp only
  rw [hd]
  rfl

theorem unitsAt_bounds (hpos : 0 < c) (hc : c < infinityCode) : unitsAt c ≠ 0 ∧ (unitsAt c).log2 < 2098 := by
  obtain ⟨m, k, rfl, hm, hfull⟩ := exists_eq_add c
  have hne : m ≠ 0 := by omega
  have hlog : m.log2 < 53 := (Nat.log2_lt hne).2 hm
  rw [infinityCode] at hc
  rw [unitsAt_add (Nat.le_of_lt hm) hfull]
  refine ⟨Nat.mul_ne_zero hne (Nat.ne_of_gt (Nat.two_pow_pos k)), ?_⟩
  rw [log2_mul_two_pow hne]
  omega

/-- The double that a shortest decimal is made for is nearest to it. -/
theorem isNearestCode_shortest (tie : Tie) (hpos : 0 < c) (hc : c < infinityCode) :
    IsNearestCode ((shortest tie (unitsAt c)).value * unitsInOne) c := by
  obtain ⟨hne, hlog⟩ := unitsAt_bounds hpos hc
  obtain ⟨e, d, hgrid, hshortest⟩ := exists_shortest_eq tie hne hlog
  obtain ⟨c, rfl⟩ := Nat.exists_eq_add_one_of_ne_zero (Nat.ne_of_gt hpos)
  rw [hshortest, Decimal.value_trimZeros]
  exact isNearestCode_of_onGrid? hc hgrid

/-! ## Its text -/

/-- Zeros after digits multiply, and zeros before them make no difference. -/
theorem digitsValue_append_zeros (ds : List Char) (n : Nat) : digitsValue (ds ++ List.replicate n '0') = digitsValue ds * 10 ^ n := by
  have happend : digitsValue (ds ++ List.replicate n '0') = Nat.ofDigitChars 10 (List.replicate n '0') (digitsValue ds) :=
    Nat.ofDigitChars_append 0
  rw [happend, Nat.ofDigitChars_replicate_zero, Nat.mul_comm]

theorem digitsValue_zeros_append (n : Nat) (ds : List Char) : digitsValue (List.replicate n '0' ++ ds) = digitsValue ds := by
  have happend : digitsValue (List.replicate n '0' ++ ds) = Nat.ofDigitChars 10 ds (Nat.ofDigitChars 10 (List.replicate n '0') 0) :=
    Nat.ofDigitChars_append 0
  rw [happend, Nat.ofDigitChars_replicate_zero, Nat.mul_zero]
  rfl

theorem isDigits_digitsText (n : Nat) : IsDigits (digitsText n) := ⟨Nat.toDigits_ne_nil, fun _ => isDigit_of_mem_digitsText⟩

theorem isDigits_append_of_digits {s t : List Char} (hs : ∀ c ∈ s, isDigit c = true) (ht : ∀ c ∈ t, isDigit c = true)
    (hne : s ++ t ≠ []) : IsDigits (s ++ t) :=
  ⟨hne, fun c hc => (List.mem_append.1 hc).elim (hs c) (ht c)⟩

theorem IsDigits.take {s : List Char} (h : IsDigits s) {k : Nat} (hk : k ≠ 0) : IsDigits (s.take k) := by
  refine ⟨fun hnil => ?_, fun c hc => h.2 c (List.mem_of_mem_take hc)⟩
  rcases List.take_eq_nil_iff.1 hnil with hzero | hnone
  · exact hk hzero
  · exact h.1 hnone

theorem IsDigits.drop {s : List Char} (h : IsDigits s) {k : Nat} (hk : k < s.length) : IsDigits (s.drop k) := by
  refine ⟨fun hnil => ?_, fun c hc => h.2 c (List.mem_of_mem_drop hc)⟩
  exact Nat.not_le.2 hk (List.drop_eq_nil_iff.1 hnil)

/-- The text of a decimal without an exponent: digits that are the decimal, with a point before some of them. -/
theorem Decimal.exists_spellsDigits (d : Decimal) :
    ∃ digits places, SpellsDigits d.positional digits places ∧ (digitsValue digits : ℚ) * 10 ^ (0 - (places : Int)) = d.value := by
  have hdigits := isDigits_digitsText d.digits
  have hlength := List.length_pos_iff.2 hdigits.1
  have hzeros : ∀ n, ∀ c ∈ List.replicate n '0', isDigit c = true := by
    intro n c hc
    rw [List.eq_of_mem_replicate hc]
    rfl
  unfold positional
  dsimp only
  split
  · rename_i zeros hexponent
    refine ⟨_, 0, .whole (isDigits_append_of_digits hdigits.2 (hzeros _) (List.append_ne_nil_of_left_ne_nil hdigits.1 _)), ?_⟩
    rw [digitsValue_append_zeros, Json.digitsValue_digitsText, value, hexponent, Int.ofNat_eq_natCast, zpow_natCast]
    simp
  · rename_i k hexponent
    have hplaces : (0 : Int) - (k + 1 : Nat) = d.exponent := by omega
    split
    · rename_i hlt
      refine ⟨_, _, .fraction (hdigits.take (by omega)) (hdigits.drop (by omega)), ?_⟩
      rw [List.take_append_drop, Json.digitsValue_digitsText, List.length_drop, value, ← hplaces]
      congr 2
      omega
    · rename_i hge
      obtain ⟨fraction, hfraction⟩ : ∃ fraction, fraction = List.replicate (k + 1 - (digitsText d.digits).length) '0' ++ digitsText d.digits :=
        ⟨_, rfl⟩
      have hlength : fraction.length = k + 1 := by
        rw [hfraction, List.length_append, List.length_replicate]
        omega
      have hvalue : digitsValue (['0'] ++ fraction) = d.digits := by
        rw [hfraction, ← List.append_assoc, ← List.replicate_one, List.replicate_append_replicate, digitsValue_zeros_append,
          Json.digitsValue_digitsText]
      have hdigits' : IsDigits fraction := hfraction ▸
        isDigits_append_of_digits (hzeros _) hdigits.2 (List.append_ne_nil_of_right_ne_nil _ hdigits.1)
      refine ⟨['0'] ++ fraction, fraction.length, ?_, by rw [hvalue, hlength, hplaces, value]⟩
      rw [List.cons_append, List.cons_append, ← hfraction]
      have hwhole : IsDigits ['0'] := ⟨List.cons_ne_nil _ _, hzeros 1⟩
      exact .fraction hwhole hdigits'

/-- The text of a decimal with its sign spells the decimal. -/
theorem Decimal.spells_positional (d : Decimal) (negative : Bool) : Spells (signed negative d.positional) negative d.value := by
  obtain ⟨digits, places, hdigits, hvalue⟩ := d.exists_spellsDigits
  have hspells {sign : List Char} (hsign : SpellsSign sign negative) : Spells (sign ++ (d.positional ++ [])) negative d.value :=
    hvalue ▸ .mk hsign hdigits .absent
  rw [List.append_nil] at hspells
  cases negative with
  | false => exact hspells .absent
  | true => exact hspells .minus

/-! ## Finite doubles -/

/-- The bits of a finite double, without the sign, are below those of infinity. -/
theorem magnitude_lt (h : x.isFinite = true) : magnitude x.toBits.toBitVec < infinityCode := by
  have hfinite : x.toModel.unpack.isFinite = true := h
  have hzero : 0 < infinityCode := by decide
  rw [← natAbs_rank]
  rcases hasPlace_or_notANumber x with ⟨-, hplace⟩ | ⟨-, hunpack⟩
  · generalize x.toModel.unpack = f at hfinite hplace
    generalize rank x = i at hplace ⊢
    cases hplace with
    | infinity => cases hfinite
    | zero => exact hzero
    | finite sign _ _ hlt => rwa [natAbs_apply]
  · rw [hunpack] at hfinite
    cases hfinite

/-- The bits of a double are its sign and the others. -/
theorem toNat_toBits_eq (x : Float) : x.toBits.toNat = (if hasMinus x then 2 ^ 63 else 0) + magnitude x.toBits.toBitVec := by
  have hbits : x.toBits.toNat < 2 ^ 64 := x.toBits.toBitVec.isLt
  have hmagnitude : magnitude x.toBits.toBitVec = x.toBits.toNat % 2 ^ 63 := rfl
  rw [hmagnitude]
  simp only [hasMinus, decide_eq_true_eq]
  split <;> omega

/-- A finite double is its sign and its units. -/
theorem exact_of_isFinite (h : x.isFinite = true) : exact x = .finite (hasMinus x) (unitsAt (magnitude x.toBits.toBitVec)) := by
  have hmagnitude : magnitude x.toBits.toBitVec = x.toBits.toNat % 2 ^ 63 := rfl
  have hlt := magnitude_lt h
  rw [hmagnitude, infinityCode] at hlt
  unfold exact hasMinus
  rw [hmagnitude]
  simp only [Nat.pow_eq]
  generalize x.toBits.toNat = b at hlt ⊢
  rw [if_neg (by omega)]
  split
  · rw [unitsAt, if_pos (by omega), show b % 2 ^ 63 = b % 2 ^ 52 by omega]
  · rw [unitsAt, if_neg (by omega), show b % 2 ^ 63 % 2 ^ 52 = b % 2 ^ 52 by omega,
      show b % 2 ^ 63 / 2 ^ 52 = b / 2 ^ 52 % 2 ^ 11 by omega]

/-- A double is zero if it has no units. -/
theorem magnitude_eq_zero_iff (h : x.isFinite = true) : magnitude x.toBits.toBitVec = 0 ↔ (x == 0) = true := by
  have hzero : rank 0 = 0 ∧ (0 : Float).isNaN = false := by decide
  have hnumber : x.isNaN = false := (isNaN_of_toNat_toBits (toNat_toBits_eq x) (magnitude_lt h).le).1
  rw [beq_iff, hzero.1, ← natAbs_rank, Int.natAbs_eq_zero]
  exact ⟨fun hrank => ⟨hnumber, hzero.2, hrank⟩, fun hall => hall.2.2⟩

theorem text_of_magnitude_eq_zero (h : x.isFinite = true) (hzero : magnitude x.toBits.toBitVec = 0) : text x = "0" := by
  rw [text, exact_of_isFinite h, hzero]
  rfl

/-- The text of a finite double that is not zero spells a decimal to which the double is nearest. -/
theorem spells_text (h : x.isFinite = true) (hne : magnitude x.toBits.toBitVec ≠ 0) :
    ∃ v, Spells (text x).toList (hasMinus x) v ∧ IsNearest x (hasMinus x) v := by
  have hpos := Nat.pos_of_ne_zero hne
  have hlt := magnitude_lt h
  refine ⟨_, ?_, (isNearestCode_shortest .up hpos hlt).isNearest (toNat_toBits_eq x)⟩
  rw [text, exact_of_isFinite h]
  dsimp only
  rw [if_neg (unitsAt_bounds hpos hlt).1, String.toList_ofList]
  exact Decimal.spells_positional _ _

/-- The text of a finite double reads as the double, but that a zero loses its sign. -/
theorem read?_text (h : x.isFinite = true) : read? (text x).toList = some (if x == 0 then 0 else x) := by
  by_cases hzero : magnitude x.toBits.toBitVec = 0
  · rw [if_pos ((magnitude_eq_zero_iff h).1 hzero), text_of_magnitude_eq_zero h hzero]
    decide +kernel
  · obtain ⟨v, hspells, hnearest⟩ := spells_text h hzero
    rw [if_neg (mt (magnitude_eq_zero_iff h).2 hzero)]
    exact read?_eq_some_iff.2 ⟨_, v, hspells, hnearest⟩

end CellExpr.Number
