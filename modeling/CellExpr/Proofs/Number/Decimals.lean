import CellExpr.Number.Reading
import CellExpr.Proofs.Number.Accuracy

/-!
# Decimal numbers as doubles

The double of a decimal number is the nearest one to it (`isNearest_toDouble`). If the digits and the power of ten are doubles themselves,
their product or quotient is rounded once; otherwise it is made up of whole numbers of any size and then rounded. Far beyond the range of
doubles the number is not looked at, and infinity or zero is the nearest.
-/

namespace CellExpr.Number

open Float.Model Float.Model.UnpackedFloat

variable {n k : Nat} {x : Float} {q : ℚ}

/-- The number that digits with a power of ten stand for. -/
def Decimal.value (d : Decimal) : ℚ := d.digits * 10 ^ d.exponent

/-! ## Negation -/

theorem toNat_toBits_neg {c : Nat} (h : x.toBits.toNat = c) (hc : c ≤ infinityCode) : (-x).toBits.toNat = 2 ^ 63 + c := by
  rcases Nat.eq_zero_or_pos c with rfl | hpos
  · obtain rfl : x = 0 := eq_of_toNat_toBits h
    decide
  rcases Nat.eq_or_lt_of_le hc with rfl | hfinite
  · obtain rfl : x = infinity := eq_of_toNat_toBits h
    decide
  · have hbound : c < 2 ^ 63 := Nat.lt_trans hfinite (by decide)
    have hrank : rank x = c := (if_pos (by rwa [h])).trans (congrArg Int.ofNat h)
    obtain ⟨m, e, hm, hunpack, hcanonical, hcode⟩ := unpack_of_rank hrank hpos hfinite
    show (UnpackedFloat.pack .binary64 x.toModel.unpack.neg).toNat = _
    rw [hunpack]
    show (UnpackedFloat.pack .binary64 (.finite .negative m e hm)).toNat = _
    rw [toNat_pack_finite _ hm hcanonical, hcode, Nat.min_eq_left hc]
    rfl

/-- The nearest double to a negative number is the negative of the nearest double. -/
theorem IsNearest.neg (h : IsNearest x false q) : IsNearest (-x) true q := by
  obtain ⟨-, hsign, hcode⟩ := isNearest_iff.1 h
  have hbits : x.toBits.toNat = magnitude x.toBits.toBitVec := by
    have hlt : x.toBits.toNat < 2 ^ 63 := Nat.not_le.1 (of_decide_eq_false hsign)
    exact (Nat.mod_eq_of_lt hlt).symm
  exact hcode.isNearest (toNat_toBits_neg hbits hcode.le)

/-! ## Doubles that are whole numbers -/

/-- A double that is a positive whole number has all its digits. -/
theorem unpack_of_count (hn : n ≠ 0) (hrank : rank x = floorCode (unitsOf n 0)) (hdvd : 2 ^ excess (unitsOf n 0) ∣ unitsOf n 0)
    (hfinite : floorCode (unitsOf n 0) < infinityCode) :
    ∃ m e hm, x.toModel.unpack = .finite .positive m e hm ∧ 2 ^ 52 ≤ m ∧ -52 ≤ e ∧ e ≤ 972 ∧ (m * 2 ^ e : ℚ) = n := by
  have hne : unitsOf n 0 ≠ 0 := Nat.mul_ne_zero hn (Nat.ne_of_gt (Nat.two_pow_pos _))
  obtain ⟨m, e, hm, hunpack, hcanonical, hcode⟩ := unpack_of_rank hrank (floorCode_pos hne) hfinite
  have hunits : unitsOf m e = n * unitsInOne := (unitsOf_eq_of_code hcanonical hcode hdvd).trans (unitsOf_count n)
  obtain ⟨hlt, hle, hfull⟩ := hcanonical
  have hvalue : (m * 2 ^ e : ℚ) = n := by
    refine mul_right_cancel₀ unitsInOne_pos'.ne' ?_
    rw [mul_assoc, ← two_pow_toNat hle]
    exact_mod_cast hunits
  have hlow : -52 ≤ e := by
    by_contra hlow
    have hone : (1 : ℚ) ≤ n := Nat.one_le_cast.2 (Nat.pos_of_ne_zero hn)
    have hmantissa : (m : ℚ) < 2 ^ (53 : Int) := by exact_mod_cast hlt
    have hsmall : (m * 2 ^ e : ℚ) < 1 :=
      calc (m * 2 ^ e : ℚ) < 2 ^ (53 : Int) * 2 ^ e := mul_lt_mul_of_pos_right hmantissa (zpow_pos two_pos e)
        _ = 2 ^ (53 + e) := (zpow_add₀ two_ne_zero _ _).symm
        _ ≤ 2 ^ (0 : Int) := zpow_le_zpow_right₀ one_le_two (by omega)
        _ = 1 := zpow_zero 2
    linarith
  refine ⟨m, e, hm, hunpack, by omega, hlow, ?_, hvalue⟩
  unfold code infinityCode at *
  omega

/-- The powers of ten in the table are doubles. -/
theorem rank_powerOfTen (hk : k < Float.exactlyRepresentablePowersOfTen.size) :
    rank Float.exactlyRepresentablePowersOfTen[k] = floorCode (unitsOf (10 ^ k) 0) ∧
      2 ^ excess (unitsOf (10 ^ k) 0) ∣ unitsOf (10 ^ k) 0 ∧ floorCode (unitsOf (10 ^ k) 0) < infinityCode := by
  have hall : ∀ i : Fin 23, rank (getElem Float.exactlyRepresentablePowersOfTen i.val i.isLt) = floorCode (unitsOf (10 ^ i.val) 0) ∧
      2 ^ excess (unitsOf (10 ^ i.val) 0) ∣ unitsOf (10 ^ i.val) 0 ∧ floorCode (unitsOf (10 ^ i.val) 0) < infinityCode := by
    decide +kernel
  exact hall ⟨k, hk⟩

/-- A count below `2^53` and a power of ten that is a double are multiplied or divided with one rounding. -/
theorem isNearest_ofScientific_of_lt (hn : n ≠ 0) (h : n < 2 ^ 53) (hk : k ≤ 22) (s : Bool) :
    IsNearest (Float.ofScientific n s k) false (if s then n / 10 ^ k else n * 10 ^ k) := by
  obtain ⟨m, e, hm, hunpack, hdigits, hlow, hhigh, hvalue⟩ := @unpack_of_count n n.toUInt64.toFloat hn
    (by rw [toFloat_of_lt h]; exact rank_pack_normalize_count hn h) (dvd_count hn h) (floorCode_count_lt hn h)
  have hsize : k < Float.exactlyRepresentablePowersOfTen.size := Nat.lt_succ_of_le hk
  obtain ⟨hrank, hdvd, hfinite⟩ := rank_powerOfTen hsize
  obtain ⟨m', e', hm', hunpack', hdigits', hlow', hhigh', hvalue'⟩ := unpack_of_count (Nat.ne_of_gt (Nat.pow_pos (by decide))) hrank hdvd hfinite
  rw [Nat.cast_pow, Nat.cast_ofNat] at hvalue'
  rw [Float.ofScientific, dif_pos ⟨h, hk⟩]
  cases s with
  | false =>
    show IsNearest ⟨Float.Model.pack (UnpackedFloat.mul .binary64 n.toUInt64.toFloat.toModel.unpack _)⟩ false (n * 10 ^ k)
    rw [hunpack, hunpack', ← hvalue, ← hvalue']
    exact isNearest_mul hm hm' (Nat.le_trans hdigits (Nat.le_mul_of_pos_right m hm')) (by omega)
  | true =>
    show IsNearest ⟨Float.Model.pack (UnpackedFloat.div .binary64 n.toUInt64.toFloat.toModel.unpack _)⟩ false (n / 10 ^ k)
    rw [hunpack, hunpack', ← hvalue, ← hvalue']
    exact isNearest_div hm hm' (by omega)

/-! ## Whole numbers of any size -/

/-- Digits times a power of ten are a whole number, with digits added so that there are enough. -/
theorem isNearest_scaledUp (hn : n ≠ 0) (hk : k ≤ 2 ^ 11) :
    IsNearest ⟨Float.Model.ofScientific n k⟩ false (n * 10 ^ k) := by
  have hmodel : UnpackedFloat.ofScientific .binary64 n k = UnpackedFloat.mul .binary64
      (.finite .positive (n <<< 53) (-53) (by rw [Nat.shiftLeft_eq]; positivity)) (.finite .positive (10 ^ k) 0 (by positivity)) := by
    have hhigh : ¬(k : Int) > 2 ^ Format.binary64.exponentBits := by
      show ¬(k : Int) > 2 ^ 11
      omega
    have hlow : ¬(k : Int) < -(2 ^ Format.binary64.exponentBits + n.log2) := by
      show ¬(k : Int) < -(2 ^ 11 + n.log2)
      omega
    rw [UnpackedFloat.ofScientific, dif_neg hn, if_neg hhigh, if_neg hlow, if_pos (Int.natCast_nonneg k)]
    rfl
  have hdigits : 2 ^ 52 ≤ n <<< 53 * 10 ^ k := by
    rw [Nat.shiftLeft_eq]
    exact Nat.le_trans (by omega) (Nat.le_mul_of_pos_right _ (by positivity))
  have hvalue : ((n <<< 53 : Nat) : ℚ) * 2 ^ (-53 : Int) * ((10 ^ k : Nat) * 2 ^ (0 : Int)) = n * 10 ^ k := by
    have hcancel : (2 : ℚ) ^ 53 * 2 ^ (-53 : Int) = 1 := by rw [← zpow_natCast, ← zpow_add₀ two_ne_zero]; rfl
    rw [Nat.shiftLeft_eq, Nat.cast_mul, Nat.cast_pow, Nat.cast_pow, zpow_zero, mul_one, Nat.cast_ofNat, Nat.cast_ofNat, mul_assoc (n : ℚ),
      hcancel, mul_one]
  rw [Float.Model.ofScientific, hmodel, ← hvalue]
  exact isNearest_mul _ _ hdigits (by decide)

/-- Digits over a power of ten are a quotient of whole numbers. -/
theorem isNearest_scaledDown (hn : n ≠ 0) (hk : k + 1 ≤ 2 ^ 11 + n.log2) :
    IsNearest ⟨Float.Model.ofScientific n (Int.negSucc k)⟩ false (n / 10 ^ (k + 1)) := by
  have hmodel : UnpackedFloat.ofScientific .binary64 n (Int.negSucc k) = UnpackedFloat.div .binary64
      (.finite .positive n 0 (Nat.pos_of_ne_zero hn)) (.finite .positive (10 ^ (k + 1)) 0 (by positivity)) := by
    have hhigh : ¬Int.negSucc k > 2 ^ Format.binary64.exponentBits := by
      show ¬Int.negSucc k > 2 ^ 11
      omega
    have hlow : ¬Int.negSucc k < -(2 ^ Format.binary64.exponentBits + n.log2) := by
      show ¬Int.negSucc k < -(2 ^ 11 + n.log2)
      omega
    rw [UnpackedFloat.ofScientific, dif_neg hn, if_neg hhigh, if_neg hlow, if_neg (by omega)]
    rfl
  have hvalue : (n : ℚ) * 2 ^ (0 : Int) / ((10 ^ (k + 1) : Nat) * 2 ^ (0 : Int)) = n / 10 ^ (k + 1) := by
    rw [zpow_zero, mul_one, mul_one, Nat.cast_pow, Nat.cast_ofNat]
  rw [Float.Model.ofScientific, hmodel, ← hvalue]
  exact isNearest_div _ _ (by decide)

theorem isNearest_ofScientific_false (hn : n ≠ 0) (hk : k ≤ 2 ^ 11) : IsNearest (Float.ofScientific n false k) false (n * 10 ^ k) := by
  by_cases h : n < 2 ^ 53 ∧ k ≤ 22
  · exact isNearest_ofScientific_of_lt hn h.1 h.2 false
  · rw [Float.ofScientific, dif_neg h]
    exact isNearest_scaledUp hn hk

theorem isNearest_ofScientific_true (hn : n ≠ 0) (hk : k + 1 ≤ 2 ^ 11 + n.log2) :
    IsNearest (Float.ofScientific n true (k + 1)) false (n / 10 ^ (k + 1)) := by
  by_cases h : n < 2 ^ 53 ∧ k + 1 ≤ 22
  · exact isNearest_ofScientific_of_lt hn h.1 h.2 true
  · rw [Float.ofScientific, dif_neg h]
    exact isNearest_scaledDown hn hk

/-! ## The range of doubles -/

theorem digitCount_pos (hn : n ≠ 0) : 0 < digitCount n := by
  rw [digitCount, if_neg hn]
  exact Nat.length_toDigits_pos

theorem digitCount_le_iff (hn : n ≠ 0) (hk : 0 < k) : digitCount n ≤ k ↔ n < 10 ^ k := by
  rw [digitCount, if_neg hn, Nat.length_toDigits_le_iff (by decide) hk]

theorem digitCount_le_log2 (hn : n ≠ 0) : digitCount n ≤ n.log2 + 1 :=
  (digitCount_le_iff hn (Nat.succ_pos _)).2 (Nat.lt_of_lt_of_le Nat.lt_log2_self (Nat.pow_le_pow_left (by decide) _))

theorem lt_pow_digitCount (hn : n ≠ 0) : n < 10 ^ digitCount n := (digitCount_le_iff hn (digitCount_pos hn)).1 (Nat.le_refl _)

theorem pow_le_of_digitCount (hn : n ≠ 0) : 10 ^ (digitCount n - 1) ≤ n := by
  rcases Nat.eq_zero_or_pos (digitCount n - 1) with hzero | hpos
  · rw [hzero]
    exact Nat.pos_of_ne_zero hn
  · have := digitCount_pos hn
    exact Nat.not_lt.1 fun hlt => absurd ((digitCount_le_iff hn hpos).2 hlt) (by omega)

/-- Zero is the nearest double to what is at most half the smallest one. -/
theorem isNearest_zero (hq : 0 ≤ q) (hhalf : 2 * (q * unitsInOne) ≤ 1) : IsNearest 0 false q := by
  have hcode : IsNearestCode (q * unitsInOne) 0 := by
    refine isNearestCode_floor (Nat.zero_le _) ?_ ?_ fun _ => rfl
    · exact mul_nonneg hq unitsInOne_pos'.le
    · rwa [show unitsAt (0 + 1) = 1 from rfl, show unitsAt 0 = 0 from rfl, Nat.cast_zero, Nat.cast_one, zero_add]
  exact hcode.isNearest rfl

/-- Infinity is the nearest double to what is not less than the power of two that follows the finite ones. -/
theorem isNearest_infinity (hq : 2 ^ 1024 ≤ q) : IsNearest infinity false q := by
  have hcode : IsNearestCode (q * unitsInOne) infinityCode := by
    refine isNearestCode_infinity ?_
    rw [unitsAt_infinityCode, Nat.cast_mul, Nat.cast_pow, Nat.cast_ofNat]
    exact mul_le_mul_of_nonneg_right hq unitsInOne_pos'.le
  exact hcode.isNearest rfl

variable {d : Decimal}

theorem Decimal.value_lt (hd : d.digits ≠ 0) : d.value < 10 ^ (d.exponent + digitCount d.digits) := by
  have hlt : (d.digits : ℚ) < 10 ^ digitCount d.digits := by exact_mod_cast lt_pow_digitCount hd
  rw [value, add_comm, zpow_add₀ (by decide), zpow_natCast]
  exact mul_lt_mul_of_pos_right hlt (zpow_pos (by decide) _)

theorem Decimal.le_value (hd : d.digits ≠ 0) : 10 ^ (d.exponent + digitCount d.digits - 1) ≤ d.value := by
  have hle : (10 : ℚ) ^ (digitCount d.digits - 1) ≤ d.digits := by exact_mod_cast pow_le_of_digitCount hd
  have hpos := digitCount_pos hd
  have hexponent : d.exponent + digitCount d.digits - 1 = (digitCount d.digits - 1 : Nat) + d.exponent := by omega
  rw [value, hexponent, zpow_add₀ (by decide), zpow_natCast]
  exact mul_le_mul_of_nonneg_right hle (zpow_nonneg (by decide) _)

/-! ## Decimal numbers -/

/-- The double of a decimal number is the nearest one to it. -/
theorem Decimal.isNearest_toDouble (d : Decimal) : IsNearest d.toDouble false d.value := by
  unfold toDouble
  dsimp only
  by_cases hd : d.digits = 0
  · have hvalue : d.value = 0 := by rw [value, hd, Nat.cast_zero, zero_mul]
    rw [if_pos (.inl hd), hvalue]
    exact isNearest_zero le_rfl (by rw [zero_mul, mul_zero]; exact zero_le_one)
  have hpos : 0 ≤ d.value := mul_nonneg (Nat.cast_nonneg _) (zpow_nonneg (by decide) _)
  by_cases hsmall : d.exponent + digitCount d.digits < -330
  · rw [if_pos (.inr hsmall)]
    refine isNearest_zero hpos ?_
    have hunits : 2 * (unitsInOne : ℚ) ≤ 10 ^ 331 := by
      exact_mod_cast (by decide +kernel : 2 * unitsInOne ≤ 10 ^ 331)
    have hvalue : d.value ≤ 10 ^ (-331 : Int) :=
      (value_lt hd).le.trans (zpow_le_zpow_right₀ (by decide) (by omega))
    calc 2 * (d.value * unitsInOne) = d.value * (2 * unitsInOne) := mul_left_comm _ _ _
      _ ≤ 10 ^ (-331 : Int) * 10 ^ 331 := mul_le_mul hvalue hunits (mul_nonneg zero_le_two unitsInOne_pos'.le) (zpow_nonneg (by decide) _)
      _ = 1 := zpow_neg_mul_zpow_self _ (by decide)
  by_cases hlarge : d.exponent + digitCount d.digits > 310
  · rw [if_neg (not_or.2 ⟨hd, hsmall⟩), if_pos hlarge]
    refine isNearest_infinity ?_
    have hbound : (2 : ℚ) ^ 1024 ≤ 10 ^ 310 := by
      exact_mod_cast (by decide +kernel : 2 ^ 1024 ≤ 10 ^ 310)
    calc (2 : ℚ) ^ 1024 ≤ 10 ^ 310 := hbound
      _ = 10 ^ (310 : Int) := (zpow_natCast 10 310).symm
      _ ≤ 10 ^ (d.exponent + digitCount d.digits - 1) := zpow_le_zpow_right₀ (by decide) (by omega)
      _ ≤ d.value := le_value hd
  · rw [if_neg (not_or.2 ⟨hd, hsmall⟩), if_neg hlarge]
    have hcount := digitCount_pos hd
    have hlog := digitCount_le_log2 hd
    unfold value
    cases hexponent : d.exponent with
    | ofNat k =>
      rw [hexponent, Int.ofNat_eq_natCast] at hlarge
      rw [Int.ofNat_eq_natCast, zpow_natCast]
      exact isNearest_ofScientific_false hd (by omega)
    | negSucc k =>
      rw [zpow_negSucc, ← div_eq_mul_inv]
      exact isNearest_ofScientific_true hd (by omega)

end CellExpr.Number
