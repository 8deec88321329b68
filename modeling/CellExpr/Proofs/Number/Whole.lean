import CellExpr.Number.Rounding
import CellExpr.Proofs.Number.Addition

/-!
# Whole numbers as doubles

A sum of units that a double has room for is rounded to itself (`roundWithAccuracy_exact`). Counts below `2^53` are such sums, so
that the double of a count is exact (`isInteger_ofNat`) and so are differences of counts (`ofNat_sub`). What truncation makes of any
double follows from its whole part, if it has one (`truncateToWord_cases`).
-/

namespace CellExpr.Number

open Float.Model Float.Model.UnpackedFloat

/-! ## Exact rounding -/

/-- Dropping zeros loses nothing. -/
theorem shiftRight_of_dvd {m k : Nat} (h : 2 ^ k ∣ m) :
    ExtendedMantissa.mk m false false >>> k = ExtendedMantissa.mk (m / 2 ^ k) false false := by
  induction k with
  | zero =>
    rw [Nat.pow_zero, Nat.div_one]
    rfl
  | succ k ih =>
    obtain ⟨q, rfl⟩ := h
    have hk : 2 ^ (k + 1) * q = 2 ^ k * (2 * q) := by rw [Nat.pow_succ, Nat.mul_assoc]
    show (ExtendedMantissa.mk (2 ^ (k + 1) * q) false false >>> k).shiftRightOne = _
    rw [ih ⟨2 * q, hk⟩, Nat.mul_div_cancel_left _ (Nat.two_pow_pos _), hk, Nat.mul_div_cancel_left _ (Nat.two_pow_pos k),
      ExtendedMantissa.shiftRightOne]
    dsimp only
    rw [Nat.mul_div_cancel_left _ Nat.two_pos, Nat.mul_mod_right]
    rfl

/-- What a double has room for is rounded to itself. -/
theorem roundWithAccuracy_exact (s : Sign) {m : Nat} {e : Int} (hm : m ≠ 0) (he : -1074 ≤ e)
    (hexcess : e + 1074 ≤ excess (unitsOf m e)) (hdvd : 2 ^ excess (unitsOf m e) ∣ unitsOf m e) :
    ∃ m' e' hpos, roundWithAccuracy .binary64 s m e .exact = .finite s m' e' hpos ∧ IsCanonical m' e' ∧
      code m' e' = floorCode (unitsOf m e) := by
  have hunits : unitsOf m e ≠ 0 := Nat.mul_ne_zero hm (Nat.ne_of_gt (Nat.two_pow_pos _))
  have hle : e ≤ excess (unitsOf m e) - 1074 := by omega
  have hdigits : 2 ^ (excess (unitsOf m e) - 1074 - e : Int).toNat ∣ m := by
    refine Nat.dvd_of_mul_dvd_mul_right (Nat.two_pow_pos (e + 1074).toNat) ?_
    rw [← Nat.pow_add, show (excess (unitsOf m e) - 1074 - e : Int).toNat + (e + 1074).toNat = excess (unitsOf m e) by omega]
    exact hdvd
  have hquotient := @div_two_pow_eq m _ _ he hle
  rw [show ((excess (unitsOf m e) : Int) - 1074 + 1074).toNat = excess (unitsOf m e) by omega] at hquotient
  have hshift : shiftToTargetExponent .binary64 m e .exact =
      (⟨unitsOf m e / 2 ^ excess (unitsOf m e), false, false⟩, (excess (unitsOf m e) - 1074 : Int)) := by
    rw [shiftToTargetExponent, targetExponent_eq hm he, shiftToExponent, ExtendedMantissa.ofMantissaAndAccuracy,
      shiftRight_of_dvd hdigits, hquotient]
    exact congrArg _ (by omega)
  obtain ⟨m', e', hpos, hround, hcanonical, hcode⟩ := roundWithAccuracy_of_shift s (roundedMantissa_ne_zero hunits rfl) hshift rfl
  exact ⟨m', e', hpos, hround, hcanonical, hcode.trans (code_floor _)⟩

/-- A positive whole number that a double has room for keeps its units. -/
theorem rank_pack_normalize_exact {n e : Int} {u : Nat} (he : -1074 ≤ e) (hunits : signedUnits n e = u) (hu : u ≠ 0)
    (hdvd : 2 ^ excess u ∣ u) (hfinite : floorCode u < infinityCode) :
    rank ⟨Float.Model.pack (UnpackedFloat.normalize .binary64 n e .positive)⟩ = floorCode u := by
  have hpos : 0 < n := by
    by_contra hle
    have := Int.mul_nonpos_of_nonpos_of_nonneg (Int.not_lt.1 hle) (Int.natCast_nonneg (2 ^ (e + 1074).toNat))
    rw [signedUnits] at hunits
    omega
  obtain ⟨k, rfl⟩ := Int.eq_ofNat_of_zero_le (Int.le_of_lt hpos)
  obtain rfl : unitsOf k e = u := Int.ofNat_inj.1 ((signedUnits_apply .positive k e).symm.trans hunits)
  have hk : k ≠ 0 := by omega
  have hnormalize : UnpackedFloat.normalize .binary64 k e .positive = UnpackedFloat.round .binary64 .positive k e := by
    rw [UnpackedFloat.normalize, Int.compare_eq_gt.2 hpos, Int.toNat_natCast]
  obtain ⟨m₁, e₁, hround, hm₁, he₁, hexcess, hunits₁⟩ := round_eq_roundWithAccuracy .positive hk he
  obtain ⟨m, d, hm, hexact, hcanonical, hcode⟩ := roundWithAccuracy_exact .positive hm₁ he₁ (by rwa [hunits₁]) (by rwa [hunits₁])
  rw [hunits₁] at hcode
  rw [hnormalize, hround, hexact, rank_pack_finite _ hm hcanonical, hcode, Nat.min_eq_left (Nat.le_of_lt hfinite)]
  rfl

/-- A double with a positive place is finite and positive, unless it is infinity. -/
theorem HasPlace.exists_finite {f : UnpackedFloat} {c : Nat} (h : HasPlace f c) (hpos : 0 < c) (hfinite : c < infinityCode) :
    ∃ m e hm, f = .finite .positive m e hm ∧ IsCanonical m e ∧ code m e = c := by
  generalize hi : (c : Int) = i at h
  cases h with
  | infinity s => cases s <;> simp only [Sign.apply] at hi <;> omega
  | zero s => omega
  | @finite s m e hm hcanonical hcode =>
    cases s with
    | negative =>
      have := code_pos hm e
      simp only [Sign.apply] at hi
      omega
    | positive => exact ⟨m, e, hm, rfl, hcanonical, (Int.ofNat_inj.1 hi).symm⟩

/-- The bits of a double tell its units. -/
theorem unitsOf_eq_of_code {m u : Nat} {e : Int} (h : IsCanonical m e) (hcode : code m e = floorCode u)
    (hdvd : 2 ^ excess u ∣ u) : unitsOf m e = u := by
  have hle : unitsOf m e ≤ u := (code_le_floorCode_iff h).1 (Nat.le_of_eq hcode)
  have hself : unitsOf (u / 2 ^ excess u) (excess u - 1074) = u := by
    rw [unitsOf, show ((excess u : Int) - 1074 + 1074).toNat = excess u by omega, Nat.div_mul_cancel hdvd]
  refine Nat.le_antisymm hle ?_
  have hfloor : code m e ≤ floorCode (unitsOf m e) := (code_le_floorCode_iff h).2 (Nat.le_refl _)
  rw [hcode, ← code_floor, code_le_floorCode_iff (isCanonical_floor u), hself] at hfloor
  exact hfloor

/-- The bits of a double with a positive place. -/
theorem toNat_toBits_of_rank {x : Float} {c : Nat} (hrank : rank x = c) (hpos : 0 < c) : x.toBits.toNat = c := by
  simp only [rank] at hrank
  split at hrank <;> omega

/-- The double whose bits are those of some units that it has room for stands for these units. -/
theorem exact_of_rank {x : Float} {u : Nat} (hrank : rank x = floorCode u) (hpos : u ≠ 0) (hdvd : 2 ^ excess u ∣ u)
    (hfinite : floorCode u < infinityCode) : exact x = .finite false u := by
  have hcode : 0 < floorCode u := Nat.pos_of_ne_zero fun hzero => floor_ne_zero hpos (Nat.eq_zero_of_add_eq_zero hzero).1
  have hbits : x.toBits.toNat = floorCode u := toNat_toBits_of_rank hrank hcode
  obtain ⟨hlt, -, hfull⟩ := isCanonical_floor u
  have hself := Nat.div_mul_cancel hdvd
  rw [floorCode] at hbits hfinite
  rw [infinityCode] at hfinite
  generalize u / 2 ^ excess u = q at *
  generalize excess u = k at *
  simp only [exact, hbits, Nat.pow_eq]
  have hsign : ¬2 ^ 63 ≤ q + k * 2 ^ 52 := by omega
  rcases Nat.lt_or_ge q (2 ^ 52) with hq | hq
  · obtain rfl : k = 0 := by omega
    have hexponent : (q + 0 * 2 ^ 52) / 2 ^ 52 % 2 ^ 11 = 0 := by omega
    have hfraction : (q + 0 * 2 ^ 52) % 2 ^ 52 = q := by omega
    rw [hexponent, hfraction, decide_eq_false hsign, if_neg (by decide), if_pos rfl, ← hself, Nat.pow_zero, Nat.mul_one]
  · have hexponent : (q + k * 2 ^ 52) / 2 ^ 52 % 2 ^ 11 = k + 1 := by omega
    have hfraction : (q + k * 2 ^ 52) % 2 ^ 52 = q - 2 ^ 52 := by omega
    rw [hexponent, hfraction, decide_eq_false hsign, if_neg (by omega), if_neg (by omega), Nat.add_sub_cancel,
      Nat.add_sub_cancel' hq, hself]

/-- A double with a positive place below that of infinity is finite and positive. -/
theorem unpack_of_rank {x : Float} {c : Nat} (hrank : rank x = c) (hpos : 0 < c) (hfinite : c < infinityCode) :
    ∃ m e hm, x.toModel.unpack = .finite .positive m e hm ∧ IsCanonical m e ∧ code m e = c := by
  have hsigned := (rank_eq x).symm.trans hrank
  have hplace : HasPlace x.toModel.unpack (rank x) := by
    rw [rank_eq]
    refine @hasPlace_unpack x.toBits.toBitVec ?_
    cases hsign : signOf x.toBits.toBitVec <;> rw [hsign, Sign.apply] at hsigned <;> omega
  rw [hrank] at hplace
  exact hplace.exists_finite hpos hfinite

/-! ## Counts -/

section

variable {n : Nat} (hn : n ≠ 0) (h : n < 2 ^ 53)

include hn

/-- The units of a count end in many zeros. -/
theorem excess_count : excess (unitsOf n 0) = n.log2 + 1022 := by
  rw [excess, unitsOf, log2_mul_two_pow hn]
  omega

include h

theorem dvd_count : 2 ^ excess (unitsOf n 0) ∣ unitsOf n 0 := by
  have hlog : n.log2 < 53 := (Nat.log2_lt hn).2 h
  rw [excess_count hn]
  exact Nat.dvd_trans (Nat.pow_dvd_pow 2 (by omega)) (Nat.dvd_mul_left _ _)

theorem floorCode_count_lt : floorCode (unitsOf n 0) < infinityCode := by
  have hlog : n.log2 < 53 := (Nat.log2_lt hn).2 h
  have hlt := (isCanonical_floor (unitsOf n 0)).mantissa_lt
  have hexcess := excess_count hn
  unfold floorCode infinityCode
  omega

/-- A count is exact as a double before it is multiplied by a power of ten. -/
theorem rank_pack_normalize_count :
    rank ⟨Float.Model.pack (UnpackedFloat.normalize .binary64 n 0 .positive)⟩ = floorCode (unitsOf n 0) :=
  rank_pack_normalize_exact (by decide) (signedUnits_apply .positive n 0) (Nat.mul_ne_zero hn (Nat.ne_of_gt (Nat.two_pow_pos _)))
    (dvd_count hn h) (floorCode_count_lt hn h)

end

theorem unpack_one : (Float.ofBits 4607182418800017408).toModel.unpack = .finite .positive (2 ^ 52) (-52) (by decide) := rfl

theorem toFloat_of_lt {n : Nat} (h : n < 2 ^ 53) :
    n.toUInt64.toFloat = ⟨Float.Model.pack (UnpackedFloat.normalize .binary64 n 0 .positive)⟩ := by
  have hword : n.toUInt64.toNat = n := Nat.mod_eq_of_lt (by omega)
  show (⟨Float.Model.pack (UnpackedFloat.normalize .binary64 n.toUInt64.toNat 0 .positive)⟩ : Float) = _
  rw [hword]

theorem ofNat_of_lt {n : Nat} (h : n < 2 ^ 53) :
    ofNat n = ⟨Float.Model.pack (UnpackedFloat.mul .binary64
      (⟨Float.Model.pack (UnpackedFloat.normalize .binary64 n 0 .positive)⟩ : Float).toModel.unpack
      (.finite .positive (2 ^ 52) (-52) (by decide)))⟩ := by
  rw [ofNat, Float.ofScientific, dif_pos ⟨h, by decide⟩, toFloat_of_lt h]
  show (⟨Float.Model.pack (UnpackedFloat.mul .binary64 _ (Float.ofBits 4607182418800017408).toModel.unpack)⟩ : Float) = _
  rw [unpack_one]

theorem floorCode_pos {u : Nat} (h : u ≠ 0) : 0 < floorCode u :=
  Nat.lt_of_lt_of_le (Nat.pos_of_ne_zero (floor_ne_zero h)) (Nat.le_add_right _ _)

theorem rank_ofNat {n : Nat} (hn : n ≠ 0) (h : n < 2 ^ 53) : rank (ofNat n) = floorCode (unitsOf n 0) := by
  have hfinite := floorCode_count_lt hn h
  have hne : unitsOf n 0 ≠ 0 := Nat.mul_ne_zero hn (Nat.ne_of_gt (Nat.two_pow_pos _))
  obtain ⟨m, e, hm, hunpack, hcanonical, hcode⟩ := unpack_of_rank (rank_pack_normalize_count hn h) (floorCode_pos hne) hfinite
  have hunits : unitsOf m e = unitsOf n 0 := unitsOf_eq_of_code hcanonical hcode (dvd_count hn h)
  -- the exponent is the one that the units of the count have, or next to it
  have hexponent : -52 ≤ e ∧ e + 1022 ≤ excess (unitsOf n 0) := by
    obtain ⟨hlt, hle, -⟩ := hcanonical
    obtain ⟨hlt', -, hfull'⟩ := isCanonical_floor (unitsOf n 0)
    have hexcess := excess_count hn
    unfold code floorCode at hcode
    omega
  have hscaled : unitsOf (m * 2 ^ 52) (e + -52) = unitsOf n 0 := by
    have hdecrease : unitsOf (m * 2 ^ (e - (e + -52)).toNat) (min e (e + -52)) = unitsOf m e :=
      unitsOf_decrease hcanonical.le_exponent (by omega)
    rwa [show (e - (e + -52)).toNat = 52 by omega, show min e (e + -52) = e + -52 by omega, hunits] at hdecrease
  obtain ⟨m', e', hm', hround, hcanonical', hcode'⟩ := @roundWithAccuracy_exact .positive (m * 2 ^ 52) (e + -52)
    (by omega) (by omega) (by rw [hscaled]; omega) (by rw [hscaled]; exact dvd_count hn h)
  rw [hscaled] at hcode'
  rw [ofNat_of_lt h, hunpack]
  show rank ⟨Float.Model.pack (roundWithAccuracy .binary64 .positive (m * 2 ^ 52) (e + -52) .exact)⟩ = _
  rw [hround, rank_pack_finite _ hm' hcanonical', hcode', Nat.min_eq_left (Nat.le_of_lt hfinite)]
  rfl

theorem unitsOf_count (n : Nat) : unitsOf n 0 = n * unitsInOne := by
  have hexponent : ((0 : Int) + 1074).toNat = 1074 := rfl
  unfold unitsOf unitsInOne
  rw [hexponent]
  generalize 1074 = k
  rw [Nat.pow_eq]

/-- The double of a count below `2^53` is exact. -/
theorem exact_ofNat {n : Nat} (h : n < 2 ^ 53) : exact (ofNat n) = .finite false (n * unitsInOne) := by
  by_cases hn : n = 0
  · subst hn
    rw [Nat.zero_mul]
    decide +kernel
  · have hne : unitsOf n 0 ≠ 0 := Nat.mul_ne_zero hn (Nat.ne_of_gt (Nat.two_pow_pos _))
    rw [← unitsOf_count]
    exact exact_of_rank (rank_ofNat hn h) hne (dvd_count hn h) (floorCode_count_lt hn h)

theorem ofNat_of_le {n : Nat} (h : 2 ^ 53 ≤ n) :
    ofNat n = ⟨Float.Model.pack (roundWithAccuracy .binary64 .positive (n <<< 53) (-53) .exact)⟩ := by
  have hn : n ≠ 0 := by omega
  have hfuel : ¬(0 : Int) < -(2 ^ Format.binary64.exponentBits + n.log2) := by
    show ¬(0 : Int) < -(2 ^ 11 + n.log2)
    omega
  rw [ofNat, Float.ofScientific, dif_neg (by omega), if_neg (by decide)]
  show (⟨Float.Model.pack (UnpackedFloat.ofScientific .binary64 n 0)⟩ : Float) = _
  rw [UnpackedFloat.ofScientific, dif_neg hn, if_neg (by decide), if_neg hfuel, if_pos (by decide)]
  show (⟨Float.Model.pack (roundWithAccuracy .binary64 .positive (n <<< 53 * 1) (-53 + 0) .exact)⟩ : Float) = _
  rw [Nat.mul_one, Int.add_zero]

/-- The double of a count is not negative. -/
theorem rank_ofNat_nonneg (n : Nat) : 0 ≤ rank (ofNat n) := by
  by_cases hn : n = 0
  · subst hn
    decide +kernel
  rcases Nat.lt_or_ge n (2 ^ 53) with h | h
  · rw [rank_ofNat hn h]
    exact Int.natCast_nonneg _
  · have hne : n <<< 53 ≠ 0 := by
      rw [Nat.shiftLeft_eq]
      omega
    have hunits : unitsOf (n * 2 ^ (0 - (-53 : Int)).toNat) (min 0 (-53)) = unitsOf n 0 := unitsOf_decrease (by decide) (by decide)
    replace hunits : unitsOf (n <<< 53) (-53) = unitsOf n 0 := by rwa [Nat.shiftLeft_eq]
    obtain ⟨m, e, hm, hround, hcanonical, -⟩ := roundWithAccuracy_eq .positive hne (show -1074 ≤ (-53 : Int) by decide)
      (by rw [hunits, excess_count hn]; omega)
    rw [ofNat_of_le h, hround, rank_pack_finite _ hm hcanonical]
    exact Int.natCast_nonneg _

theorem ofNat_ne_neg_one (n : Nat) : ofNat n ≠ -1 := by
  have hneg : rank (-1) < 0 := by decide +kernel
  intro h
  have := rank_ofNat_nonneg n
  rw [h] at this
  omega

/-! ## Differences of counts -/

/-- A double is its bits. -/
theorem eq_of_toNat_toBits {x y : Float} (h : x.toBits.toNat = y.toBits.toNat) : x = y := by
  obtain ⟨⟨a, ha⟩⟩ := x
  obtain ⟨⟨b, hb⟩⟩ := y
  obtain rfl : a = b := UInt64.toNat_inj.1 h
  rfl

/-- The place of a double that is not zero tells which one it is. -/
theorem eq_of_rank {x y : Float} (h : rank x = rank y) (hpos : 0 < rank x) : x = y := by
  refine eq_of_toNat_toBits ?_
  simp only [rank] at h hpos
  split at h <;> split at h <;> split at hpos <;> omega

/-- A count other than zero as a double, taken apart. -/
theorem unpack_ofNat {n : Nat} (hn : n ≠ 0) (h : n < 2 ^ 53) :
    ∃ m e hm, (ofNat n).toModel.unpack = .finite .positive m e hm ∧ IsCanonical m e ∧ code m e = floorCode (unitsOf n 0) := by
  have hne : unitsOf n 0 ≠ 0 := Nat.mul_ne_zero hn (Nat.ne_of_gt (Nat.two_pow_pos _))
  exact unpack_of_rank (rank_ofNat hn h) (floorCode_pos hne) (floorCode_count_lt hn h)

theorem ofNat_sub_self {n : Nat} (h : n < 2 ^ 53) : ofNat n - ofNat n = ofNat 0 := by
  by_cases hn : n = 0
  · subst hn
    rfl
  · obtain ⟨m, e, hm, hunpack, -, -⟩ := unpack_ofNat hn h
    show (⟨Float.Model.pack (UnpackedFloat.sub .binary64 (ofNat n).toModel.unpack (ofNat n).toModel.unpack)⟩ : Float) = _
    rw [hunpack]
    show (⟨Float.Model.pack (UnpackedFloat.normalize .binary64 (_ - _) _ .positive)⟩ : Float) = _
    rw [Int.sub_self]
    rfl

theorem rank_ofNat_sub_zero {n : Nat} (hn : n ≠ 0) (h : n < 2 ^ 53) : rank (ofNat n - ofNat 0) = floorCode (unitsOf n 0) := by
  obtain ⟨m, e, hm, hunpack, hcanonical, hcode⟩ := unpack_ofNat hn h
  show rank ⟨Float.Model.pack (UnpackedFloat.sub .binary64 (ofNat n).toModel.unpack (ofNat 0).toModel.unpack)⟩ = _
  rw [hunpack]
  show rank ⟨Float.Model.pack (.finite .positive m e hm)⟩ = _
  rw [rank_pack_finite _ hm hcanonical, hcode, Nat.min_eq_left (Nat.le_of_lt (floorCode_count_lt hn h))]
  rfl

theorem rank_ofNat_sub {a b : Nat} (hb : b ≠ 0) (hlt : b < a) (h : a < 2 ^ 53) :
    rank (ofNat a - ofNat b) = floorCode (unitsOf (a - b) 0) := by
  have ha : a ≠ 0 := by omega
  have hsub : a - b ≠ 0 := by omega
  obtain ⟨m, e, hm, hunpack, hcanonical, hcode⟩ := unpack_ofNat ha h
  obtain ⟨k, d, hk, hunpack', hcanonical', hcode'⟩ := unpack_ofNat hb (Nat.lt_trans hlt h)
  have hunits := signedUnits_sum .positive .negative m k hcanonical.le_exponent hcanonical'.le_exponent
  rw [unitsOf_eq_of_code hcanonical hcode (dvd_count ha h),
    unitsOf_eq_of_code hcanonical' hcode' (dvd_count hb (Nat.lt_trans hlt h))] at hunits
  have hmin : -1074 ≤ min e d := Int.le_min.2 ⟨hcanonical.le_exponent, hcanonical'.le_exponent⟩
  show rank ⟨Float.Model.pack (UnpackedFloat.sub .binary64 (ofNat a).toModel.unpack (ofNat b).toModel.unpack)⟩ = _
  rw [hunpack, hunpack']
  show rank ⟨Float.Model.pack (UnpackedFloat.normalize .binary64
    (((decreaseExponent m e (min e d)).1 : Int) - (decreaseExponent k d (min e d)).1) (min e d) .positive)⟩ = _
  rw [decreaseExponent_eq, decreaseExponent_eq]
  refine rank_pack_normalize_exact hmin (hunits.trans ?_) (Nat.mul_ne_zero hsub (Nat.ne_of_gt (Nat.two_pow_pos _)))
    (dvd_count hsub (by omega)) (floorCode_count_lt hsub (by omega))
  rw [unitsOf_count, unitsOf_count, unitsOf_count, Nat.sub_mul]
  have hle := Nat.mul_le_mul_right unitsInOne (Nat.le_of_lt hlt)
  simp only [Sign.apply]
  omega

/-- Counts below `2^53` are subtracted without rounding. -/
theorem ofNat_sub {a b : Nat} (hle : b ≤ a) (h : a < 2 ^ 53) : ofNat a - ofNat b = ofNat (a - b) := by
  rcases Nat.eq_or_lt_of_le hle with rfl | hlt
  · rw [ofNat_sub_self h, Nat.sub_self]
  · have hsub : a - b ≠ 0 := by omega
    have hne : unitsOf (a - b) 0 ≠ 0 := Nat.mul_ne_zero hsub (Nat.ne_of_gt (Nat.two_pow_pos _))
    have hrank : rank (ofNat a - ofNat b) = floorCode (unitsOf (a - b) 0) := by
      by_cases hb : b = 0
      · subst hb
        exact rank_ofNat_sub_zero hsub h
      · exact rank_ofNat_sub hb hlt h
    exact eq_of_rank (hrank.trans (rank_ofNat hsub (by omega)).symm) (hrank ▸ Int.natCast_pos.2 (floorCode_pos hne))

/-! ## Truncation -/

/-- A finite double in units, with its sign. -/
def inUnits? (x : Float) : Option Int :=
  match exact x with
  | .finite negative units => some (if negative then -units else units)
  | _ => none

/-- The whole number that is left of a finite double without its fraction. -/
def whole? (x : Float) : Option Int := (inUnits? x).map (·.tdiv unitsInOne)

/-- The double is a whole number. -/
def IsInteger (x : Float) (n : Int) : Prop := inUnits? x = some (n * unitsInOne)

instance (x : Float) (n : Int) : Decidable (IsInteger x n) := inferInstanceAs (Decidable (inUnits? x = some (n * unitsInOne)))

variable {x : Float} {n : Int}

theorem unitsInOne_pos : 0 < unitsInOne := by
  unfold unitsInOne
  generalize 1074 = k
  exact Nat.two_pow_pos k

theorem IsInteger.whole? (h : IsInteger x n) : whole? x = some n := by
  have hpos := unitsInOne_pos
  rw [Number.whole?, h, Option.map_some, Int.mul_tdiv_cancel _ (by omega)]

theorem isInteger_ofNat {n : Nat} (h : n < 2 ^ 53) : IsInteger (ofNat n) n := by
  rw [IsInteger, inUnits?, exact_ofNat h]
  exact congrArg some (Int.natCast_mul n unitsInOne)

/-- Truncation holds the whole number of a finite double between the bounds. -/
theorem truncateToWord_of_whole? (h : whole? x = some n) : truncateToWord x = max minWord (min maxWord n) := by
  unfold whole? inUnits? at h
  unfold truncateToWord
  cases hexact : exact x with
  | finite negative units =>
    rw [hexact] at h
    obtain rfl := Option.some.inj h
    cases negative with
    | false => rfl
    | true =>
      show max minWord (min maxWord (-((units / unitsInOne : Nat) : Int))) = max minWord (min maxWord ((-(units : Int)).tdiv unitsInOne))
      rw [Int.neg_tdiv]
      rfl
  | infinite negative =>
    rw [hexact] at h
    cases h
  | undefined =>
    rw [hexact] at h
    cases h

/-- The bits of a double tell whether it is a number. -/
theorem isNaN_iff (x : Float) : x.isNaN = true ↔ infinityCode < magnitude x.toBits.toBitVec := by
  rcases Nat.lt_or_ge infinityCode (magnitude x.toBits.toBitVec) with h | h
  · have hunpack : x.toModel.unpack = .notANumber := unpack_of_infinityCode_lt h
    exact iff_of_true (congrArg UnpackedFloat.isNaN hunpack) h
  · have hplace : HasPlace x.toModel.unpack _ := hasPlace_unpack h
    have hnumber : x.isNaN = false := hplace.isNaN_eq_false
    exact iff_of_false (Bool.eq_false_iff.1 hnumber) (Nat.not_lt.2 h)

theorem exact_eq_undefined_iff (x : Float) : exact x = .undefined ↔ x.isNaN = true := by
  have hmagnitude : magnitude x.toBits.toBitVec = x.toBits.toNat % 2 ^ 63 := rfl
  rw [isNaN_iff, hmagnitude, infinityCode]
  simp only [exact, Nat.pow_eq]
  split
  · split <;> simp only [reduceCtorEq, true_iff, false_iff] <;> omega
  · split <;> simp only [reduceCtorEq, false_iff] <;> omega

theorem isNaN_of_whole? (h : whole? x = some n) : x.isNaN = false := by
  rw [Bool.eq_false_iff, Ne, ← exact_eq_undefined_iff]
  intro hexact
  rw [whole?, inUnits?, hexact] at h
  cases h

theorem truncateToWord_of_isNaN (h : x.isNaN = true) : truncateToWord x = 0 := by
  rw [truncateToWord, (exact_eq_undefined_iff x).2 h]

/-- What truncation comes to: the whole number of a finite double, held between the bounds; 0 for what is no number; a bound for an
infinity. -/
theorem truncateToWord_cases (x : Float) :
    (∃ n, whole? x = some n ∧ x.isNaN = false ∧ truncateToWord x = max minWord (min maxWord n)) ∨
      whole? x = none ∧ (x.isNaN = true ∧ truncateToWord x = 0 ∨
        x.isNaN = false ∧ (truncateToWord x = minWord ∨ truncateToWord x = maxWord)) := by
  cases hwhole : whole? x with
  | some n => exact .inl ⟨n, rfl, isNaN_of_whole? hwhole, truncateToWord_of_whole? hwhole⟩
  | none =>
    refine .inr ⟨rfl, ?_⟩
    unfold whole? inUnits? at hwhole
    unfold truncateToWord
    rw [← Bool.not_eq_true, ← exact_eq_undefined_iff]
    cases hexact : exact x with
    | finite negative units =>
      rw [hexact] at hwhole
      cases hwhole
    | infinite negative =>
      refine .inr ⟨nofun, ?_⟩
      cases negative with
      | false => exact .inr rfl
      | true => exact .inl rfl
    | undefined => exact .inl ⟨rfl, rfl⟩

end CellExpr.Number
