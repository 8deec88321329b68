import CellExpr.Proofs.Number.Order

/-!
# The sum of two doubles

A sum is rounded, but never to the wrong side of its first summand: it is not less than that if the second one is positive
(`not_add_lt`), and not greater if the second one is negative (`not_lt_add`).

Magnitudes are counted in units of the smallest positive double. A sum of units is rounded to the greatest double up to it or to the
next one, and no double lies between the two.
-/

namespace CellExpr.Number

open Float.Model Float.Model.UnpackedFloat

/-! ## Units -/

/-- The units that a mantissa stands for with an exponent. -/
def unitsOf (mantissa : Nat) (exponent : Int) : Nat := mantissa * 2 ^ (exponent + 1074).toNat

/-- How many of the last binary digits of some units a double has no room for. -/
def excess (units : Nat) : Nat := units.log2 - 52

/-- The bits of the greatest double that is at most so many units. -/
def floorCode (units : Nat) : Nat := units / 2 ^ excess units + excess units * 2 ^ 52

theorem lt_two_pow_excess (units : Nat) : units < 2 ^ (53 + excess units) := by
  have hlog : units < 2 ^ (units.log2 + 1) := Nat.lt_log2_self
  exact Nat.lt_of_lt_of_le hlog (Nat.pow_le_pow_right (by decide) (by unfold excess; omega))

theorem two_pow_excess_le {units : Nat} (h : excess units ≠ 0) : 2 ^ (52 + excess units) ≤ units := by
  have hlog : 52 + excess units = units.log2 := by unfold excess at *; omega
  rw [hlog]
  exact Nat.log2_self_le fun hzero => h (by rw [hzero]; rfl)

theorem floor_ne_zero {units : Nat} (h : units ≠ 0) : units / 2 ^ excess units ≠ 0 := by
  refine Nat.ne_of_gt (Nat.div_pos ?_ (Nat.two_pow_pos _))
  by_cases hexcess : excess units = 0
  · rw [hexcess]
    exact Nat.one_le_iff_ne_zero.2 h
  · exact Nat.le_trans (Nat.pow_le_pow_right (by decide) (by omega)) (two_pow_excess_le hexcess)

/-- The digits that a double has room for, with the exponent of the last one. -/
theorem isCanonical_floor (units : Nat) : IsCanonical (units / 2 ^ excess units) (excess units - 1074) where
  mantissa_lt := by
    rw [Nat.div_lt_iff_lt_mul (Nat.two_pow_pos _), ← Nat.pow_add]
    exact lt_two_pow_excess units
  le_exponent := by omega
  full := by
    by_cases hexcess : excess units = 0
    · exact .inl (by omega)
    · refine .inr ?_
      rw [Nat.le_div_iff_mul_le (Nat.two_pow_pos _), ← Nat.pow_add]
      exact two_pow_excess_le hexcess

theorem code_floor (units : Nat) : code (units / 2 ^ excess units) (excess units - 1074) = floorCode units := by
  unfold code floorCode
  rw [show ((excess units : Int) - 1074 + 1074).toNat = excess units by omega]

/-- A double is at most so many units if its bits are at most those of the greatest one. -/
theorem code_le_floorCode_iff {m u : Nat} {e : Int} (h : IsCanonical m e) : code m e ≤ floorCode u ↔ unitsOf m e ≤ u := by
  obtain ⟨hm, he, hfull⟩ := h
  obtain ⟨hq, -, hq'⟩ := isCanonical_floor u
  have hsize := lt_two_pow_excess u
  unfold code floorCode unitsOf
  obtain ⟨k, rfl⟩ : ∃ k : Nat, e = k - 1074 := ⟨(e + 1074).toNat, by omega⟩
  rw [show ((k : Int) - 1074 + 1074).toNat = k by omega]
  rcases Nat.lt_trichotomy k (excess u) with hlt | rfl | hgt
  · -- the double has an exponent below that of the greatest one
    have hcode : m + k * 2 ^ 52 ≤ u / 2 ^ excess u + excess u * 2 ^ 52 := by omega
    have hunits : m * 2 ^ k ≤ u :=
      calc m * 2 ^ k ≤ 2 ^ 53 * 2 ^ k := Nat.mul_le_mul_right _ (Nat.le_of_lt hm)
        _ = 2 ^ (53 + k) := (Nat.pow_add ..).symm
        _ ≤ 2 ^ (52 + excess u) := Nat.pow_le_pow_right (by decide) (by omega)
        _ ≤ u := two_pow_excess_le (by omega)
    exact iff_of_true hcode hunits
  · rw [Nat.add_le_add_iff_right, Nat.le_div_iff_mul_le (Nat.two_pow_pos _)]
  · have hcode : ¬m + k * 2 ^ 52 ≤ u / 2 ^ excess u + excess u * 2 ^ 52 := by omega
    have hunits : u < m * 2 ^ k :=
      calc u < 2 ^ (53 + excess u) := hsize
        _ ≤ 2 ^ (52 + k) := Nat.pow_le_pow_right (by decide) (by omega)
        _ = 2 ^ 52 * 2 ^ k := Nat.pow_add ..
        _ ≤ m * 2 ^ k := Nat.mul_le_mul_right _ (by omega)
    exact iff_of_false hcode (Nat.not_le.2 hunits)

/-! ## Rounding -/

theorem mantissa_shiftRight (em : ExtendedMantissa) (k : Nat) : (em >>> k).mantissa = em.mantissa / 2 ^ k := by
  induction k with
  | zero => exact (Nat.div_one _).symm
  | succ k ih =>
    show (em >>> k).mantissa / 2 = _
    rw [ih, Nat.div_div_eq_div_mul, Nat.pow_succ]

theorem roundedMantissa_eq_or (em : ExtendedMantissa) :
    em.roundedMantissa = em.mantissa ∨ em.roundedMantissa = em.mantissa + 1 := by
  obtain ⟨m, roundBit, stickyBit⟩ := em
  cases roundBit <;> cases stickyBit
  · exact .inl rfl
  · exact .inl rfl
  · show m + m % 2 = m ∨ m + m % 2 = m + 1
    omega
  · exact .inr rfl

theorem log2_mul_two_pow {m : Nat} (hm : m ≠ 0) (k : Nat) : (m * 2 ^ k).log2 = m.log2 + k := by
  induction k with
  | zero => rw [Nat.pow_zero, Nat.mul_one, Nat.add_zero]
  | succ k ih =>
    have hne : m * 2 ^ k ≠ 0 := Nat.mul_ne_zero hm (Nat.ne_of_gt (Nat.two_pow_pos k))
    rw [Nat.pow_succ, ← Nat.mul_assoc, Nat.mul_comm, Nat.log2_two_mul hne, ih, Nat.add_assoc]

/-- The exponent that rounding aims at. -/
theorem targetExponent_eq {m : Nat} {e : Int} (hm : m ≠ 0) (he : -1074 ≤ e) :
    Format.binary64.targetExponent (totalExponent m e) = excess (unitsOf m e) - 1074 := by
  have hbits : Format.binary64.mantissaBits = 53 := rfl
  have hleast : Format.binary64.minExponent = -1074 := rfl
  rw [Format.targetExponent, totalExponent, hbits, hleast, excess, unitsOf, log2_mul_two_pow hm]
  omega

theorem decreaseExponent_eq (m : Nat) (e t : Int) :
    decreaseExponent m e t = (m * 2 ^ (e - t).toNat, min e t) := by
  show (m <<< (e - t).toNat, e - ((e - t).toNat : Int)) = _
  rw [Nat.shiftLeft_eq]
  exact congrArg _ (by omega)

/-- Digits may be added after the last one. -/
theorem unitsOf_decrease {m : Nat} {e t : Int} (he : -1074 ≤ e) (ht : -1074 ≤ t) :
    unitsOf (m * 2 ^ (e - t).toNat) (min e t) = unitsOf m e := by
  rw [unitsOf, unitsOf, Nat.mul_assoc, ← Nat.pow_add]
  exact congrArg (m * 2 ^ ·) (by omega)

/-- Digits after the exponent aimed at are dropped. -/
theorem shiftToExponent_eq (m : Nat) (e t : Int) :
    ∃ em, shiftToExponent m e .exact t = (em, max e t) ∧ em.mantissa = m / 2 ^ (t - e).toNat := by
  have hexponent : e + ((t - e).toNat : Int) = max e t := by omega
  exact ⟨_, Prod.ext rfl hexponent, mantissa_shiftRight _ _⟩

theorem div_two_pow_eq {m : Nat} {e t : Int} (he : -1074 ≤ e) (ht : e ≤ t) :
    m / 2 ^ (t - e).toNat = unitsOf m e / 2 ^ (t + 1074).toNat := by
  have hexponent : (t + 1074).toNat = (t - e).toNat + (e + 1074).toNat := by omega
  rw [unitsOf, hexponent, Nat.pow_add, Nat.mul_div_mul_right _ _ (Nat.two_pow_pos _)]

/-- A mantissa that has been rounded up may have one digit too many. -/
theorem shiftToTargetExponent_rounded {m : Nat} {e : Int} (hpos : m ≠ 0) (hle : m ≤ 2 ^ 53) (he : -1074 ≤ e)
    (hfull : e = -1074 ∨ 2 ^ 52 ≤ m) :
    ∃ em e', shiftToTargetExponent .binary64 m e .exact = (em, e') ∧ IsCanonical em.mantissa e' ∧
      code em.mantissa e' = code m e := by
  have htarget : Format.binary64.targetExponent (totalExponent m e) = max ((m.log2 : Int) + 1 + e - 53) (-1074) := rfl
  obtain ⟨em, hshift, hmantissa⟩ := shiftToExponent_eq m e (Format.binary64.targetExponent (totalExponent m e))
  refine ⟨em, _, hshift, ?_⟩
  rw [hmantissa]
  generalize Format.binary64.targetExponent (totalExponent m e) = t at htarget ⊢
  rcases Nat.lt_or_eq_of_le hle with hlt | rfl
  · have hlog : m.log2 < 53 := (Nat.log2_lt hpos).2 hlt
    rw [show max e t = e by omega, show (t - e).toNat = 0 by omega, Nat.pow_zero, Nat.div_one]
    exact ⟨⟨hlt, he, hfull⟩, rfl⟩
  · rw [Nat.log2_two_pow] at htarget
    rw [show max e t = e + 1 by omega, show (t - e).toNat = 1 by omega]
    refine ⟨⟨by decide, by omega, .inr (by decide)⟩, ?_⟩
    unfold code
    omega

theorem shiftToTargetExponent_eq {m : Nat} {e : Int} (hm : m ≠ 0) (he : -1074 ≤ e) (hexcess : e + 1074 ≤ excess (unitsOf m e)) :
    ∃ em, shiftToTargetExponent .binary64 m e .exact = (em, (excess (unitsOf m e) - 1074 : Int)) ∧
      em.mantissa = unitsOf m e / 2 ^ excess (unitsOf m e) := by
  have hle : e ≤ excess (unitsOf m e) - 1074 := by omega
  obtain ⟨em, hshift, hmantissa⟩ := shiftToExponent_eq m e (excess (unitsOf m e) - 1074)
  rw [Int.max_eq_right hle] at hshift
  rw [div_two_pow_eq he hle, show ((excess (unitsOf m e) : Int) - 1074 + 1074).toNat = excess (unitsOf m e) by omega] at hmantissa
  exact ⟨em, by rw [shiftToTargetExponent, targetExponent_eq hm he, hshift], hmantissa⟩

theorem roundedMantissa_ne_zero {u : Nat} {em : ExtendedMantissa} (hu : u ≠ 0) (hmantissa : em.mantissa = u / 2 ^ excess u) :
    em.roundedMantissa ≠ 0 := by
  have hne := floor_ne_zero hu
  have hround := roundedMantissa_eq_or em
  omega

/-- What is left of the digits after the first shift is rounded, and the second shift keeps it. -/
theorem roundWithAccuracy_of_shift (s : Sign) {m u : Nat} {e : Int} {accuracy : Accuracy} {em : ExtendedMantissa}
    (hrounded : em.roundedMantissa ≠ 0)
    (hshift : shiftToTargetExponent .binary64 m e accuracy = (em, (excess u - 1074 : Int)))
    (hmantissa : em.mantissa = u / 2 ^ excess u) :
    ∃ m' e' hpos, roundWithAccuracy .binary64 s m e accuracy = .finite s m' e' hpos ∧ IsCanonical m' e' ∧
      code m' e' = code em.roundedMantissa (excess u - 1074) := by
  obtain ⟨hlt, hle, hfull⟩ := isCanonical_floor u
  rw [← hmantissa] at hlt hfull
  have hround := roundedMantissa_eq_or em
  obtain ⟨em₂, e₂, hshift₂, hcanonical, hcode⟩ := @shiftToTargetExponent_rounded em.roundedMantissa _
    hrounded (by omega) hle (by omega)
  have hpos : 0 < em₂.mantissa := hcanonical.mantissa_pos (by rw [hcode]; exact code_pos (by omega) _)
  refine ⟨em₂.mantissa, e₂, hpos, ?_, hcanonical, hcode⟩
  rw [roundWithAccuracy, hshift]
  dsimp only
  rw [hshift₂]
  exact dif_neg (Nat.ne_of_gt hpos)

/-- Rounding what has digits enough gives the greatest double up to its units, or the next one. -/
theorem roundWithAccuracy_eq (s : Sign) {m : Nat} {e : Int} (hm : m ≠ 0) (he : -1074 ≤ e)
    (hexcess : e + 1074 ≤ excess (unitsOf m e)) :
    ∃ m' e' hpos, roundWithAccuracy .binary64 s m e .exact = .finite s m' e' hpos ∧ IsCanonical m' e' ∧
      (code m' e' = floorCode (unitsOf m e) ∨ code m' e' = floorCode (unitsOf m e) + 1) := by
  have hunits : unitsOf m e ≠ 0 := Nat.mul_ne_zero hm (Nat.ne_of_gt (Nat.two_pow_pos _))
  obtain ⟨em, hshift, hmantissa⟩ := shiftToTargetExponent_eq hm he hexcess
  obtain ⟨m', e', hpos, hround, hcanonical, hcode⟩ := roundWithAccuracy_of_shift s (roundedMantissa_ne_zero hunits hmantissa) hshift hmantissa
  refine ⟨m', e', hpos, hround, hcanonical, ?_⟩
  rw [hcode, ← code_floor, ← hmantissa]
  have hrounded := roundedMantissa_eq_or em
  unfold code
  omega

/-- Before rounding, digits are added after the last one as long as there are too few. -/
theorem round_eq_roundWithAccuracy (s : Sign) {m : Nat} {e : Int} (hm : m ≠ 0) (he : -1074 ≤ e) :
    ∃ m₁ e₁, UnpackedFloat.round .binary64 s m e = roundWithAccuracy .binary64 s m₁ e₁ .exact ∧ m₁ ≠ 0 ∧ -1074 ≤ e₁ ∧
      e₁ + 1074 ≤ excess (unitsOf m e) ∧ unitsOf m₁ e₁ = unitsOf m e := by
  have hunits : unitsOf (m * 2 ^ (e - (excess (unitsOf m e) - 1074)).toNat) (min e (excess (unitsOf m e) - 1074)) = unitsOf m e :=
    unitsOf_decrease he (by omega)
  refine ⟨_, _, ?_, ?_, ?_, ?_, hunits⟩
  · rw [UnpackedFloat.round, targetExponent_eq hm he, decreaseExponent_eq]
  · exact Nat.mul_ne_zero hm (Nat.ne_of_gt (Nat.two_pow_pos _))
  · omega
  · omega

/-- Rounding gives the greatest double up to the given units, or the next one. -/
theorem round_eq (s : Sign) {m : Nat} {e : Int} (hm : m ≠ 0) (he : -1074 ≤ e) :
    ∃ m' e' hpos, UnpackedFloat.round .binary64 s m e = .finite s m' e' hpos ∧ IsCanonical m' e' ∧
      (code m' e' = floorCode (unitsOf m e) ∨ code m' e' = floorCode (unitsOf m e) + 1) := by
  obtain ⟨m₁, e₁, hround, hm₁, he₁, hexcess, hunits⟩ := round_eq_roundWithAccuracy s hm he
  rw [hround, ← hunits]
  exact roundWithAccuracy_eq s hm₁ he₁ (by rwa [hunits])

/-! ## Packing -/

theorem toNat_packComponents (s : Sign) (e : BitVec 11) (m : BitVec 52) :
    (packComponents .binary64 s e m).toNat = s.toBitVec.toNat * 2 ^ 63 + (e.toNat * 2 ^ 52 + m.toNat) := by
  show (s.toBitVec ++ e ++ m).toNat = _
  rw [BitVec.toNat_append, ← Nat.shiftLeft_add_eq_or_of_lt m.isLt, BitVec.toNat_append, ← Nat.shiftLeft_add_eq_or_of_lt e.isLt,
    Nat.shiftLeft_eq, Nat.shiftLeft_eq]
  omega

/-- The bits of a finite double, or beyond the greatest one those of an infinity. -/
theorem toNat_pack_finite (s : Sign) {m : Nat} {e : Int} (hpos : 0 < m) (h : IsCanonical m e) :
    (UnpackedFloat.pack .binary64 (.finite s m e hpos)).toNat = s.toBitVec.toNat * 2 ^ 63 + min (code m e) infinityCode := by
  obtain ⟨hlt, hle, hfull⟩ := h
  have hlog : m.log2 < 53 := (Nat.log2_lt (Nat.ne_of_gt hpos)).2 hlt
  have hbiased : (e + Format.binary64.exponentBias + Format.binary64.mantissaBitsWithoutImplicit).toNat = (e + 1074).toNat + 1 := by
    show (e + 1023 + 52).toNat = _
    omega
  unfold UnpackedFloat.pack code infinityCode
  simp only [hbiased]
  split
  case isTrue hexponent =>
    replace hexponent : 2048 ≤ (e + 1074).toNat + 1 + 1 := hexponent
    rw [packedInfinity, toNat_packComponents, Nat.min_eq_right (by omega)]
    rfl
  case isFalse hexponent =>
    replace hexponent : ¬2048 ≤ (e + 1074).toNat + 1 + 1 := hexponent
    rw [Nat.min_eq_left (by omega)]
    split
    case isTrue hdigits =>
      replace hdigits : m.log2 + 1 = 53 := hdigits
      have hfull : 2 ^ 52 ≤ m := (Nat.le_log2 (Nat.ne_of_gt hpos)).1 (by omega)
      rw [toNat_packComponents, BitVec.toNat_ofNat, BitVec.toNat_ofNat]
      omega
    case isFalse hdigits =>
      replace hdigits : ¬m.log2 + 1 = 53 := hdigits
      have hshort : m < 2 ^ 52 := (Nat.log2_lt (Nat.ne_of_gt hpos)).1 (by omega)
      rw [toNat_packComponents, BitVec.toNat_ofNat, BitVec.toNat_ofNat]
      omega

theorem rank_of_toNat_toBits {x : Float} {s : Sign} {c : Nat} (hbits : x.toBits.toNat = s.toBitVec.toNat * 2 ^ 63 + c)
    (hc : c ≤ infinityCode) : rank x = s.apply c := by
  have hbound : infinityCode < 2 ^ 63 := by decide
  simp only [rank, hbits]
  cases s with
  | positive =>
    rw [show Sign.positive.toBitVec.toNat * 2 ^ 63 + c = c from Nat.zero_add c]
    exact if_pos (Nat.lt_of_le_of_lt hc hbound)
  | negative =>
    rw [show Sign.negative.toBitVec.toNat * 2 ^ 63 + c = 2 ^ 63 + c from rfl]
    exact (if_neg (Nat.not_lt.2 (Nat.le_add_right ..))).trans (congrArg (fun n : Nat => -(n : Int)) (Nat.add_sub_cancel_left ..))

/-- The place of a finite double, or beyond the greatest one that of an infinity. -/
theorem rank_pack_finite (s : Sign) {m : Nat} {e : Int} (hpos : 0 < m) (h : IsCanonical m e) :
    rank ⟨Float.Model.pack (.finite s m e hpos)⟩ = s.apply (min (code m e) infinityCode : Nat) :=
  rank_of_toNat_toBits (toNat_pack_finite s hpos h) (Nat.min_le_right ..)

/-- A double that has a place keeps it. -/
theorem HasPlace.rank_pack {f : UnpackedFloat} {i : Int} (h : HasPlace f i) : rank ⟨Float.Model.pack f⟩ = i := by
  cases h with
  | infinity s => exact rank_of_toNat_toBits (toNat_packComponents s (-1#11) 0#52) (Nat.le_refl _)
  | zero s => cases s <;> decide
  | finite s hpos hcanonical hfinite => rw [rank_pack_finite s hpos hcanonical, Nat.min_eq_left (Nat.le_of_lt hfinite)]

/-! ## Sums -/

theorem rank_pack_round (s : Sign) {m : Nat} {e : Int} (hm : m ≠ 0) (he : -1074 ≤ e) :
    ∃ c : Nat, rank ⟨Float.Model.pack (UnpackedFloat.round .binary64 s m e)⟩ = s.apply (min c infinityCode : Nat) ∧
      (c = floorCode (unitsOf m e) ∨ c = floorCode (unitsOf m e) + 1) := by
  obtain ⟨m', e', hpos, hround, hcanonical, hcode⟩ := round_eq s hm he
  exact ⟨code m' e', by rw [hround, rank_pack_finite s hpos hcanonical], hcode⟩

/-- The units of a whole number with an exponent. -/
def signedUnits (n e : Int) : Int := n * (2 ^ (e + 1074).toNat : Nat)

theorem signedUnits_apply (s : Sign) (m : Nat) (e : Int) : signedUnits (s.apply m) e = s.apply (unitsOf m e) := by
  unfold signedUnits unitsOf
  cases s with
  | positive => exact (Int.natCast_mul ..).symm
  | negative => exact (Int.neg_mul ..).trans (congrArg _ (Int.natCast_mul ..).symm)

/-- A whole number other than zero is rounded as its magnitude is. -/
theorem normalize_eq_round {n : Int} (hn : n ≠ 0) (e : Int) :
    ∃ (t : Sign) (k : Nat), k ≠ 0 ∧ n = t.apply k ∧
      UnpackedFloat.normalize .binary64 n e .positive = UnpackedFloat.round .binary64 t k e := by
  rcases Int.lt_or_gt_of_ne hn with hneg | hpos
  · refine ⟨.negative, (-n).toNat, by omega, by rw [Sign.apply]; omega, ?_⟩
    rw [UnpackedFloat.normalize, Int.compare_eq_lt.2 hneg]
  · refine ⟨.positive, n.toNat, by omega, by rw [Sign.apply]; omega, ?_⟩
    rw [UnpackedFloat.normalize, Int.compare_eq_gt.2 hpos]

/-- Rounding does not pass over a double. -/
theorem rank_pack_normalize (n : Int) {e e' : Int} (he : -1074 ≤ e) (s : Sign) {m : Nat} (h : IsCanonical m e')
    (hfinite : code m e' < infinityCode) :
    (s.apply (unitsOf m e') < signedUnits n e →
        s.apply (code m e') ≤ rank ⟨Float.Model.pack (UnpackedFloat.normalize .binary64 n e .positive)⟩) ∧
      (signedUnits n e < s.apply (unitsOf m e') →
        rank ⟨Float.Model.pack (UnpackedFloat.normalize .binary64 n e .positive)⟩ ≤ s.apply (code m e')) := by
  by_cases hzero : n = 0
  · subst hzero
    have hunits : signedUnits 0 e = 0 := Int.zero_mul _
    have hrank : rank ⟨Float.Model.pack (UnpackedFloat.normalize .binary64 0 e .positive)⟩ = 0 := (HasPlace.zero .positive).rank_pack
    rw [hrank, hunits]
    cases s <;> simp only [Sign.apply] <;> omega
  · obtain ⟨t, k, hk, rfl, hround⟩ := normalize_eq_round hzero e
    obtain ⟨c, hrank, hc⟩ := rank_pack_round t hk he
    have hfloor := code_le_floorCode_iff (u := unitsOf k e) h
    rw [hround, hrank, signedUnits_apply]
    cases s <;> cases t <;> simp only [Sign.apply] <;> omega

/-- The exact sum of two finite doubles, in units. -/
theorem signedUnits_sum (s t : Sign) (m n : Nat) {e d : Int} (he : -1074 ≤ e) (hd : -1074 ≤ d) :
    signedUnits (s.apply (m * 2 ^ (e - min e d).toNat : Nat) + t.apply (n * 2 ^ (d - min e d).toNat : Nat)) (min e d) =
      s.apply (unitsOf m e) + t.apply (unitsOf n d) := by
  have hmin : -1074 ≤ min e d := by omega
  have hleft : unitsOf (m * 2 ^ (e - min e d).toNat) (min e (min e d)) = unitsOf m e := unitsOf_decrease he hmin
  have hright : unitsOf (n * 2 ^ (d - min e d).toNat) (min d (min e d)) = unitsOf n d := unitsOf_decrease hd hmin
  rw [show min e (min e d) = min e d by omega] at hleft
  rw [show min d (min e d) = min e d by omega] at hright
  rw [← hleft, ← hright, ← signedUnits_apply, ← signedUnits_apply]
  exact Int.add_mul ..

/-- Two summands are brought to the smaller exponent, and their sum is rounded. -/
theorem add_finite (s t : Sign) {m n : Nat} {e d : Int} (hm : 0 < m) (hn : 0 < n) :
    UnpackedFloat.add .binary64 (.finite s m e hm) (.finite t n d hn) = UnpackedFloat.normalize .binary64
      (s.apply (m * 2 ^ (e - min e d).toNat : Nat) + t.apply (n * 2 ^ (d - min e d).toNat : Nat)) (min e d) .positive := by
  show UnpackedFloat.normalize .binary64 (s.apply (decreaseExponent m e (min e d)).1 + t.apply (decreaseExponent n d (min e d)).1) _ _ = _
  rw [decreaseExponent_eq, decreaseExponent_eq]

/-- A finite sum is on the same side of its first summand as the exact one. -/
theorem rank_add_finite (s t : Sign) {m n : Nat} {e d : Int} (hm : 0 < m) (hn : 0 < n) (h : IsCanonical m e)
    (h' : IsCanonical n d) (hfinite : code m e < infinityCode) :
    let sum := UnpackedFloat.add .binary64 (.finite s m e hm) (.finite t n d hn)
    (t = .positive → s.apply (code m e) ≤ rank ⟨Float.Model.pack sum⟩) ∧
      (t = .negative → rank ⟨Float.Model.pack sum⟩ ≤ s.apply (code m e)) := by
  intro sum
  have hunits : 0 < unitsOf n d := Nat.mul_pos hn (Nat.two_pow_pos _)
  have hexact := signedUnits_sum s t m n h.le_exponent h'.le_exponent
  have hsum : sum = _ := add_finite s t hm hn
  have hmin : -1074 ≤ min e d := Int.le_min.2 ⟨h.le_exponent, h'.le_exponent⟩
  obtain ⟨hle, hge⟩ := @rank_pack_normalize _ (min e d) e hmin s m h hfinite
  rw [hexact] at hle hge
  rw [hsum]
  refine ⟨?_, ?_⟩
  · rintro rfl
    exact hle (by simp only [Sign.apply]; omega)
  · rintro rfl
    exact hge (by simp only [Sign.apply]; omega)

/-- A summand does not bring the place of a sum to the wrong side of the other one. -/
theorem HasPlace.rank_add {f g : UnpackedFloat} {i j : Int} (hf : HasPlace f i) (hg : HasPlace g j) :
    UnpackedFloat.add .binary64 f g = .notANumber ∨
      (0 < j → i ≤ rank ⟨Float.Model.pack (UnpackedFloat.add .binary64 f g)⟩) ∧
        (j < 0 → rank ⟨Float.Model.pack (UnpackedFloat.add .binary64 f g)⟩ ≤ i) := by
  have hinfinity : 0 < infinityCode := by decide
  have hplaced {h : UnpackedFloat} {k : Int} (hh : HasPlace h k) (hk : (0 < j → i ≤ k) ∧ (j < 0 → k ≤ i)) :
      (0 < j → i ≤ rank ⟨Float.Model.pack h⟩) ∧ (j < 0 → rank ⟨Float.Model.pack h⟩ ≤ i) := by
    rwa [hh.rank_pack]
  rcases hf with s | s | @⟨s, m, e, hm, h, hfinite⟩ <;> rcases hg with t | t | @⟨t, n, d, hn, h', hfinite'⟩
  case infinity.infinity =>
    -- two infinities of different signs have no sum
    cases s <;> cases t
    · exact .inr (hplaced (.infinity .negative) (by omega))
    · exact .inl rfl
    · exact .inl rfl
    · exact .inr (hplaced (.infinity .positive) (by omega))
  case infinity.zero | infinity.finite => exact .inr (hplaced (.infinity s) (by omega))
  case zero.infinity => exact .inr (hplaced (.infinity t) (by omega))
  case zero.zero => exact .inr ⟨nofun, nofun⟩
  case zero.finite => exact .inr (hplaced (.finite t hn h' hfinite') (by omega))
  case finite.infinity => exact .inr (hplaced (.infinity t) (by cases s <;> cases t <;> simp only [Sign.apply] <;> omega))
  case finite.zero => exact .inr ⟨nofun, nofun⟩
  case finite.finite =>
    obtain ⟨hle, hge⟩ := rank_add_finite s t hm hn h h' hfinite
    have hpos := code_pos hn d
    refine .inr ⟨fun hj => hle ?_, fun hj => hge ?_⟩
    · cases t with
      | positive => rfl
      | negative => exact absurd hj (by simp only [Sign.apply]; omega)
    · cases t with
      | positive => exact absurd hj (by simp only [Sign.apply]; omega)
      | negative => rfl

theorem isNaN_of_add {x y : Float} (h : UnpackedFloat.add .binary64 x.toModel.unpack y.toModel.unpack = .notANumber) :
    (x + y).isNaN = true := by
  show (Float.Model.pack (UnpackedFloat.add .binary64 x.toModel.unpack y.toModel.unpack)).isNaN = true
  rw [h]
  rfl

/-- What is no number has no sum. -/
theorem isNaN_add {x : Float} (h : x.isNaN = true) (y : Float) : (x + y).isNaN = true := by
  rcases hasPlace_or_notANumber x with ⟨hx, -⟩ | ⟨-, hunpack⟩
  · rw [h] at hx
    cases hx
  · exact isNaN_of_add (by rw [hunpack]; rfl)

theorem rank_add {x y : Float} (hx : x.isNaN = false) (hy : y.isNaN = false) (hsum : (x + y).isNaN = false) :
    (0 < rank y → rank x ≤ rank (x + y)) ∧ (rank y < 0 → rank (x + y) ≤ rank x) := by
  rcases (hasPlace_of_isNaN_eq_false hx).rank_add (hasPlace_of_isNaN_eq_false hy) with hnot | hsides
  · rw [isNaN_of_add hnot] at hsum
    cases hsum
  · exact hsides

/-- A sum is not less than its first summand if the second one is positive. -/
theorem not_add_lt {x y : Float} (hy : 0 < y) : ¬x + y < x := by
  intro h
  obtain ⟨-, hnumber, hpos⟩ := lt_iff.1 hy
  obtain ⟨hsum, hx, hlt⟩ := lt_iff.1 h
  exact absurd ((rank_add hx hnumber hsum).1 hpos) (Int.not_le.2 hlt)

/-- A sum is not greater than its first summand if the second one is negative. -/
theorem not_lt_add {x y : Float} (hy : y < 0) : ¬x < x + y := by
  intro h
  obtain ⟨hnumber, -, hneg⟩ := lt_iff.1 hy
  obtain ⟨hx, hsum, hlt⟩ := lt_iff.1 h
  exact absurd ((rank_add hx hnumber hsum).2 hneg) (Int.not_le.2 hlt)

end CellExpr.Number
