import CellExpr.Proofs.Number.Nearest
import Mathlib.Algebra.Order.Ring.Cast

/-!
# Rounding to the nearest double

A mantissa is shifted to the exponent of a double, and two bits keep what is known of the digits that are dropped: whether the first of
them is one, and whether there is a one after it (`Describes`). This is enough for the nearest double (`isNearest_roundWithAccuracy`).
Quotients are cut off and then rounded in this way, and products are exact before they are (`isNearest_div`, `isNearest_mul`).
-/

namespace CellExpr.Number

open Float.Model Float.Model.UnpackedFloat

variable {m n : Nat} {e d : Int} {v q : ℚ} {accuracy : Accuracy} {em : ExtendedMantissa}

/-! ## Accuracy -/

/-- The value is a mantissa and a rest, less than one, that the accuracy describes. -/
def Describes (accuracy : Accuracy) (mantissa : Nat) (v : ℚ) : Prop :=
  match accuracy with
  | .exact => v = mantissa
  | .inexact .lt => mantissa < v ∧ 2 * v < 2 * mantissa + 1
  | .inexact .eq => 2 * v = 2 * mantissa + 1
  | .inexact .gt => 2 * mantissa + 1 < 2 * v ∧ v < mantissa + 1

theorem Describes.le (h : Describes accuracy m v) : m ≤ v := by
  rcases accuracy with _ | _ | _ | _ <;> simp only [Describes] at h <;> linarith

theorem Describes.lt (h : Describes accuracy m v) : v < m + 1 := by
  rcases accuracy with _ | _ | _ | _ <;> simp only [Describes] at h <;> linarith

theorem describes_ofMantissaAndAccuracy (h : Describes accuracy m v) :
    let em := ExtendedMantissa.ofMantissaAndAccuracy m accuracy
    em.mantissa = m ∧ Describes em.accuracy em.mantissa v := by
  rcases accuracy with _ | _ | _ | _ <;> exact ⟨rfl, h⟩

/-- There is no rest if and only if both bits are zero. -/
theorem Describes.rest (h : Describes em.accuracy em.mantissa v) :
    if em.roundBit || em.stickyBit then em.mantissa < v else v = em.mantissa := by
  obtain ⟨m, roundBit, stickyBit⟩ := em
  cases roundBit <;> cases stickyBit <;> simp only [ExtendedMantissa.accuracy, Describes] at h <;> simp <;> linarith

/-- The bit that is dropped becomes the first one of the rest. -/
theorem Describes.shiftRightOne (h : Describes em.accuracy em.mantissa v) :
    Describes em.shiftRightOne.accuracy em.shiftRightOne.mantissa (v / 2) := by
  have hparts : (em.mantissa : ℚ) = 2 * (em.mantissa / 2 : Nat) + (em.mantissa % 2 : Nat) := by
    exact_mod_cast (Nat.div_add_mod em.mantissa 2).symm
  have hlt := h.lt
  have hrest := h.rest
  unfold ExtendedMantissa.shiftRightOne
  generalize (em.roundBit || em.stickyBit) = stickyBit at hrest ⊢
  rcases Nat.mod_two_eq_zero_or_one em.mantissa with hbit | hbit
  · rw [hbit, Nat.cast_zero] at hparts
    rw [hbit]
    cases stickyBit
    · show v / 2 = (em.mantissa / 2 : Nat)
      replace hrest : v = em.mantissa := hrest
      linarith
    · show ((em.mantissa / 2 : Nat) : ℚ) < v / 2 ∧ 2 * (v / 2) < 2 * (em.mantissa / 2 : Nat) + 1
      replace hrest : (em.mantissa : ℚ) < v := hrest
      constructor <;> linarith
  · rw [hbit, Nat.cast_one] at hparts
    rw [hbit]
    cases stickyBit
    · show 2 * (v / 2) = 2 * (em.mantissa / 2 : Nat) + 1
      replace hrest : v = em.mantissa := hrest
      linarith
    · show 2 * ((em.mantissa / 2 : Nat) : ℚ) + 1 < 2 * (v / 2) ∧ v / 2 < (em.mantissa / 2 : Nat) + 1
      replace hrest : (em.mantissa : ℚ) < v := hrest
      constructor <;> linarith

theorem Describes.shiftRight (h : Describes em.accuracy em.mantissa v) (k : Nat) :
    Describes (em >>> k).accuracy (em >>> k).mantissa (v / 2 ^ k) := by
  induction k with
  | zero =>
    rw [pow_zero, div_one]
    exact h
  | succ k ih =>
    rw [pow_succ, ← div_div]
    exact ih.shiftRightOne

/-- Rounding takes the mantissa if the rest is at most a half, and the next one if it is at least a half. A half goes to the even one. -/
theorem Describes.roundedMantissa (h : Describes em.accuracy em.mantissa v) :
    em.roundedMantissa = em.mantissa ∧ 2 * v ≤ 2 * em.mantissa + 1 ∧ (2 * v = 2 * em.mantissa + 1 → em.mantissa % 2 = 0) ∨
      em.roundedMantissa = em.mantissa + 1 ∧ 2 * em.mantissa + 1 ≤ 2 * v ∧
        (2 * v = 2 * em.mantissa + 1 → (em.mantissa + 1) % 2 = 0) := by
  obtain ⟨m, roundBit, stickyBit⟩ := em
  cases roundBit <;> cases stickyBit
  · replace h : v = m := h
    exact .inl ⟨rfl, by linarith, fun heq => by linarith⟩
  · replace h : m < v ∧ 2 * v < 2 * m + 1 := h
    exact .inl ⟨rfl, by linarith, fun heq => by linarith⟩
  · replace h : 2 * v = 2 * m + 1 := h
    have hrounded : (ExtendedMantissa.mk m true false).roundedMantissa = m + m % 2 := rfl
    rw [hrounded]
    rcases Nat.mod_two_eq_zero_or_one m with hbit | hbit
    · exact .inl ⟨congrArg (m + ·) hbit, le_of_eq h, fun _ => hbit⟩
    · exact .inr ⟨congrArg (m + ·) hbit, ge_of_eq h, fun _ => Nat.succ_mod_two_eq_zero_iff.2 hbit⟩
  · replace h : 2 * m + 1 < 2 * v ∧ v < m + 1 := h
    exact .inr ⟨rfl, le_of_lt h.1, fun heq => by linarith⟩

/-! ## Shifting -/

/-- A mantissa that has digits enough is shifted to the exponent that its units have as a double. -/
theorem le_excess_of_digits (hm : 2 ^ 52 ≤ m) (he : -1074 ≤ e) : e + 1074 ≤ excess (unitsOf m e) := by
  have hne : m ≠ 0 := by omega
  have hlog : 52 ≤ m.log2 := (Nat.le_log2 hne).2 hm
  rw [excess, unitsOf, log2_mul_two_pow hne]
  omega

theorem targetExponent_of_excess (he : -1074 ≤ e) (hexcess : e + 1074 ≤ excess (unitsOf m e)) :
    Format.binary64.targetExponent (totalExponent m e) = excess (unitsOf m e) - 1074 := by
  by_cases hm : m = 0
  · subst hm
    -- without a mantissa the exponent is the least one
    have hunits : unitsOf 0 e = 0 := Nat.zero_mul _
    have hzero : excess 0 = 0 := rfl
    rw [hunits, hzero] at hexcess ⊢
    obtain rfl : e = -1074 := by omega
    rfl
  · exact targetExponent_eq hm he

theorem shiftToTargetExponent_describes (he : -1074 ≤ e) (hexcess : e + 1074 ≤ excess (unitsOf m e)) (h : Describes accuracy m v) :
    ∃ em, shiftToTargetExponent .binary64 m e accuracy = (em, (excess (unitsOf m e) - 1074 : Int)) ∧
      em.mantissa = unitsOf m e / 2 ^ excess (unitsOf m e) ∧
      Describes em.accuracy em.mantissa (v * 2 ^ (e + 1074).toNat / 2 ^ excess (unitsOf m e)) := by
  obtain ⟨hself, hdescribes⟩ := describes_ofMantissaAndAccuracy h
  have hquotient := @div_two_pow_eq m e (excess (unitsOf m e) - 1074) he (by omega)
  rw [show ((excess (unitsOf m e) : Int) - 1074 + 1074).toNat = excess (unitsOf m e) by omega] at hquotient
  have hvalue (k : Nat) (hk : excess (unitsOf m e) = (e + 1074).toNat + k) :
      v * 2 ^ (e + 1074).toNat / 2 ^ excess (unitsOf m e) = v / 2 ^ k := by
    rw [hk, pow_add, mul_comm v, mul_div_mul_left _ _ (by positivity)]
  refine ⟨ExtendedMantissa.ofMantissaAndAccuracy m accuracy >>> ((excess (unitsOf m e) : Int) - 1074 - e).toNat, ?_, ?_, ?_⟩
  · rw [shiftToTargetExponent, targetExponent_of_excess he hexcess, shiftToExponent]
    exact congrArg _ (by omega)
  · rw [mantissa_shiftRight, hself, hquotient]
  · rw [hvalue ((excess (unitsOf m e) : Int) - 1074 - e).toNat (by omega)]
    exact hdescribes.shiftRight _

/-! ## Rounding -/

theorem toNat_pack_roundWithAccuracy (s : Sign) {u : Nat}
    (hshift : shiftToTargetExponent .binary64 m e accuracy = (em, (excess u - 1074 : Int))) (hmantissa : em.mantissa = u / 2 ^ excess u) :
    (UnpackedFloat.pack .binary64 (roundWithAccuracy .binary64 s m e accuracy)).toNat =
      s.toBitVec.toNat * 2 ^ 63 + min (em.roundedMantissa + excess u * 2 ^ 52) infinityCode := by
  by_cases hrounded : em.roundedMantissa = 0
  · obtain rfl : u = 0 := by
      by_contra hu
      exact roundedMantissa_ne_zero hu hmantissa hrounded
    obtain ⟨em₂, hshift₂, hmantissa₂⟩ := shiftToExponent_eq 0 (excess 0 - 1074)
      (Format.binary64.targetExponent (totalExponent 0 (excess 0 - 1074)))
    have hzero : roundWithAccuracy .binary64 s m e accuracy = .zero s := by
      rw [roundWithAccuracy, hshift]
      dsimp only
      rw [hrounded, shiftToTargetExponent, hshift₂]
      exact dif_pos (by rw [hmantissa₂, Nat.zero_div])
    rw [hzero, hrounded]
    cases s <;> rfl
  · obtain ⟨m', e', hpos, hround, hcanonical, hcode⟩ := roundWithAccuracy_of_shift s hrounded hshift hmantissa
    rw [hround, toNat_pack_finite _ hpos hcanonical, hcode, code, show ((excess u : Int) - 1074 + 1074).toNat = excess u by omega]

/-- A mantissa that is rounded gives the code of the nearest double. -/
theorem isNearestCode_rounded {k : Nat} (hm : em.mantissa < 2 ^ 53) (hfull : k = 0 ∨ 2 ^ 52 ≤ em.mantissa)
    (h : Describes em.accuracy em.mantissa v) : IsNearestCode (v * 2 ^ k) (min (em.roundedMantissa + k * 2 ^ 52) infinityCode) := by
  have hpos : (0 : ℚ) < 2 ^ k := by positivity
  have hfloor : (unitsAt (em.mantissa + k * 2 ^ 52) : ℚ) = em.mantissa * 2 ^ k := by
    rw [unitsAt_add (Nat.le_of_lt hm) hfull]
    push_cast
    rfl
  have hnext : (unitsAt (em.mantissa + k * 2 ^ 52 + 1) : ℚ) = (em.mantissa + 1) * 2 ^ k := by
    rw [Nat.add_right_comm, unitsAt_add hm (hfull.imp_right Nat.le_succ_of_le)]
    push_cast
    rfl
  have hle := mul_le_mul_of_nonneg_right h.le hpos.le
  have hlt := mul_lt_mul_of_pos_right h.lt hpos
  have htie (htie : 2 * (v * 2 ^ k) = em.mantissa * 2 ^ k + (em.mantissa + 1) * 2 ^ k) : 2 * v = 2 * em.mantissa + 1 :=
    mul_right_cancel₀ hpos.ne' (by linarith)
  rcases Nat.lt_or_ge (em.mantissa + k * 2 ^ 52) infinityCode with hfinite | hinfinite
  · rcases h.roundedMantissa with ⟨hrounded, hhalf, heven⟩ | ⟨hrounded, hhalf, heven⟩
    · have hscaled := mul_le_mul_of_nonneg_right hhalf hpos.le
      rw [hrounded, Nat.min_eq_left (Nat.le_of_lt hfinite)]
      refine isNearestCode_floor (Nat.le_of_lt hfinite) (by rwa [hfloor]) (by rw [hfloor, hnext]; linarith) fun hequal => ?_
      rw [hfloor, hnext] at hequal
      have := heven (htie hequal)
      omega
    · have hscaled := mul_le_mul_of_nonneg_right hhalf hpos.le
      rw [hrounded, Nat.add_right_comm, Nat.min_eq_left hfinite]
      refine isNearestCode_succ hfinite (by rwa [hnext]) (by rw [hfloor, hnext]; linarith) fun hequal => ?_
      rw [hfloor, hnext] at hequal
      have := heven (htie hequal)
      omega
  · have hrounded := roundedMantissa_eq_or em
    rw [Nat.min_eq_right (by omega)]
    exact isNearestCode_infinity ((unitsAt_le hinfinite).trans (by rwa [hfloor]))

theorem cast_unitsInOne : (unitsInOne : ℚ) = 2 ^ (1074 : Int) := by
  have hexponent : (1074 : Int) = (1074 : Nat) := rfl
  rw [hexponent]
  unfold unitsInOne
  generalize 1074 = k
  rw [Nat.pow_eq, Nat.cast_pow, zpow_natCast, Nat.cast_ofNat]

theorem two_pow_toNat (he : -1074 ≤ e) : (2 : ℚ) ^ (e + 1074).toNat = 2 ^ e * unitsInOne := by
  rw [cast_unitsInOne, ← zpow_add₀ two_ne_zero, ← zpow_natCast, Int.toNat_of_nonneg (by omega)]

/-- A mantissa with digits enough, and a rest that is described, is rounded to the double with the nearest code. -/
theorem exists_toNat_pack_roundWithAccuracy (s : Sign) (he : -1074 ≤ e) (hexcess : e + 1074 ≤ excess (unitsOf m e))
    (h : Describes accuracy m v) : ∃ c, IsNearestCode (v * 2 ^ (e + 1074).toNat) c ∧
      (UnpackedFloat.pack .binary64 (roundWithAccuracy .binary64 s m e accuracy)).toNat = s.toBitVec.toNat * 2 ^ 63 + c := by
  obtain ⟨em, hshift, hmantissa, hdescribes⟩ := shiftToTargetExponent_describes he hexcess h
  obtain ⟨hlt, -, hfull⟩ := isCanonical_floor (unitsOf m e)
  rw [← hmantissa] at hlt hfull
  have hnearest := isNearestCode_rounded (k := excess (unitsOf m e)) hlt (hfull.imp_left (by omega)) hdescribes
  rw [div_mul_cancel₀ _ (by positivity)] at hnearest
  exact ⟨_, hnearest, toNat_pack_roundWithAccuracy s hshift hmantissa⟩

/-- A mantissa with digits enough, and a rest that is described, is rounded to the nearest double. -/
theorem isNearest_roundWithAccuracy (he : -1074 ≤ e) (hexcess : e + 1074 ≤ excess (unitsOf m e)) (h : Describes accuracy m v) :
    IsNearest ⟨Float.Model.pack (roundWithAccuracy .binary64 .positive m e accuracy)⟩ false (v * 2 ^ e) := by
  obtain ⟨c, hnearest, hbits⟩ := exists_toNat_pack_roundWithAccuracy .positive he hexcess h
  rw [two_pow_toNat he, ← mul_assoc] at hnearest
  exact hnearest.isNearest (hbits.trans (by rfl))

/-! ## Products and quotients -/

/-- The product of two mantissas with digits enough is rounded to the nearest double. -/
theorem isNearest_mul (hm : 0 < m) (hn : 0 < n) (hdigits : 2 ^ 52 ≤ m * n) (he : -1074 ≤ e + d) :
    IsNearest ⟨Float.Model.pack (UnpackedFloat.mul .binary64 (.finite .positive m e hm) (.finite .positive n d hn))⟩ false
      (m * 2 ^ e * (n * 2 ^ d)) := by
  have hexact : Describes .exact (m * n) (m * n : ℚ) := (Nat.cast_mul m n).symm
  have hvalue : (m * 2 ^ e * (n * 2 ^ d) : ℚ) = m * n * 2 ^ (e + d) := by
    rw [zpow_add₀ two_ne_zero, mul_mul_mul_comm]
  rw [hvalue]
  exact isNearest_roundWithAccuracy he (le_excess_of_digits hdigits he) hexact

theorem describes_accuracyOfFraction (hn : 0 < n) (m : Nat) : Describes (accuracyOfFraction (m % n) n) (m / n) (m / n : ℚ) := by
  have hn' : (0 : ℚ) < n := Nat.cast_pos.2 hn
  have hparts : (m : ℚ) / n = (m / n : Nat) + (m % n : Nat) / n := by
    rw [eq_comm, eq_div_iff hn'.ne', add_mul, div_mul_cancel₀ _ hn'.ne']
    exact_mod_cast (by rw [Nat.mul_comm, Nat.div_add_mod] : m / n * n + m % n = m)
  have hlt : ((m % n : Nat) : ℚ) < n := Nat.cast_lt.2 (Nat.mod_lt m hn)
  rw [hparts]
  generalize m / n = k
  generalize m % n = r at hlt
  unfold accuracyOfFraction
  split
  · rename_i hzero
    show (k : ℚ) + r / n = k
    rw [hzero, Nat.cast_zero, zero_div, add_zero]
  · rename_i hzero
    have hfraction : (0 : ℚ) < r / n := div_pos (Nat.cast_pos.2 (Nat.pos_of_ne_zero hzero)) hn'
    have hone : (r : ℚ) / n < 1 := (div_lt_one hn').2 hlt
    have hdouble : 2 * ((r : ℚ) / n) = (2 * r : Nat) / n := by rw [Nat.cast_mul, Nat.cast_ofNat, mul_div_assoc]
    rcases Nat.lt_trichotomy (2 * r) n with h | h | h
    · have hhalf : 2 * ((r : ℚ) / n) < 1 := hdouble ▸ (div_lt_one hn').2 (Nat.cast_lt.2 h)
      rw [Nat.compare_eq_lt.2 h]
      show (k : ℚ) < k + r / n ∧ 2 * (k + r / n) < 2 * (k : ℚ) + 1
      constructor <;> linarith
    · have hhalf : 2 * ((r : ℚ) / n) = 1 := by rw [hdouble, h, div_self hn'.ne']
      rw [Nat.compare_eq_eq.2 h]
      show 2 * (k + r / n) = 2 * (k : ℚ) + 1
      linarith
    · have hhalf : 1 < 2 * ((r : ℚ) / n) := hdouble ▸ (one_lt_div hn').2 (Nat.cast_lt.2 h)
      rw [Nat.compare_eq_gt.2 h]
      show 2 * (k : ℚ) + 1 < 2 * (k + r / n) ∧ k + r / n < (k : ℚ) + 1
      constructor <;> linarith

/-- A quotient is cut off where a double ends, or further down. -/
theorem le_excess_of_quotient (hm : 0 < m) (hn : 0 < n) {t : Int} (ht : t ≤ e - d) (hleast : -1074 ≤ t)
    (htarget : t = -1074 ∨ t ≤ totalExponent m e - totalExponent n d - 53) :
    t + 1074 ≤ excess (unitsOf (m * 2 ^ (e - d - t).toNat / n) t) := by
  rcases htarget with rfl | htarget
  · omega
  · have hlow : 2 ^ m.log2 ≤ m := Nat.log2_self_le (Nat.ne_of_gt hm)
    have hhigh : n < 2 ^ (n.log2 + 1) := Nat.lt_log2_self
    have htotal : totalExponent m e = m.log2 + 1 + e ∧ totalExponent n d = n.log2 + 1 + d := ⟨rfl, rfl⟩
    refine le_excess_of_digits ((Nat.le_div_iff_mul_le hn).2 ?_) hleast
    calc 2 ^ 52 * n ≤ 2 ^ 52 * 2 ^ (n.log2 + 1) := Nat.mul_le_mul_left _ (Nat.le_of_lt hhigh)
      _ = 2 ^ (52 + (n.log2 + 1)) := (Nat.pow_add ..).symm
      _ ≤ 2 ^ (m.log2 + (e - d - t).toNat) := Nat.pow_le_pow_right (by decide) (by omega)
      _ = 2 ^ m.log2 * 2 ^ (e - d - t).toNat := Nat.pow_add ..
      _ ≤ m * 2 ^ (e - d - t).toNat := Nat.mul_le_mul_right _ hlow

/-- A quotient is rounded to the nearest double. -/
theorem isNearest_div (hm : 0 < m) (hn : 0 < n) (hexponent : -1074 ≤ e - d) :
    IsNearest ⟨Float.Model.pack (UnpackedFloat.div .binary64 (.finite .positive m e hm) (.finite .positive n d hn))⟩ false
      (m * 2 ^ e / (n * 2 ^ d)) := by
  have htarget : Format.binary64.targetExponent (totalExponent m e - totalExponent n d) =
      max (totalExponent m e - totalExponent n d - 53) (-1074) := rfl
  obtain ⟨t, ht⟩ : ∃ t, t = min (e - d) (Format.binary64.targetExponent (totalExponent m e - totalExponent n d)) := ⟨_, rfl⟩
  have hcore : divCore .binary64 m e n d =
      (m * 2 ^ (e - d - t).toNat / n, t, accuracyOfFraction (m * 2 ^ (e - d - t).toNat % n) n) := by
    rw [divCore, ← ht, Nat.shiftLeft_eq]
  have hvalue : (m * 2 ^ e / (n * 2 ^ d) : ℚ) = ((m * 2 ^ (e - d - t).toNat : Nat) : ℚ) / n * 2 ^ t := by
    have hshift : ((2 ^ (e - d - t).toNat : Nat) : ℚ) = 2 ^ (e - d - t) := by
      rw [Nat.cast_pow, Nat.cast_ofNat, ← zpow_natCast, Int.toNat_of_nonneg (by omega)]
    have hpower : (2 : ℚ) ^ e = 2 ^ (e - d - t) * 2 ^ t * 2 ^ d := by
      rw [← zpow_add₀ two_ne_zero, ← zpow_add₀ two_ne_zero]
      congr 1
      omega
    rw [Nat.cast_mul, hshift, hpower, ← mul_assoc, mul_div_mul_right _ _ (zpow_ne_zero d two_ne_zero), ← mul_assoc, mul_div_right_comm]
  have hdiv : UnpackedFloat.div .binary64 (.finite .positive m e hm) (.finite .positive n d hn) =
      roundWithAccuracy .binary64 .positive (divCore .binary64 m e n d).1 (divCore .binary64 m e n d).2.1 (divCore .binary64 m e n d).2.2 :=
    rfl
  rw [hdiv, hcore, hvalue]
  dsimp only
  exact isNearest_roundWithAccuracy (by omega) (le_excess_of_quotient hm hn (by omega) (by omega) (by omega))
    (describes_accuracyOfFraction hn _)

end CellExpr.Number
