import CellExpr.Evaluation.Range
import Mathlib.Algebra.Ring.Nat

/-!
# The order of doubles

Two doubles that are numbers compare as their places in the order of all doubles do (`lt_iff`, `beq_iff`); one that is no number
compares with none. The place is read off the bits: without the sign they count the doubles from zero on, so that the exponent
weighs more than the mantissa (`code_then`).
-/

namespace CellExpr.Number

open Float.Model Float.Model.UnpackedFloat

/-! ## Mantissas and exponents -/

/-- A mantissa and an exponent as a double has them: the mantissa has all its digits, unless the exponent is the least one. -/
structure IsCanonical (mantissa : Nat) (exponent : Int) : Prop where
  mantissa_lt : mantissa < 2 ^ 53
  le_exponent : -1074 ≤ exponent
  full : exponent = -1074 ∨ 2 ^ 52 ≤ mantissa

/-- The bits, without the sign, of the double with a mantissa and an exponent. -/
def code (mantissa : Nat) (exponent : Int) : Nat := mantissa + (exponent + 1074).toNat * 2 ^ 52

/-- The bits of infinity, without the sign. -/
def infinityCode : Nat := 2047 * 2 ^ 52

theorem code_pos {m : Nat} (hpos : 0 < m) (e : Int) : 0 < code m e := Nat.lt_of_lt_of_le hpos (Nat.le_add_right _ _)

theorem IsCanonical.mantissa_pos {m : Nat} {e : Int} (h : IsCanonical m e) (hcode : 0 < code m e) : 0 < m := by
  obtain ⟨-, -, rfl | hfull⟩ := h
  · exact hcode
  · omega

/-- The exponent weighs more than the mantissa. -/
theorem code_then {m m' : Nat} {e e' : Int} (h : IsCanonical m e) (h' : IsCanonical m' e') :
    (compare e e').then (compare m m') = compare (code m e : Int) (code m' e') := by
  obtain ⟨hm, he, hfull⟩ := h
  obtain ⟨hm', he', hfull'⟩ := h'
  rcases Int.lt_trichotomy e e' with hlt | rfl | hgt
  · have hcode : code m e < code m' e' := by unfold code; omega
    rw [Int.compare_eq_lt.2 hlt, Int.compare_eq_lt.2 (Int.ofNat_lt.2 hcode)]
    rfl
  · rw [Int.compare_eq_eq.2 rfl, Ordering.eq_then, code, code]
    rcases Nat.lt_trichotomy m m' with hlt | rfl | hgt
    · rw [Nat.compare_eq_lt.2 hlt, Int.compare_eq_lt.2 (Int.ofNat_lt.2 (Nat.add_lt_add_right hlt _))]
    · rw [Nat.compare_eq_eq.2 rfl, Int.compare_eq_eq.2 rfl]
    · rw [Nat.compare_eq_gt.2 hgt, Int.compare_eq_gt.2 (Int.ofNat_lt.2 (Nat.add_lt_add_right hgt _))]
  · have hcode : code m' e' < code m e := by unfold code; omega
    rw [Int.compare_eq_gt.2 hgt, Int.compare_eq_gt.2 (Int.ofNat_lt.2 hcode)]
    rfl

/-! ## Places -/

/-- The place in the order of all doubles of one that is a number. -/
inductive HasPlace : UnpackedFloat → Int → Prop
  | infinity (sign : Sign) : HasPlace (.infinity sign) (sign.apply infinityCode)
  | zero (sign : Sign) : HasPlace (.zero sign) 0
  | finite (sign : Sign) {mantissa : Nat} {exponent : Int} (hpos : 0 < mantissa) (hcanonical : IsCanonical mantissa exponent)
      (hfinite : code mantissa exponent < infinityCode) :
      HasPlace (.finite sign mantissa exponent hpos) (sign.apply (code mantissa exponent))

theorem HasPlace.isNaN_eq_false {f : UnpackedFloat} {i : Int} (h : HasPlace f i) : f.isNaN = false := by
  cases h <;> rfl

theorem HasPlace.finite_of_code {s : Sign} {m c : Nat} {e : Int} {hpos : 0 < m} (hcanonical : IsCanonical m e)
    (hcode : code m e = c) (hfinite : c < infinityCode) : HasPlace (.finite s m e hpos) (s.apply c) :=
  hcode ▸ .finite s hpos hcanonical (hcode ▸ hfinite)

theorem compare_neg_neg (i j : Int) : compare (-i) (-j) = (compare i j).swap := by
  rw [Int.compare_swap]
  simp only [Int.compare_eq_ite_lt, Int.neg_lt_neg_iff]

/-- Two finite doubles compare as their places do: those of one sign by exponent and mantissa. -/
theorem compare_finite (s t : Sign) {m n : Nat} {e d : Int} (hm : 0 < m) (hn : 0 < n) (h : IsCanonical m e)
    (h' : IsCanonical n d) :
    (UnpackedFloat.finite s m e hm).compare (.finite t n d hn) = some (compare (s.apply (code m e)) (t.apply (code n d))) := by
  have hpos := code_pos hm e
  have hpos' := code_pos hn d
  cases s <;> cases t
  · show some ((compare e d).then (compare m n)).swap = _
    rw [code_then h h', ← compare_neg_neg]
    rfl
  · show some Ordering.lt = _
    rw [Int.compare_eq_lt.2 (by simp only [Sign.apply]; omega)]
  · show some Ordering.gt = _
    rw [Int.compare_eq_gt.2 (by simp only [Sign.apply]; omega)]
  · show some ((compare e d).then (compare m n)) = _
    rw [code_then h h']
    rfl

/-- The doubles compare as their places do. -/
theorem HasPlace.compare_eq {f g : UnpackedFloat} {i j : Int} (hf : HasPlace f i) (hg : HasPlace g j) :
    f.compare g = some (compare i j) := by
  have hlt {i j : Int} (h : i < j) : some Ordering.lt = some (compare i j) := congrArg some (Int.compare_eq_lt.2 h).symm
  have hgt {i j : Int} (h : j < i) : some Ordering.gt = some (compare i j) := congrArg some (Int.compare_eq_gt.2 h).symm
  have heq {i j : Int} (h : i = j) : some Ordering.eq = some (compare i j) := congrArg some (Int.compare_eq_eq.2 h).symm
  have hinfinity : 0 < infinityCode := by decide
  rcases hf with s | s | @⟨s, m, e, hpos, hcanonical, hfinite⟩ <;> rcases hg with t | t | @⟨t, n, d, hpos', hcanonical', hfinite'⟩
  -- where one of the two is an infinity or a zero, their signs decide
  case infinity.infinity | infinity.zero | zero.infinity | zero.zero =>
    cases s <;> cases t <;> first
      | exact heq rfl
      | exact hlt (by simp only [Sign.apply]; omega)
      | exact hgt (by simp only [Sign.apply]; omega)
  case infinity.finite | zero.finite =>
    have hcode := code_pos hpos' d
    cases s <;> cases t <;> first
      | exact hlt (by simp only [Sign.apply]; omega)
      | exact hgt (by simp only [Sign.apply]; omega)
  case finite.infinity | finite.zero =>
    have hcode := code_pos hpos e
    cases s <;> cases t <;> first
      | exact hlt (by simp only [Sign.apply]; omega)
      | exact hgt (by simp only [Sign.apply]; omega)
  case finite.finite => exact compare_finite s t hpos hpos' hcanonical hcanonical'

/-! ## Reading the bits -/

/-- The bits of a double, without the sign. -/
def magnitude (b : BitVec 64) : Nat := b.toNat % 2 ^ 63

variable {b : BitVec 64}

theorem toNat_unpackMantissa : (@unpackMantissa .binary64 b).toNat = magnitude b % 2 ^ 52 := by
  show (b.extractLsb 51 0).toNat = _
  rw [BitVec.extractLsb_toNat, Nat.shiftRight_zero, magnitude]
  omega

theorem toNat_unpackExponent : (@unpackExponent .binary64 b).toNat = magnitude b / 2 ^ 52 := by
  show (b.extractLsb 62 52).toNat = _
  rw [BitVec.extractLsb_toNat, Nat.shiftRight_eq_div_pow, magnitude]
  omega

/-- The sign of a double with given bits. -/
def signOf (b : BitVec 64) : Sign := if b.toNat < 2 ^ 63 then .positive else .negative

theorem ofBitVec_unpackSign : Sign.ofBitVec (@unpackSign .binary64 b) = signOf b := by
  have hb : b.toNat < 2 ^ 64 := b.isLt
  have hsign : (@unpackSign .binary64 b).toNat = b.toNat / 2 ^ 63 := by
    show (b.extractLsb 63 63).toNat = _
    rw [BitVec.extractLsb_toNat, Nat.shiftRight_eq_div_pow]
    omega
  have hzero : @unpackSign .binary64 b = 0#1 ↔ b.toNat < 2 ^ 63 := by
    rw [← BitVec.toNat_inj, hsign, BitVec.toNat_ofNat]
    omega
  simp only [Sign.ofBitVec, signOf, hzero]

theorem unpackExponent_eq_iff {n : Nat} (hn : n < 2 ^ 11) :
    @unpackExponent .binary64 b = BitVec.ofNat 11 n ↔ magnitude b / 2 ^ 52 = n := by
  rw [← BitVec.toNat_inj, toNat_unpackExponent, BitVec.toNat_ofNat, Nat.mod_eq_of_lt hn]

theorem unpackMantissa_eq_zero_iff : @unpackMantissa .binary64 b = 0#52 ↔ magnitude b % 2 ^ 52 = 0 := by
  rw [← BitVec.toNat_inj, toNat_unpackMantissa, BitVec.toNat_ofNat, Nat.zero_mod]

theorem toNat_one_append_unpackMantissa :
    (1#1 ++ @unpackMantissa .binary64 b).toNat = 2 ^ 52 + magnitude b % 2 ^ 52 := by
  rw [BitVec.toNat_append, ← Nat.shiftLeft_add_eq_or_of_lt (BitVec.isLt _), toNat_unpackMantissa]
  rfl

/-- Up to infinity, the bits without the sign are the place. -/
theorem hasPlace_unpack (h : magnitude b ≤ infinityCode) :
    HasPlace (UnpackedFloat.unpack .binary64 b) ((signOf b).apply (magnitude b)) := by
  have hm := toNat_unpackMantissa (b := b)
  have he := toNat_unpackExponent (b := b)
  have hall : @unpackExponent .binary64 b = -1#11 ↔ _ := unpackExponent_eq_iff (n := 2047) (by decide)
  have hnone : @unpackExponent .binary64 b = 0#11 ↔ _ := unpackExponent_eq_iff (n := 0) (by decide)
  have hbias : Format.binary64.exponentBias = 1023 := rfl
  have hbits : Format.binary64.mantissaBitsWithoutImplicit = 52 := rfl
  rw [infinityCode] at h
  unfold UnpackedFloat.unpack
  dsimp only
  rw [ofBitVec_unpackSign]
  by_cases hexponent : @unpackExponent .binary64 b = -1#11
  · have hcode := hall.1 hexponent
    have hmagnitude : magnitude b = infinityCode := by
      rw [infinityCode]
      omega
    rw [if_pos hexponent, if_pos (unpackMantissa_eq_zero_iff.2 (by omega)), hmagnitude]
    exact .infinity _
  have hbelow : magnitude b < infinityCode := by
    have := mt hall.2 hexponent
    rw [infinityCode]
    omega
  rw [if_neg hexponent]
  by_cases hsubnormal : @unpackExponent .binary64 b = 0#11
  · have hcode := hnone.1 hsubnormal
    rw [if_pos hsubnormal]
    by_cases hzero : @unpackMantissa .binary64 b = 0#52
    · have hmantissa := unpackMantissa_eq_zero_iff.1 hzero
      rw [dif_pos hzero, show magnitude b = 0 by omega]
      cases signOf b <;> exact .zero _
    · rw [dif_neg hzero]
      refine .finite_of_code ⟨by omega, by omega, .inl (by omega)⟩ ?_ hbelow
      rw [code]
      omega
  · have hcode := mt hnone.2 hsubnormal
    rw [if_neg hsubnormal]
    rw [infinityCode] at hbelow
    refine .finite_of_code ⟨?_, by omega, .inr ?_⟩ ?_ hbelow
    · rw [toNat_one_append_unpackMantissa]
      omega
    · rw [toNat_one_append_unpackMantissa]
      omega
    · rw [code, toNat_one_append_unpackMantissa]
      omega

theorem unpack_of_infinityCode_lt (h : infinityCode < magnitude b) : UnpackedFloat.unpack .binary64 b = .notANumber := by
  have hb : magnitude b < 2 ^ 63 := Nat.mod_lt _ (by decide)
  rw [infinityCode] at h
  have hexponent : @unpackExponent .binary64 b = -1#11 := (unpackExponent_eq_iff (n := 2047) (by decide)).2 (by omega)
  have hmantissa : ¬@unpackMantissa .binary64 b = 0#52 := fun hzero => by
    have := unpackMantissa_eq_zero_iff.1 hzero
    omega
  unfold UnpackedFloat.unpack
  dsimp only
  rw [if_pos hexponent, if_neg hmantissa]

/-! ## Comparing -/

variable {x y : Float}

theorem rank_eq (x : Float) : rank x = (signOf x.toBits.toBitVec).apply (magnitude x.toBits.toBitVec) := by
  have hbits : x.toBits.toNat < 2 ^ 64 := x.toBits.toBitVec.isLt
  have hmagnitude : magnitude x.toBits.toBitVec = x.toBits.toNat % 2 ^ 63 := rfl
  by_cases hsign : x.toBits.toNat < 2 ^ 63
  · have hrank : rank x = x.toBits.toNat := if_pos hsign
    have hpositive : signOf x.toBits.toBitVec = .positive := if_pos hsign
    rw [hrank, hpositive, hmagnitude, Nat.mod_eq_of_lt hsign]
    rfl
  · have hrank : rank x = -((x.toBits.toNat - 2 ^ 63 : Nat) : Int) := if_neg hsign
    have hnegative : signOf x.toBits.toBitVec = .negative := if_neg hsign
    rw [hrank, hnegative, hmagnitude, Nat.mod_eq_sub_mod (by omega), Nat.mod_eq_of_lt (by omega)]
    rfl

theorem natAbs_apply (sign : Sign) (n : Nat) : (sign.apply n).natAbs = n := by
  cases sign <;> simp [Sign.apply]

/-- The bits of a double are its place, without the sign. -/
theorem natAbs_rank (x : Float) : (rank x).natAbs = magnitude x.toBits.toBitVec := by
  rw [rank_eq, natAbs_apply]

/-- A double is a number, and then it has its place, or it is not. -/
theorem hasPlace_or_notANumber (x : Float) :
    x.isNaN = false ∧ HasPlace x.toModel.unpack (rank x) ∨ x.isNaN = true ∧ x.toModel.unpack = .notANumber := by
  rw [rank_eq]
  rcases Nat.lt_or_ge infinityCode (magnitude x.toBits.toBitVec) with h | h
  · have hunpack : x.toModel.unpack = .notANumber := unpack_of_infinityCode_lt h
    exact .inr ⟨congrArg UnpackedFloat.isNaN hunpack, hunpack⟩
  · have hplace : HasPlace x.toModel.unpack _ := hasPlace_unpack h
    exact .inl ⟨hplace.isNaN_eq_false, hplace⟩

theorem hasPlace_of_isNaN_eq_false (h : x.isNaN = false) : HasPlace x.toModel.unpack (rank x) := by
  rcases hasPlace_or_notANumber x with ⟨-, hplace⟩ | ⟨hnot, -⟩
  · exact hplace
  · rw [h] at hnot
    cases hnot

theorem compare_notANumber (f : UnpackedFloat) : f.compare .notANumber = none := by
  cases f <;> rfl

/-- Two doubles compare if they are numbers, and then as their places do. -/
theorem compare_unpack_iff {o : Ordering} :
    x.toModel.unpack.compare y.toModel.unpack = some o ↔
      x.isNaN = false ∧ y.isNaN = false ∧ compare (rank x) (rank y) = o := by
  rcases hasPlace_or_notANumber x with ⟨hx, hplace⟩ | ⟨hx, hunpack⟩
  · rcases hasPlace_or_notANumber y with ⟨hy, hplace'⟩ | ⟨hy, hunpack⟩
    · rw [hplace.compare_eq hplace']
      exact ⟨fun h => ⟨hx, hy, Option.some.inj h⟩, fun h => congrArg some h.2.2⟩
    · rw [hunpack, compare_notANumber, hy]
      exact iff_of_false nofun fun h => Bool.noConfusion h.2.1
  · rw [hunpack, hx]
    exact iff_of_false nofun fun h => Bool.noConfusion h.1

theorem lt_iff : x < y ↔ x.isNaN = false ∧ y.isNaN = false ∧ rank x < rank y := by
  rw [← Int.compare_eq_lt, ← compare_unpack_iff]
  exact decide_eq_true_iff.trans beq_iff_eq

theorem beq_iff : (x == y) = true ↔ x.isNaN = false ∧ y.isNaN = false ∧ rank x = rank y := by
  rw [← Int.compare_eq_eq, ← compare_unpack_iff]
  exact beq_iff_eq (a := x.toModel.unpack.compare y.toModel.unpack)

end CellExpr.Number
