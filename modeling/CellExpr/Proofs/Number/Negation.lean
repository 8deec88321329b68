import CellExpr.Proofs.Number.Decimals

/-!
# Negation of doubles

A number and its negative lie on opposite sides of zero in the order of doubles (`rank_neg`). So the doubles of a whole number and of
its negative are negatives of each other (`ofInt_beq_neg`), those of whole numbers of less than 53 binary digits are exact
(`isInteger_ofInt`), and they are ordered as the whole numbers are (`rank_ofInt_mono`).
-/

namespace CellExpr.Number

open Float.Model Float.Model.UnpackedFloat

variable {x : Float} {m n : Int}

/-! ## Numbers -/

theorem isNaN_iff_rank : x.isNaN = true ↔ infinityCode < (rank x).natAbs := by
  rw [natAbs_rank, isNaN_iff]

theorem HasPlace.neg {f : UnpackedFloat} {i : Int} (h : HasPlace f i) : HasPlace f.neg (-i) := by
  have happly (s : Sign) (c : Nat) : -s.apply c = (-s).apply c := by
    cases s with
    | positive => rfl
    | negative => exact Int.neg_neg _
  cases h with
  | infinity s =>
    rw [happly]
    exact .infinity (-s)
  | zero s => exact .zero (-s)
  | finite s hpos hcanonical hfinite =>
    rw [happly]
    exact .finite (-s) hpos hcanonical hfinite

/-- The negative of a number lies as far from zero on the other side. -/
theorem rank_neg (h : x.isNaN = false) : rank (-x) = -rank x := (hasPlace_of_isNaN_eq_false h).neg.rank_pack

theorem isNaN_neg (h : x.isNaN = false) : (-x).isNaN = false := by
  rw [← Bool.not_eq_true, isNaN_iff_rank, rank_neg h, Int.natAbs_neg, ← isNaN_iff_rank, h]
  exact Bool.false_ne_true

theorem beq_neg_neg (h : x.isNaN = false) : (x == -(-x)) = true :=
  beq_iff.2 ⟨h, isNaN_neg (isNaN_neg h), by rw [rank_neg (isNaN_neg h), rank_neg h, Int.neg_neg]⟩

/-! ## Whole numbers -/

theorem isNaN_ofNat (k : Nat) : (ofNat k).isNaN = false := by
  by_cases hk : k = 0
  · subst hk
    decide
  · exact (isNearest_ofScientific_false hk (Nat.zero_le _)).number

/-- The doubles of a whole number and of its negative are equal up to the sign. -/
theorem ofInt_beq_neg (n : Int) : (ofInt n == -(ofInt (-n))) = true := by
  have hself {y : Float} (hy : y.isNaN = false) : (y == y) = true := beq_iff.2 ⟨hy, hy, rfl⟩
  unfold ofInt
  rw [Int.natAbs_neg]
  rcases Int.lt_trichotomy n 0 with hlt | rfl | hgt
  · rw [if_pos hlt, if_neg (by omega)]
    exact hself (isNaN_neg (isNaN_ofNat _))
  · decide
  · rw [if_neg (by omega), if_pos (by omega)]
    exact beq_neg_neg (isNaN_ofNat _)

/-- The negative of a finite double without a sign has as many units. -/
theorem exact_neg {units : Nat} (h : exact x = .finite false units) : exact (-x) = .finite true units := by
  have hnumber : x.isNaN = false := by
    rw [Bool.eq_false_iff, Ne, ← exact_eq_undefined_iff, h]
    nofun
  have hsign : x.toBits.toNat < 2 ^ 63 := by
    by_contra hle
    simp only [exact, decide_eq_true (Nat.not_lt.1 hle), Nat.pow_eq] at h
    split at h
    · split at h <;> cases h
    · split at h <;> cases h
  have hcode : x.toBits.toNat ≤ infinityCode := by
    rw [← Bool.not_eq_true, isNaN_iff, magnitude] at hnumber
    have hmod : x.toBits.toBitVec.toNat % 2 ^ 63 = x.toBits.toNat := Nat.mod_eq_of_lt hsign
    omega
  have hbits := toNat_toBits_neg rfl hcode
  have hexponent : (2 ^ 63 + x.toBits.toNat) / 2 ^ 52 % 2 ^ 11 = x.toBits.toNat / 2 ^ 52 % 2 ^ 11 := by omega
  have hfraction : (2 ^ 63 + x.toBits.toNat) % 2 ^ 52 = x.toBits.toNat % 2 ^ 52 := by omega
  simp only [exact, Nat.pow_eq, decide_eq_false (Nat.not_le.2 hsign)] at h
  simp only [exact, Nat.pow_eq, hbits, hexponent, hfraction, decide_eq_true (Nat.le_add_right ..)]
  split at h
  · split at h <;> cases h
  case isFalse hfinite =>
    rw [if_neg hfinite]
    split at h
    case isTrue hzero =>
      cases h
      rw [if_pos hzero]
    case isFalse hzero =>
      cases h
      rw [if_neg hzero]

/-- The double of a whole number of less than 53 binary digits is exact. -/
theorem isInteger_ofInt (h : n.natAbs < 2 ^ 53) : IsInteger (ofInt n) n := by
  unfold ofInt
  split
  case isTrue hn =>
    rw [IsInteger, inUnits?, exact_neg (exact_ofNat h)]
    refine congrArg some ?_
    rw [if_pos rfl, Int.natCast_mul, ← Int.neg_mul]
    congr 1
    omega
  case isFalse hn =>
    have hnat := isInteger_ofNat h
    rwa [Int.natAbs_of_nonneg (Int.not_lt.1 hn)] at hnat

theorem floorCode_mono {u v : Nat} (h : u ≤ v) : floorCode u ≤ floorCode v := by
  rw [← code_floor, code_le_floorCode_iff (isCanonical_floor u), unitsOf, show ((excess u : Int) - 1074 + 1074).toNat = excess u by omega]
  exact Nat.le_trans (Nat.div_mul_le_self ..) h

theorem rank_ofNat_mono {i j : Nat} (h : i ≤ j) (hj : j < 2 ^ 53) : rank (ofNat i) ≤ rank (ofNat j) := by
  by_cases hi : i = 0
  · subst hi
    exact rank_ofNat_nonneg j
  · rw [rank_ofNat hi (Nat.lt_of_le_of_lt h hj), rank_ofNat (by omega) hj]
    exact Int.ofNat_le.2 (floorCode_mono (Nat.mul_le_mul_right _ h))

/-- Whole numbers of less than 53 binary digits are ordered as their doubles are. -/
theorem rank_ofInt_mono (h : m ≤ n) (hm : m.natAbs < 2 ^ 53) (hn : n.natAbs < 2 ^ 53) : rank (ofInt m) ≤ rank (ofInt n) := by
  have hpos := rank_ofNat_nonneg n.natAbs
  have hpos' := rank_ofNat_nonneg m.natAbs
  unfold ofInt
  split
  case isTrue hneg =>
    rw [rank_neg (isNaN_ofNat _)]
    split
    case isTrue hneg' =>
      rw [rank_neg (isNaN_ofNat _)]
      have := rank_ofNat_mono (show n.natAbs ≤ m.natAbs by omega) hm
      omega
    case isFalse => omega
  case isFalse hneg =>
    rw [if_neg (by omega)]
    exact rank_ofNat_mono (by omega) hn

end CellExpr.Number
