import CellExpr.Proofs.Number.Accuracy

/-!
# Sums as nearest doubles

The sum of two finite doubles has the rank of the double that is nearest to the exact sum, and of two equally near ones that of the even
one (`isNearestRank_add`). All is counted in units, so that exact sums are whole numbers.
-/

namespace CellExpr.Number

open Float.Model Float.Model.UnpackedFloat

/-! ## Units of ranks -/

/-- The units of the double with a rank. -/
def unitsAtRank (i : Int) : Int := if i < 0 then -(unitsAt i.natAbs : Int) else unitsAt i.natAbs

variable {i j v a b : Int} {c d u : Nat} {x y : Float}

theorem unitsAt_zero : unitsAt 0 = 0 := rfl

theorem unitsAtRank_natCast (c : Nat) : unitsAtRank c = unitsAt c := if_neg (Int.not_lt.2 (Int.natCast_nonneg c))

theorem unitsAtRank_neg (i : Int) : unitsAtRank (-i) = -unitsAtRank i := by
  have hzero : unitsAt (0 : Int).natAbs = 0 := unitsAt_zero
  unfold unitsAtRank
  rw [Int.natAbs_neg]
  rcases Int.lt_trichotomy i 0 with h | rfl | h
  · rw [if_neg (by omega), if_pos h, Int.neg_neg]
  · rw [if_neg (by decide), if_neg (by decide), hzero]
    rfl
  · rw [if_pos (by omega), if_neg (by omega)]

theorem unitsAtRank_apply (s : Sign) (c : Nat) : unitsAtRank (s.apply c) = s.apply (unitsAt c) := by
  cases s with
  | positive => exact unitsAtRank_natCast c
  | negative => exact (unitsAtRank_neg c).trans (congrArg _ (unitsAtRank_natCast c))

/-- A double that is greater in the order has more units. -/
theorem unitsAtRank_lt (hlt : i < j) : unitsAtRank i < unitsAtRank j := by
  have hmono := @unitsAt_strictMono i.natAbs j.natAbs
  have hmono' := @unitsAt_strictMono j.natAbs i.natAbs
  have hpos := @unitsAt_strictMono 0 j.natAbs
  have hpos' := @unitsAt_strictMono 0 i.natAbs
  rw [unitsAt_zero] at hpos hpos'
  unfold unitsAtRank
  split <;> split <;> omega

theorem unitsAtRank_mono (hle : i ≤ j) : unitsAtRank i ≤ unitsAtRank j := by
  rcases Int.lt_or_eq_of_le hle with hlt | rfl
  · exact Int.le_of_lt (unitsAtRank_lt hlt)
  · exact Int.le_refl _

theorem eq_of_unitsAtRank_eq (h : unitsAtRank i = unitsAtRank j) : i = j := by
  rcases Int.lt_trichotomy i j with hlt | heq | hlt
  · exact absurd h (Int.ne_of_lt (unitsAtRank_lt hlt))
  · exact heq
  · exact absurd h.symm (Int.ne_of_lt (unitsAtRank_lt hlt))

theorem natAbs_unitsAtRank (i : Int) : (unitsAtRank i).natAbs = unitsAt i.natAbs := by
  unfold unitsAtRank
  split
  · rw [Int.natAbs_neg, Int.natAbs_natCast]
  · rw [Int.natAbs_natCast]

/-! ## Nearest ranks -/

/-- The double with a rank is the nearest one to some units, and of two equally near ones the even one. -/
structure IsNearestRank (v i : Int) : Prop where
  le : i.natAbs ≤ infinityCode
  near : ∀ j : Int, j.natAbs ≤ infinityCode → (unitsAtRank i - v).natAbs ≤ (unitsAtRank j - v).natAbs
  even : ∀ j : Int, j.natAbs ≤ infinityCode → (unitsAtRank i - v).natAbs = (unitsAtRank j - v).natAbs → i = j ∨ i % 2 = 0

theorem IsNearestRank.neg (h : IsNearestRank v i) : IsNearestRank (-v) (-i) := by
  obtain ⟨hle, hnear, heven⟩ := h
  refine ⟨by omega, fun j hj => ?_, fun j hj heq => ?_⟩
  · have := hnear (-j) (by omega)
    rw [unitsAtRank_neg] at this ⊢
    omega
  · have := heven (-j) (by omega)
    rw [unitsAtRank_neg] at this heq
    omega

/-- The nearest double is not less than one that is not more than the value. -/
theorem IsNearestRank.le_of_le (h : IsNearestRank v i) (hj : j.natAbs ≤ infinityCode) (hv : unitsAtRank j ≤ v) : j ≤ i := by
  by_contra hlt
  have hunits := unitsAtRank_lt (Int.not_le.1 hlt)
  have := h.near j hj
  omega

/-- The nearest double is not greater than one that is not less than the value. -/
theorem IsNearestRank.ge_of_ge (h : IsNearestRank v i) (hj : j.natAbs ≤ infinityCode) (hv : v ≤ unitsAtRank j) : i ≤ j := by
  by_contra hlt
  have hunits := unitsAtRank_lt (Int.not_le.1 hlt)
  have := h.near j hj
  omega

theorem abs_cast_sub (a b : Nat) : |(a : ℚ) - b| = ((a - b : Int).natAbs : ℚ) := by
  rw [Nat.cast_natAbs, Int.cast_abs, Int.cast_sub, Int.cast_natCast, Int.cast_natCast]

/-- Doubles with the other sign are farther away than zero. -/
theorem IsNearestCode.isNearestRank (h : IsNearestCode u c) : IsNearestRank u c := by
  have hcode (d : Nat) (hd : d ≤ infinityCode) :
      (unitsAt c - u : Int).natAbs ≤ (unitsAt d - u : Int).natAbs ∧
        ((unitsAt c - u : Int).natAbs = (unitsAt d - u : Int).natAbs → c = d ∨ c % 2 = 0) := by
    have hnear := h.near d hd
    have heven := h.even d hd
    simp only [abs_cast_sub, Nat.cast_le, Nat.cast_inj] at hnear heven
    exact ⟨hnear, heven⟩
  have hrank (j : Int) : unitsAtRank j = unitsAt j.natAbs ∧ 0 ≤ j ∨ unitsAtRank j < 0 ∧ j < 0 := by
    rcases Int.lt_or_le j 0 with hj | hj
    · exact .inr ⟨unitsAtRank_lt hj, hj⟩
    · exact .inl ⟨if_neg (Int.not_lt.2 hj), hj⟩
  have hzero := (hcode 0 (Nat.zero_le _)).1
  rw [unitsAt_zero] at hzero
  refine ⟨h.le, fun j hj => ?_, fun j hj heq => ?_⟩
  all_goals
    obtain ⟨hnear, heven⟩ := hcode j.natAbs hj
    rw [unitsAtRank_natCast] at *
    rcases hrank j with ⟨hunits, hsign⟩ | ⟨hunits, hsign⟩ <;> omega

theorem IsNearestCode.isNearestRank_apply (h : IsNearestCode u c) (s : Sign) : IsNearestRank (s.apply u) (s.apply c) := by
  cases s with
  | positive => exact h.isNearestRank
  | negative => exact h.isNearestRank.neg

/-- A double is the nearest one to its own units. -/
theorem isNearestRank_self (h : i.natAbs ≤ infinityCode) : IsNearestRank (unitsAtRank i) i := by
  refine ⟨h, fun j _ => ?_, fun j _ heq => .inl (eq_of_unitsAtRank_eq ?_)⟩ <;> omega

/-! ## Finite doubles -/

theorem unitsOf_eq_unitsAt {m : Nat} {e : Int} (h : IsCanonical m e) : unitsOf m e = unitsAt (code m e) := by
  obtain ⟨hm, he, hfull⟩ := h
  exact (unitsAt_add (Nat.le_of_lt hm) (hfull.imp_left (by omega))).symm

/-- The bits of a finite double tell its units. -/
theorem exact_of_magnitude_lt (h : magnitude x.toBits.toBitVec < infinityCode) :
    exact x = .finite (hasMinus x) (unitsAt (magnitude x.toBits.toBitVec)) := by
  have hmagnitude : magnitude x.toBits.toBitVec = x.toBits.toNat % 2 ^ 63 := rfl
  rw [hmagnitude, infinityCode] at h
  rw [hmagnitude, hasMinus, exact, unitsAt]
  simp only [Nat.pow_eq]
  generalize x.toBits.toNat = b at h ⊢
  have hexponent : b / 2 ^ 52 % 2 ^ 11 = b % 2 ^ 63 / 2 ^ 52 := by omega
  have hfraction : b % 2 ^ 52 = b % 2 ^ 63 % 2 ^ 52 := by omega
  rw [hexponent, if_neg (by omega)]
  split
  · rw [if_pos (by omega), hfraction, Nat.mod_eq_of_lt (by omega)]
  · rw [if_neg (by omega), hfraction]

theorem magnitude_lt_of_exact {negative : Bool} {u : Nat} (h : exact x = .finite negative u) :
    magnitude x.toBits.toBitVec < infinityCode := by
  have hmagnitude : magnitude x.toBits.toBitVec = x.toBits.toNat % 2 ^ 63 := rfl
  rw [exact] at h
  simp only [Nat.pow_eq] at h
  rw [hmagnitude, infinityCode]
  generalize x.toBits.toNat = b at h ⊢
  by_contra hge
  rw [if_pos (by omega)] at h
  split at h <;> cases h

/-- A finite double has the units of its rank. -/
theorem inUnits?_eq_some_iff : inUnits? x = some a ↔ (rank x).natAbs < infinityCode ∧ unitsAtRank (rank x) = a := by
  have hunits : unitsAtRank (rank x) =
      if hasMinus x then -(unitsAt (magnitude x.toBits.toBitVec) : Int) else unitsAt (magnitude x.toBits.toBitVec) := by
    rw [rank_eq, unitsAtRank_apply, signOf, hasMinus]
    by_cases hsign : x.toBits.toNat < 2 ^ 63
    · have hplus : x.toBits.toBitVec.toNat < 2 ^ 63 := hsign
      rw [if_pos hplus, decide_eq_false (Nat.not_le.2 hsign)]
      rfl
    · have hminus : ¬x.toBits.toBitVec.toNat < 2 ^ 63 := hsign
      rw [if_neg hminus, decide_eq_true (Nat.not_lt.1 hsign)]
      rfl
  rw [natAbs_rank, hunits]
  constructor
  · intro h
    have hlt : magnitude x.toBits.toBitVec < infinityCode := by
      cases hexact : exact x with
      | finite negative u => exact magnitude_lt_of_exact hexact
      | _ => simp [inUnits?, hexact] at h
    rw [inUnits?, exact_of_magnitude_lt hlt] at h
    exact ⟨hlt, Option.some.inj h⟩
  · rintro ⟨hlt, rfl⟩
    rw [inUnits?, exact_of_magnitude_lt hlt]

/-! ## Sums -/

/-- A whole number other than zero is rounded to the nearest double. -/
theorem isNearestRank_round (s : Sign) {m : Nat} {e : Int} (hm : m ≠ 0) (he : -1074 ≤ e) :
    IsNearestRank (s.apply (unitsOf m e)) (rank ⟨Float.Model.pack (UnpackedFloat.round .binary64 s m e)⟩) := by
  obtain ⟨m₁, e₁, hround, -, he₁, hexcess, hunits⟩ := round_eq_roundWithAccuracy s hm he
  have hexact : Describes .exact m₁ (m₁ : ℚ) := rfl
  obtain ⟨c, hnearest, hbits⟩ := exists_toNat_pack_roundWithAccuracy s he₁ (by rwa [hunits]) hexact
  have hvalue : (m₁ : ℚ) * 2 ^ (e₁ + 1074).toNat = (unitsOf m e : Nat) := by
    rw [← hunits, unitsOf, Nat.cast_mul, Nat.cast_pow, Nat.cast_ofNat]
  rw [hvalue] at hnearest
  have hrank : rank ⟨Float.Model.pack (roundWithAccuracy .binary64 s m₁ e₁ .exact)⟩ = s.apply c := rank_of_toNat_toBits hbits hnearest.le
  rw [hround, hrank]
  exact hnearest.isNearestRank_apply s

theorem isNearestRank_normalize (n : Int) {e : Int} (he : -1074 ≤ e) :
    IsNearestRank (signedUnits n e) (rank ⟨Float.Model.pack (UnpackedFloat.normalize .binary64 n e .positive)⟩) := by
  by_cases hzero : n = 0
  · subst hzero
    have hunits : signedUnits 0 e = unitsAtRank 0 := Int.zero_mul _
    have hrank : rank ⟨Float.Model.pack (UnpackedFloat.normalize .binary64 0 e .positive)⟩ = 0 := (HasPlace.zero .positive).rank_pack
    rw [hunits, hrank]
    exact isNearestRank_self (Nat.zero_le _)
  · obtain ⟨t, k, hk, rfl, hround⟩ := normalize_eq_round hzero e
    rw [hround, signedUnits_apply]
    exact isNearestRank_round t hk he

/-- A finite double is zero, or it has a mantissa. -/
theorem unpack_of_inUnits? (h : inUnits? x = some a) :
    (∃ s, x.toModel.unpack = .zero s ∧ a = 0) ∨
      ∃ s m e hm, x.toModel.unpack = .finite s m e hm ∧ IsCanonical m e ∧ code m e < infinityCode ∧ a = s.apply (unitsOf m e) := by
  obtain ⟨hlt, rfl⟩ := inUnits?_eq_some_iff.1 h
  have hnumber : x.isNaN = false := by
    rw [← Bool.not_eq_true, isNaN_iff, ← natAbs_rank]
    omega
  have hplace := hasPlace_of_isNaN_eq_false hnumber
  generalize x.toModel.unpack = f at hplace
  generalize rank x = i at hplace hlt
  cases hplace with
  | infinity s =>
    rw [natAbs_apply] at hlt
    exact absurd hlt (Nat.lt_irrefl _)
  | zero s => exact .inl ⟨s, rfl, rfl⟩
  | finite s hpos hcanonical hfinite =>
    refine .inr ⟨s, _, _, hpos, rfl, hcanonical, hfinite, ?_⟩
    rw [unitsAtRank_apply, unitsOf_eq_unitsAt hcanonical]

/-- The sum of two finite doubles is the double nearest to the exact sum. -/
theorem isNearestRank_add (hx : inUnits? x = some a) (hy : inUnits? y = some b) : IsNearestRank (a + b) (rank (x + y)) := by
  have hsum : x + y = ⟨Float.Model.pack (UnpackedFloat.add .binary64 x.toModel.unpack y.toModel.unpack)⟩ := rfl
  have hfinite (s : Sign) {m : Nat} {e : Int} (hm : 0 < m) (h : IsCanonical m e) (hlt : code m e < infinityCode) :
      IsNearestRank (s.apply (unitsOf m e)) (rank ⟨Float.Model.pack (.finite s m e hm)⟩) := by
    rw [(HasPlace.finite s hm h hlt).rank_pack, unitsOf_eq_unitsAt h, ← unitsAtRank_apply]
    exact isNearestRank_self (by rw [natAbs_apply]; exact Nat.le_of_lt hlt)
  rw [hsum]
  rcases unpack_of_inUnits? hx with ⟨s, hunpack, rfl⟩ | ⟨s, m, e, hm, hunpack, h, hlt, rfl⟩ <;>
    rcases unpack_of_inUnits? hy with ⟨t, hunpack', rfl⟩ | ⟨t, n, d, hn, hunpack', h', hlt', rfl⟩ <;> rw [hunpack, hunpack']
  · have hrank : rank ⟨Float.Model.pack (UnpackedFloat.add .binary64 (.zero s) (.zero t))⟩ = 0 := by
      cases s <;> cases t <;> decide
    rw [hrank]
    exact isNearestRank_self (i := 0) (Nat.zero_le _)
  · rw [Int.zero_add]
    exact hfinite t hn h' hlt'
  · rw [Int.add_zero]
    exact hfinite s hm h hlt
  · rw [add_finite, ← signedUnits_sum s t m n h.le_exponent h'.le_exponent]
    exact isNearestRank_normalize _ (Int.le_min.2 ⟨h.le_exponent, h'.le_exponent⟩)

end CellExpr.Number
