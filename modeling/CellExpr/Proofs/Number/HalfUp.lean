import CellExpr.Proofs.Number.Sums
import Mathlib.Tactic.Ring

/-!
# Rounding by adding a half

A half is added in doubles, so that the sum is rounded before its floor is taken. A number that has halves next to it is rounded to the
floor of the exact sum all the same (`isInteger_roundHalfUp_of_small`): the rounded sum could only reach the whole number above it, and
there is a double between the exact sum and this whole number, unless the number is the greatest one below a half. For that one
(`isInteger_roundHalfUp_of_middle`), and for whole numbers without halves next to them (`isInteger_roundHalfUp_of_large`) up to `2^53`,
the exact sum lies in the middle between two doubles, and the even one is taken.
-/

namespace CellExpr.Number

open Float.Model Float.Model.UnpackedFloat

variable {i j r v a n : Int} {c m k s u : Nat} {x : Float}

/-! ## Doubles on a grid -/

/-- A multiple of a power of two is a double if it has 53 digits at most. -/
theorem exists_unitsAt_eq (hm : m ≤ 2 ^ 53) (hk : k < 2045) : ∃ c < infinityCode, unitsAt c = m * 2 ^ k := by
  induction k generalizing m with
  | zero => exact ⟨m, Nat.lt_of_le_of_lt hm (by decide), unitsAt_add hm (.inl rfl)⟩
  | succ k ih =>
    rcases Nat.lt_or_ge m (2 ^ 52) with hlt | hge
    · obtain ⟨c, hc, hunits⟩ := ih (m := m * 2) (by omega) (by omega)
      exact ⟨c, hc, by rw [hunits, Nat.mul_assoc, Nat.pow_succ']⟩
    · exact ⟨m + (k + 1) * 2 ^ 52, by unfold infinityCode; omega, unitsAt_add hm (.inr hge)⟩

theorem exists_unitsAtRank_eq (hn : n.natAbs ≤ 2 ^ 53) (hk : k < 2045) : ∃ j : Int, j.natAbs < infinityCode ∧ unitsAtRank j = n * 2 ^ k := by
  obtain ⟨c, hc, hunits⟩ := exists_unitsAt_eq hn hk
  have hcast : (unitsAt c : Int) = n.natAbs * 2 ^ k := by rw [hunits, Nat.cast_mul, Nat.cast_pow, Nat.cast_ofNat]
  rcases Int.natAbs_eq n with hsign | hsign
  · exact ⟨c, hc, by rw [unitsAtRank_natCast, hcast, ← hsign]⟩
  · refine ⟨-c, by rwa [Int.natAbs_neg], ?_⟩
    rw [unitsAtRank_neg, unitsAtRank_natCast, hcast, ← Int.neg_mul, ← hsign]

/-- A double that is not small is a multiple of a power of two. -/
theorem dvd_unitsAt (h : 2 ^ (52 + k) ≤ unitsAt c) : 2 ^ k ∣ unitsAt c := by
  obtain ⟨m, j, rfl, hm, hfull⟩ := exists_eq_add c
  rw [unitsAt_add (Nat.le_of_lt hm) hfull] at h ⊢
  have hlt : 2 ^ (52 + k) < 2 ^ (53 + j) := by
    rw [Nat.pow_add 2 53]
    exact Nat.lt_of_le_of_lt h (Nat.mul_lt_mul_of_pos_right hm (Nat.two_pow_pos j))
  have hle := (Nat.pow_lt_pow_iff_right (by decide)).1 hlt
  exact Nat.dvd_mul_left_of_dvd (Nat.pow_dvd_pow 2 (by omega)) m

theorem dvd_unitsAtRank (h : 2 ^ (52 + k) ≤ (unitsAtRank i).natAbs) : (2 ^ k : Int) ∣ unitsAtRank i := by
  rw [natAbs_unitsAtRank] at h
  have hdvd := dvd_unitsAt h
  rw [← natAbs_unitsAtRank] at hdvd
  have hcast : ((2 ^ k : Nat) : Int) = 2 ^ k := by rw [Nat.cast_pow, Nat.cast_ofNat]
  rw [← hcast]
  exact Int.natCast_dvd.2 hdvd

/-! ## Nearest doubles on a grid -/

theorem IsNearestRank.unitsAtRank_le (h : IsNearestRank v i) (hn : n.natAbs ≤ 2 ^ 53) (hk : k < 2045) (hv : v ≤ n * 2 ^ k) :
    unitsAtRank i ≤ n * 2 ^ k := by
  obtain ⟨j, hj, hunits⟩ := exists_unitsAtRank_eq hn hk
  rw [← hunits] at hv ⊢
  exact unitsAtRank_mono (h.ge_of_ge (Nat.le_of_lt hj) hv)

theorem IsNearestRank.le_unitsAtRank (h : IsNearestRank v i) (hn : n.natAbs ≤ 2 ^ 53) (hk : k < 2045) (hv : n * 2 ^ k ≤ v) :
    n * 2 ^ k ≤ unitsAtRank i := by
  obtain ⟨j, hj, hunits⟩ := exists_unitsAtRank_eq hn hk
  rw [← hunits] at hv ⊢
  exact unitsAtRank_mono (h.le_of_le (Nat.le_of_lt hj) hv)

theorem IsNearestRank.unitsAtRank_eq (h : IsNearestRank (n * 2 ^ k) i) (hn : n.natAbs ≤ 2 ^ 53) (hk : k < 2045) :
    unitsAtRank i = n * 2 ^ k :=
  Int.le_antisymm (h.unitsAtRank_le hn hk (Int.le_refl _)) (h.le_unitsAtRank hn hk (Int.le_refl _))

/-- A double that does not lie beyond another one on a grid is finite. -/
theorem natAbs_lt_infinityCode (hn : n.natAbs ≤ 2 ^ 53) (hk : k < 2045) (h : (unitsAtRank i).natAbs ≤ (n * 2 ^ k).natAbs) :
    i.natAbs < infinityCode := by
  obtain ⟨j, hj, hunits⟩ := exists_unitsAtRank_eq hn hk
  rw [← hunits, natAbs_unitsAtRank, natAbs_unitsAtRank] at h
  exact Nat.lt_of_le_of_lt (unitsAt_strictMono.le_iff_le.1 h) hj

/-- What lies in the middle between two neighbours goes to the even one. -/
theorem IsNearestRank.of_middle (h : IsNearestRank ((2 * m + 1) * 2 ^ k) i) (hm : 2 ^ 52 ≤ m) (hlt : m < 2 ^ 53) (hk : k < 2044) :
    i.natAbs < infinityCode ∧ unitsAtRank i = (m + m % 2) * 2 ^ (k + 1) := by
  obtain ⟨c, hc, hlow⟩ : ∃ c : Nat, c = m + (k + 1) * 2 ^ 52 ∧ unitsAtRank c = m * 2 ^ (k + 1) := by
    refine ⟨_, rfl, ?_⟩
    rw [unitsAtRank_natCast, unitsAt_add (Nat.le_of_lt hlt) (.inr hm)]
    push_cast
    rfl
  have hhigh : unitsAtRank (c + 1) = (m + 1) * 2 ^ (k + 1) := by
    have hsucc : (c + 1 : Int) = (m + 1 + (k + 1) * 2 ^ 52 : Nat) := by omega
    rw [hsucc, unitsAtRank_natCast, unitsAt_add hlt (.inr (Nat.le_succ_of_le hm))]
    push_cast
    rfl
  have hbound : c + 1 < infinityCode := by unfold infinityCode; omega
  have hparity : (c : Int) % 2 = m % 2 := by omega
  have hpos : (0 : Int) < 2 ^ k := by positivity
  have hmiddle : ((2 * m + 1) * 2 ^ k : Int) = m * 2 ^ (k + 1) + 2 ^ k := by ring
  have hwidth : ((m + 1) * 2 ^ (k + 1) : Int) = m * 2 ^ (k + 1) + 2 * 2 ^ k := by ring
  rw [hwidth] at hhigh
  rw [hmiddle] at h
  have hge := h.le_of_le (j := c) (by omega) (by omega)
  have hle := h.ge_of_ge (j := c + 1) (by omega) (by omega)
  refine ⟨by omega, ?_⟩
  rcases (show i = c ∨ i = c + 1 by omega) with rfl | rfl
  · have heven := h.even (c + 1) (by omega) (by omega)
    rw [hlow, show (m : Int) % 2 = 0 by omega, Int.add_zero]
  · have heven := h.even c (by omega) (by omega)
    rw [hhigh, show (m : Int) % 2 = 1 by omega, hwidth]

/-! ## Adding a half -/

/-- The digits of a double, with its sign, and its place on the grid of powers of two. -/
theorem exists_unitsAtRank_eq_mul (i : Int) : ∃ (m k : Nat), m < 2 ^ 53 ∧ (unitsAtRank i = m * 2 ^ k ∨ unitsAtRank i = -(m * 2 ^ k : Int)) := by
  obtain ⟨m, k, hcode, hm, hfull⟩ := exists_eq_add i.natAbs
  have hunits : ((unitsAtRank i).natAbs : Int) = m * 2 ^ k := by
    rw [natAbs_unitsAtRank, hcode, unitsAt_add (Nat.le_of_lt hm) hfull]
    push_cast
    rfl
  refine ⟨m, k, hm, ?_⟩
  rw [← hunits]
  exact Int.natAbs_eq _

theorem two_pow_eq_mul {k t : Nat} (h : k ≤ t) : (2 ^ t : Int) = 2 ^ (t - k) * 2 ^ k := by
  rw [← pow_add, Nat.sub_add_cancel h]

/-- A double below the middle between two whole numbers is not on the grid of halves. -/
theorem lt_of_between (hlow : n * 2 ^ (s + 54) < a) (hhigh : a < n * 2 ^ (s + 54) + 2 ^ (s + 53)) {q : Int} (ha : a = q * 2 ^ k) :
    k < s + 53 := by
  by_contra hk
  have hpos : (0 : Int) < 2 ^ (s + 53) := by positivity
  have hlow' : 2 * n * 2 ^ (s + 53) < q * 2 ^ (k - (s + 53)) * 2 ^ (s + 53) := by
    rw [Int.mul_assoc q, ← two_pow_eq_mul (Nat.not_lt.1 hk), ← ha]
    exact lt_of_eq_of_lt (by ring) hlow
  have hhigh' : q * 2 ^ (k - (s + 53)) * 2 ^ (s + 53) < (2 * n + 1) * 2 ^ (s + 53) := by
    rw [Int.mul_assoc q, ← two_pow_eq_mul (Nat.not_lt.1 hk), ← ha]
    exact lt_of_lt_of_eq hhigh (by ring)
  have := Int.lt_of_mul_lt_mul_right hlow' (Int.le_of_lt hpos)
  have := Int.lt_of_mul_lt_mul_right hhigh' (Int.le_of_lt hpos)
  omega

/-- With a half, a double between a whole number and the middle above it still has 53 digits at most. -/
theorem add_half_le (hm : m < 2 ^ 53) (hk : k < s + 53) (hn : n ≠ 0) (hlow : n * 2 ^ (s + 54) < m * 2 ^ k)
    (hhigh : m * 2 ^ k < n * 2 ^ (s + 54) + 2 ^ (s + 53)) : (m : Int) + 2 ^ (s + 53 - k) ≤ 2 ^ 53 := by
  have hhalf := two_pow_eq_mul (Nat.le_of_lt hk)
  have hone : (2 ^ (s + 54) : Int) = 2 * 2 ^ (s + 53) := by ring
  have hpos : (0 : Int) < 2 ^ (s + 54) := by positivity
  have hgrid : (0 : Int) < 2 ^ k := by positivity
  have hn : 1 ≤ n := by
    by_contra hneg
    have := Int.mul_le_mul_of_nonneg_right (show n ≤ -1 by omega) (Int.le_of_lt hpos)
    have := Int.mul_nonneg (Int.natCast_nonneg m) (Int.le_of_lt hgrid)
    omega
  have hleast := Int.mul_le_mul_of_nonneg_right hn (Int.le_of_lt hpos)
  have hmost := Int.mul_lt_mul_of_pos_right (show (m : Int) < 2 ^ 53 by exact_mod_cast hm) hgrid
  have hpower : (2 ^ 53 * 2 ^ k : Int) = 2 ^ (53 + k) := (pow_add ..).symm
  -- the power of two that ends the digits is a whole number, so the next whole number is not above it
  have hexponent : s + 54 < 53 + k := by
    refine (pow_lt_pow_iff_right₀ (show (1 : Int) < 2 by decide)).1 ?_
    omega
  rw [two_pow_eq_mul (Nat.le_of_lt hexponent)] at hpower
  have hnext := Int.lt_of_mul_lt_mul_right (Int.lt_trans hlow (hpower ▸ hmost)) (Int.le_of_lt hpos)
  have hsucc := Int.mul_le_mul_of_nonneg_right (show n + 1 ≤ 2 ^ (53 + k - (s + 54)) by omega) (Int.le_of_lt hpos)
  refine Int.le_of_mul_le_mul_right ?_ hgrid
  rw [Int.add_mul, ← hhalf, hpower]
  rw [Int.add_mul] at hsucc
  omega

/-- A double below zero and below the middle above a whole number is greater than a half without its sign. -/
theorem half_lt (hk : k < s + 53) (hlow : n * 2 ^ (s + 54) < -(m * 2 ^ k : Int))
    (hhigh : -(m * 2 ^ k : Int) < n * 2 ^ (s + 54) + 2 ^ (s + 53)) : (2 ^ (s + 53 - k) : Int) < m := by
  have hhalf := two_pow_eq_mul (Nat.le_of_lt hk)
  have hone : (2 ^ (s + 54) : Int) = 2 * 2 ^ (s + 53) := by ring
  have hpos : (0 : Int) < 2 ^ (s + 54) := by positivity
  have hgrid : (0 : Int) < 2 ^ k := by positivity
  have hn : n ≤ -1 := by
    by_contra hnonneg
    have := Int.mul_nonneg (show 0 ≤ n by omega) (Int.le_of_lt hpos)
    have := Int.mul_nonneg (Int.natCast_nonneg m) (Int.le_of_lt hgrid)
    omega
  have hmost := Int.mul_le_mul_of_nonneg_right hn (Int.le_of_lt hpos)
  refine Int.lt_of_mul_lt_mul_right ?_ (Int.le_of_lt hgrid)
  rw [← hhalf]
  omega

/-- A double below the middle between two whole numbers gives a double with a half, unless the whole numbers are zero and one. -/
theorem exists_add_half_eq (hs : s < 1900) (hn : n ≠ 0) (hlow : n * 2 ^ (s + 54) < unitsAtRank r)
    (hhigh : unitsAtRank r < n * 2 ^ (s + 54) + 2 ^ (s + 53)) :
    ∃ (m : Int) (k : Nat), m.natAbs ≤ 2 ^ 53 ∧ k < 2045 ∧ unitsAtRank r + 2 ^ (s + 53) = m * 2 ^ k := by
  obtain ⟨m, k, hm, hunits⟩ := exists_unitsAtRank_eq_mul r
  have hk : k < s + 53 := by
    rcases hunits with ha | ha
    · exact lt_of_between hlow hhigh ha
    · exact lt_of_between hlow hhigh (ha.trans (Int.neg_mul ..).symm)
  have hhalf := two_pow_eq_mul (Nat.le_of_lt hk)
  have hpos : (0 : Int) < 2 ^ (s + 53 - k) := by positivity
  rcases hunits with ha | ha <;> rw [ha] at hlow hhigh
  · have hle := add_half_le hm hk hn hlow hhigh
    exact ⟨m + 2 ^ (s + 53 - k), k, by omega, by omega, by rw [ha, hhalf, Int.add_mul]⟩
  · have hlt := half_lt hk hlow hhigh
    exact ⟨2 ^ (s + 53 - k) - m, k, by omega, by omega, by rw [ha, hhalf, Int.sub_mul]; omega⟩

/-- With a half, a double between zero and a half does not come to more than a double below one, unless it is the greatest one. -/
theorem exists_add_half_le (hs : s < 1900) (hlow : 0 < unitsAtRank r) (hhigh : unitsAtRank r < 2 ^ (s + 53))
    (hne : unitsAtRank r ≠ (2 ^ 53 - 1) * 2 ^ s) :
    ∃ (m : Int) (k : Nat), m.natAbs ≤ 2 ^ 53 ∧ k < 2045 ∧ unitsAtRank r + 2 ^ (s + 53) ≤ m * 2 ^ k ∧ m * 2 ^ k < (2 ^ (s + 54) : Int) := by
  obtain ⟨m, k, hm, hunits⟩ := exists_unitsAtRank_eq_mul r
  have hgrid : (0 : Int) < 2 ^ k := by positivity
  have hnonneg := Int.mul_nonneg (Int.natCast_nonneg m) (Int.le_of_lt hgrid)
  have ha : unitsAtRank r = m * 2 ^ k := hunits.resolve_right (by omega)
  have hone : (2 ^ (s + 54) : Int) = 2 * 2 ^ (s + 53) := by ring
  rcases Nat.lt_or_ge s k with hcoarse | hfine
  · have hk : k < s + 53 := lt_of_between (n := 0) (by omega) (by omega) ha
    have hhalf := two_pow_eq_mul (Nat.le_of_lt hk)
    have hsum : unitsAtRank r + 2 ^ (s + 53) = (m + 2 ^ (s + 53 - k)) * 2 ^ k := by rw [ha, hhalf, Int.add_mul]
    have hless : (m + 2 ^ (s + 53 - k)) * 2 ^ k < (2 ^ (s + 54) : Int) := by rw [← hsum]; omega
    refine ⟨_, k, ?_, by omega, Int.le_of_eq hsum, hless⟩
    have hpower : (2 ^ (s + 54) : Int) ≤ 2 ^ 53 * 2 ^ k := by
      rw [← pow_add]
      exact pow_le_pow_right₀ (by decide) (by omega)
    have := Int.lt_of_mul_lt_mul_right (lt_of_lt_of_le hless hpower) (Int.le_of_lt hgrid)
    have : (0 : Int) < 2 ^ (s + 53 - k) := by positivity
    omega
  · have hpos : (0 : Int) < 2 ^ s := by positivity
    have hhalf : (2 ^ (s + 53) : Int) = 2 ^ 53 * 2 ^ s := by ring
    have hstep : (2 ^ (s + 1) : Int) = 2 * 2 ^ s := by ring
    refine ⟨2 ^ 53 - 1, s + 1, by decide, by omega, ?_, by omega⟩
    rcases Nat.lt_or_eq_of_le hfine with hlt | rfl
    · have hpower : (2 ^ (k + 1) : Int) ≤ 2 ^ s := pow_le_pow_right₀ (by decide) hlt
      have hmost := Int.mul_le_mul_of_nonneg_right (show (m : Int) ≤ 2 ^ 53 by omega) (Int.le_of_lt hgrid)
      rw [pow_succ] at hpower
      omega
    · have hm' : (m : Int) ≠ 2 ^ 53 - 1 := fun heq => hne (by rw [ha, heq])
      have hmost := Int.mul_le_mul_of_nonneg_right (show (m : Int) ≤ 2 ^ 53 - 2 by omega) (Int.le_of_lt hgrid)
      omega

section

variable (hs : s < 1900) (h : IsNearestRank (unitsAtRank r + 2 ^ (s + 53)) i)
  (hhigh : unitsAtRank r + 2 ^ (s + 53) < (n + 1) * 2 ^ (s + 54))

include h hs hhigh

/-- A number and a half is rounded up to a whole number only if the number is not less than the one before. -/
theorem IsNearestRank.le_of_half (hn : n.natAbs ≤ 2 ^ 52) (hlow : n * 2 ^ (s + 54) ≤ unitsAtRank r + 2 ^ (s + 53))
    (hge : (n + 1) * 2 ^ (s + 54) ≤ unitsAtRank i) : n * 2 ^ (s + 54) ≤ unitsAtRank r := by
  obtain ⟨j, hj, hunits⟩ := @exists_unitsAtRank_eq n (s + 54) (by omega) (by omega)
  have hnear := h.near j (Nat.le_of_lt hj)
  have hone : (2 ^ (s + 54) : Int) = 2 * 2 ^ (s + 53) := by ring
  have hsucc : (n + 1) * 2 ^ (s + 54) = n * 2 ^ (s + 54) + 2 * (2 ^ (s + 53) : Int) := by rw [Int.add_mul, Int.one_mul, hone]
  rw [hunits] at hnear
  rw [hsucc] at hge hhigh
  generalize n * (2 ^ (s + 54) : Int) = low at *
  generalize (2 ^ (s + 53) : Int) = half at *
  omega

/-- A number and a half that is below a whole number stays below it, unless the number is the greatest one below a half. -/
theorem IsNearestRank.lt_of_half (hn : n.natAbs ≤ 2 ^ 52) (hsmall : unitsAtRank r < 2 ^ 52 * 2 ^ (s + 54))
    (hlow : n * 2 ^ (s + 54) ≤ unitsAtRank r + 2 ^ (s + 53))
    (hne : unitsAtRank r ≠ (2 ^ 53 - 1) * 2 ^ s) : unitsAtRank i < (n + 1) * 2 ^ (s + 54) := by
  by_contra hge
  replace hge := Int.not_lt.1 hge
  -- a double from the sum on lies beyond the whole number, too
  have hnone (m : Int) (k : Nat) (hm : m.natAbs ≤ 2 ^ 53) (hk : k < 2045) (hle : unitsAtRank r + 2 ^ (s + 53) ≤ m * 2 ^ k) :
      (n + 1) * 2 ^ (s + 54) ≤ m * 2 ^ k := Int.le_trans hge (h.unitsAtRank_le hm hk hle)
  have hwhole := h.le_of_half hs hhigh hn hlow hge
  have hbound : n < 2 ^ 52 := lt_of_mul_lt_mul_right (Int.lt_of_le_of_lt hwhole hsmall) (by positivity)
  rcases Int.lt_or_eq_of_le hwhole with hlt | heq
  · have hone : (2 ^ (s + 54) : Int) = 2 * 2 ^ (s + 53) := by ring
    have hbefore : unitsAtRank r < n * 2 ^ (s + 54) + 2 ^ (s + 53) := by
      rw [Int.add_mul] at hhigh
      omega
    by_cases hzero : n = 0
    · subst hzero
      obtain ⟨m, k, hm, hk, hle, hlt⟩ := exists_add_half_le hs (by omega) (by omega) hne
      have := hnone m k hm hk hle
      omega
    · obtain ⟨m, k, hm, hk, heq⟩ := exists_add_half_eq hs hzero hlt hbefore
      have := hnone m k hm hk (Int.le_of_eq heq)
      omega
  · have hmiddle : unitsAtRank r + 2 ^ (s + 53) = (2 * n + 1) * 2 ^ (s + 53) := by
      rw [← heq]
      ring
    have := hnone (2 * n + 1) (s + 53) (by omega) (by omega) (Int.le_of_eq hmiddle)
    omega

end

/-- A double beyond 53 digits is even. -/
theorem exists_unitsAtRank_eq_even (h : 2 ^ 53 * 2 ^ k ≤ unitsAtRank i ∨ unitsAtRank i ≤ -(2 ^ 53 * 2 ^ k)) :
    ∃ q, unitsAtRank i = q * (2 * 2 ^ k) := by
  have hsize : ((2 ^ (52 + (k + 1)) : Nat) : Int) = 2 ^ 53 * 2 ^ k := by
    push_cast
    ring
  have hdvd : (2 ^ (k + 1) : Int) ∣ unitsAtRank i := dvd_unitsAtRank (by omega)
  rw [pow_succ'] at hdvd
  obtain ⟨q, hq⟩ := hdvd
  exact ⟨q, by rw [hq, Int.mul_comm]⟩

section

variable (hs : s < 1900) (h : IsNearestRank (unitsAtRank r + 2 ^ (s + 53)) i) (hr : r.natAbs < infinityCode)
  (ha : unitsAtRank r = n * 2 ^ (s + 54))

include ha

theorem even_of_unitsAtRank (hn : 2 ^ 53 ≤ n ∨ n < -(2 ^ 53)) :
    (∃ q, n = 2 * q) ∧ (2 ^ 53 * 2 ^ (s + 54) ≤ unitsAtRank r ∨ unitsAtRank r + 2 ^ (s + 54) ≤ -(2 ^ 53 * 2 ^ (s + 54))) := by
  have hpos : (0 : Int) < 2 ^ (s + 54) := by positivity
  have hbeyond : 2 ^ 53 * 2 ^ (s + 54) ≤ unitsAtRank r ∨ unitsAtRank r + 2 ^ (s + 54) ≤ -(2 ^ 53 * 2 ^ (s + 54)) := by
    rw [ha]
    rcases hn with hn | hn
    · exact .inl (Int.mul_le_mul_of_nonneg_right hn (Int.le_of_lt hpos))
    · have := Int.mul_le_mul_of_nonneg_right (show n + 1 ≤ -(2 ^ 53) by omega) (Int.le_of_lt hpos)
      rw [Int.add_mul, Int.one_mul, Int.neg_mul] at this
      exact .inr this
  refine ⟨?_, hbeyond⟩
  obtain ⟨q, hq⟩ := @exists_unitsAtRank_eq_even r (s + 54) (by omega)
  rw [ha, ← Int.mul_assoc, Int.mul_comm q] at hq
  exact ⟨q, Int.eq_of_mul_eq_mul_right (Int.ne_of_gt hpos) hq⟩

include h hr

/-- Doubles that are all even whole numbers stay what they are. -/
theorem IsNearestRank.eq_of_even (hn : 2 ^ 53 ≤ n ∨ n < -(2 ^ 53)) : i = r := by
  have hone : (2 ^ (s + 54) : Int) = 2 * 2 ^ (s + 53) := by ring
  have hpos : (0 : Int) < 2 ^ (s + 53) := by positivity
  have hnear := h.near r (Nat.le_of_lt hr)
  have hle := unitsAtRank_mono (h.le_of_le (Nat.le_of_lt hr) (by omega))
  obtain ⟨-, hbeyond⟩ := even_of_unitsAtRank ha hn
  obtain ⟨p, hp⟩ := @exists_unitsAtRank_eq_even r (s + 54) (by omega)
  obtain ⟨q, hq⟩ := @exists_unitsAtRank_eq_even i (s + 54) (by omega)
  have hlow : p * (2 * 2 ^ (s + 54)) < (q + 1) * (2 * 2 ^ (s + 54)) := by rw [Int.add_mul, ← hp, ← hq]; omega
  have hhigh : q * (2 * 2 ^ (s + 54)) < (p + 1) * (2 * 2 ^ (s + 54)) := by rw [Int.add_mul, ← hp, ← hq]; omega
  have hp' := Int.lt_of_mul_lt_mul_right hlow (by omega)
  have hq' := Int.lt_of_mul_lt_mul_right hhigh (by omega)
  refine eq_of_unitsAtRank_eq ?_
  rw [hp, hq, show p = q by omega]

include hs

/-- A whole number beyond the doubles that have halves goes to the next even one with a half, unless it is even. -/
theorem IsNearestRank.of_whole (hn : 2 ^ 52 ≤ n.natAbs) :
    i.natAbs < infinityCode ∧ unitsAtRank i / 2 ^ (s + 54) = n + n % 2 := by
  have hone : (2 ^ (s + 54) : Int) = 2 * 2 ^ (s + 53) := by ring
  have hpos : (0 : Int) < 2 ^ (s + 54) := by positivity
  have hquotient (k : Int) : k * 2 ^ (s + 54) / 2 ^ (s + 54) = k := Int.mul_ediv_cancel k (by omega)
  rcases (show 2 ^ 52 ≤ n ∧ n < 2 ^ 53 ∨ n = -(2 ^ 52) ∨ -(2 ^ 53) ≤ n ∧ n < -(2 ^ 52) ∨ (2 ^ 53 ≤ n ∨ n < -(2 ^ 53)) by omega)
    with ⟨hge, hlt⟩ | rfl | ⟨hge, hlt⟩ | houter
  · obtain ⟨m, rfl⟩ := Int.eq_ofNat_of_zero_le (show 0 ≤ n by omega)
    have hmiddle : unitsAtRank r + 2 ^ (s + 53) = (2 * m + 1) * 2 ^ (s + 53) := by
      rw [ha]
      ring
    rw [hmiddle] at h
    obtain ⟨hfinite, hunits⟩ := h.of_middle (by omega) (by omega) (by omega)
    exact ⟨hfinite, by rw [hunits, hquotient]⟩
  · -- below the least power of two without halves there are halves
    have hhalf : unitsAtRank r + 2 ^ (s + 53) = (-(2 ^ 53 - 1)) * 2 ^ (s + 53) := by
      rw [ha]
      ring
    rw [hhalf] at h
    have hunits := h.unitsAtRank_eq (by decide) (by omega)
    refine ⟨@natAbs_lt_infinityCode i (-(2 ^ 53 - 1)) (s + 53) (by decide) (by omega) (Nat.le_of_eq (by rw [hunits])), ?_⟩
    have heven : (-2 ^ 52 + -2 ^ 52 % 2 : Int) = -2 ^ 52 := by decide
    rw [hunits, heven, Int.ediv_eq_iff_of_pos hpos]
    omega
  · obtain ⟨m, rfl⟩ : ∃ m : Nat, n = -(m + 1) := ⟨n.natAbs - 1, by omega⟩
    have hmiddle : -(unitsAtRank r + 2 ^ (s + 53)) = (2 * m + 1) * 2 ^ (s + 53) := by
      rw [ha]
      ring
    have hneg := h.neg
    rw [hmiddle] at hneg
    obtain ⟨hfinite, hunits⟩ := hneg.of_middle (by omega) (by omega) (by omega)
    rw [unitsAtRank_neg] at hunits
    refine ⟨by omega, ?_⟩
    rw [show unitsAtRank i = -(m + m % 2 : Int) * 2 ^ (s + 54) by rw [Int.neg_mul, ← hunits, Int.neg_neg], hquotient]
    omega
  · obtain rfl := h.eq_of_even hr ha houter
    refine ⟨hr, ?_⟩
    obtain ⟨⟨q, rfl⟩, -⟩ := even_of_unitsAtRank ha houter
    rw [ha, hquotient]
    omega

end

/-! ## Floors -/

theorem unitsAt_floorCode (h : 2 ^ excess u ∣ u) : unitsAt (floorCode u) = u := by
  obtain ⟨hlt, -, hfull⟩ := isCanonical_floor u
  rw [floorCode, unitsAt_add (Nat.le_of_lt hlt) (hfull.imp_left (by omega)), Nat.div_mul_cancel h]

theorem rank_ofBits {b : UInt64} (h : magnitude b.toBitVec ≤ infinityCode) :
    rank (Float.ofBits b) = (signOf b.toBitVec).apply (magnitude b.toBitVec) := (hasPlace_unpack h).rank_pack

/-- The bits of a double that is put together from units. -/
theorem floorCode_eq_ite (u : Nat) :
    floorCode u = if u < 2 ^ 52 then u else (u.log2 - 52 + 1) * 2 ^ 52 + (u / 2 ^ (u.log2 - 52) - 2 ^ 52) := by
  split
  case isTrue hlow =>
    have hexcess : excess u = 0 := by
      by_cases hu : u = 0
      · subst hu
        rfl
      · have := (Nat.log2_lt hu).2 hlow
        unfold excess
        omega
    rw [floorCode, hexcess, Nat.pow_zero, Nat.div_one, Nat.zero_mul, Nat.add_zero]
  case isFalse hlow =>
    have hfull : 2 ^ 52 ≤ u / 2 ^ excess u := by
      rcases (isCanonical_floor u).full with hleast | hfull
      · rw [show excess u = 0 by omega, Nat.pow_zero, Nat.div_one]
        exact Nat.not_lt.1 hlow
      · exact hfull
    unfold floorCode
    unfold excess at *
    omega

theorem toNat_toBitVec_ofNat (h : m < 2 ^ 64) : (UInt64.ofNat m).toBitVec.toNat = m := UInt64.toNat_ofNat_of_lt' h

theorem rank_ofUnits (negative : Bool) (h : floorCode u < infinityCode) :
    rank (ofUnits negative u) = if negative then -(floorCode u : Int) else floorCode u := by
  have hbound : floorCode u < 2 ^ 63 := Nat.lt_trans h (by decide)
  have hbits := @toNat_toBitVec_ofNat ((if negative then 2 ^ 63 else 0) + floorCode u) (by split <;> omega)
  have hmagnitude : magnitude (UInt64.ofNat ((if negative then 2 ^ 63 else 0) + floorCode u)).toBitVec = floorCode u := by
    rw [magnitude, hbits]
    split <;> omega
  unfold ofUnits
  simp only [Nat.pow_eq]
  rw [← floorCode_eq_ite, rank_ofBits (by rw [hmagnitude]; exact Nat.le_of_lt h), hmagnitude, signOf, hbits]
  cases negative with
  | false =>
    rw [if_neg Bool.false_ne_true, if_neg Bool.false_ne_true, if_pos (by omega), Sign.apply]
  | true => rw [if_pos rfl, if_pos rfl, if_neg (by omega), Sign.apply]

/-- A double that is put together from units that it has room for stands for them. -/
theorem inUnits?_ofUnits (negative : Bool) (hdvd : 2 ^ excess u ∣ u) (h : floorCode u < infinityCode) :
    inUnits? (ofUnits negative u) = some (if negative then -(u : Int) else u) := by
  have hunits : unitsAtRank (floorCode u) = u := by rw [unitsAtRank_natCast, unitsAt_floorCode hdvd]
  rw [inUnits?_eq_some_iff, rank_ofUnits negative h]
  cases negative with
  | false => exact ⟨by rwa [if_neg Bool.false_ne_true, Int.natAbs_natCast], hunits⟩
  | true =>
    rw [if_pos rfl, if_pos rfl, Int.natAbs_neg, Int.natAbs_natCast, unitsAtRank_neg, hunits]
    exact ⟨h, rfl⟩

/-- Whole numbers with 52 digits are put together without rounding. -/
theorem inUnits?_ofUnits_whole (negative : Bool) (hn : m < 2 ^ 53) :
    inUnits? (ofUnits negative (m * unitsInOne)) = some ((if negative then -(m : Int) else m) * unitsInOne) := by
  have hunits : inUnits? (ofUnits negative (m * unitsInOne)) = some (if negative then -((m * unitsInOne : Nat) : Int) else (m * unitsInOne : Nat)) := by
    by_cases hzero : m = 0
    · subst hzero
      rw [Nat.zero_mul]
      exact inUnits?_ofUnits negative ⟨0, rfl⟩ (by decide)
    · rw [← unitsOf_count]
      exact inUnits?_ofUnits negative (dvd_count hzero hn) (floorCode_count_lt hzero hn)
  rw [hunits, Nat.cast_mul]
  cases negative with
  | false => rw [if_neg Bool.false_ne_true, if_neg Bool.false_ne_true]
  | true => rw [if_pos rfl, if_pos rfl, Int.neg_mul]

/-- One is a power of two in units, and so is a half. -/
theorem exists_half_eq : ∃ s < 1900, unitsInOne = 2 ^ (s + 54) ∧ inUnits? 0.5 = some (2 ^ (s + 53)) := by
  obtain ⟨s, hs⟩ : ∃ s, s = 1020 := ⟨_, rfl⟩
  have hone : 1074 = s + 54 := by omega
  have hrank : rank 0.5 = (2 ^ 52 + (s + 1) * 2 ^ 52 : Nat) := by
    rw [hs]
    decide +kernel
  refine ⟨s, by omega, ?_, ?_⟩
  · unfold unitsInOne
    rw [hone]
    exact Nat.pow_eq
  · rw [inUnits?_eq_some_iff, hrank, unitsAtRank_natCast, unitsAt_add (by decide) (.inr (Nat.le_refl _)), ← Nat.pow_add]
    refine ⟨by unfold infinityCode; omega, ?_⟩
    rw [Nat.cast_pow, Nat.cast_ofNat]
    exact congrArg _ (by omega)

/-- A double that is not a whole number has less than 53 digits before the point. -/
theorem lt_of_not_whole (h : inUnits? x = some a) (hwhole : a.natAbs % unitsInOne ≠ 0) : a.natAbs < 2 ^ 52 * unitsInOne := by
  obtain ⟨-, rfl⟩ := inUnits?_eq_some_iff.1 h
  obtain ⟨s, -, hone, -⟩ := exists_half_eq
  rw [natAbs_unitsAtRank, hone] at hwhole ⊢
  by_contra hge
  refine hwhole (Nat.mod_eq_zero_of_dvd (dvd_unitsAt ?_))
  rw [Nat.pow_add 2 52]
  exact Nat.not_lt.1 hge

/-- The floor is the greatest whole number that is not above. -/
theorem inUnits?_floor (h : inUnits? x = some a) : inUnits? (floor x) = some (a / unitsInOne * unitsInOne) := by
  have hpos : (0 : Int) < unitsInOne := Int.natCast_pos.2 unitsInOne_pos
  have hlt := lt_of_not_whole h
  unfold floor
  cases hexact : exact x with
  | finite negative u =>
    have ha : a = if negative then -(u : Int) else u := by
      rw [inUnits?, hexact] at h
      exact (Option.some.inj h).symm
    have hsize : a.natAbs = u := by
      rw [ha]
      cases negative <;> simp
    rw [hsize] at hlt
    dsimp only
    unfold roundMagnitude
    split
    case isTrue hwhole =>
      have hdvd : (unitsInOne : Int) ∣ a := Int.natCast_dvd.2 (Nat.dvd_of_mod_eq_zero (hsize.symm ▸ hwhole))
      rw [h, Int.ediv_mul_cancel hdvd]
    case isFalse hwhole =>
      have hdown := Nat.div_mul_le_self u unitsInOne
      have hup := Nat.div_mul_le_self (u + (unitsInOne - 1)) unitsInOne
      have hup' := Nat.lt_div_mul_add unitsInOne_pos (a := u + (unitsInOne - 1))
      have hbound (n : Nat) (hn : n * unitsInOne < 2 ^ 53 * unitsInOne) : n < 2 ^ 53 := Nat.lt_of_mul_lt_mul_right hn
      replace hlt := hlt hwhole
      cases negative with
      | false =>
        rw [if_neg Bool.false_ne_true] at ha ⊢
        rw [inUnits?_ofUnits_whole false (hbound _ (by unfold downToOnes; omega)), if_neg Bool.false_ne_true, ha, downToOnes,
          Int.natCast_ediv]
      | true =>
        rw [if_pos rfl] at ha ⊢
        rw [inUnits?_ofUnits_whole true (hbound _ (by unfold upToOnes; omega)), if_pos rfl, ha, upToOnes]
        have hfloor : -(u : Int) / unitsInOne = -((u + (unitsInOne - 1)) / unitsInOne : Nat) := by
          rw [Int.ediv_eq_iff_of_pos hpos, Int.neg_mul, ← Nat.cast_mul]
          omega
        rw [hfloor]
  | infinite negative =>
    rw [inUnits?, hexact] at h
    cases h
  | undefined =>
    rw [inUnits?, hexact] at h
    cases h

/-! ## Rounding half up -/

section

variable (hs : s < 1900) (hone : unitsInOne = 2 ^ (s + 54)) (hhalf : inUnits? 0.5 = some (2 ^ (s + 53))) (hx : inUnits? x = some a)

include hhalf hx

theorem isNearestRank_add_half : IsNearestRank (a + 2 ^ (s + 53)) (rank (x + 0.5)) := isNearestRank_add hx hhalf

omit hhalf hx

include hone

theorem isInteger_roundHalfUp_of_rank (hfinite : (rank (x + 0.5)).natAbs < infinityCode)
    (hn : unitsAtRank (rank (x + 0.5)) / 2 ^ (s + 54) = n) : IsInteger (roundHalfUp x) n := by
  have hcast : (unitsInOne : Int) = 2 ^ (s + 54) := by rw [hone, Nat.cast_pow, Nat.cast_ofNat]
  have hfloor := inUnits?_floor (inUnits?_eq_some_iff.2 ⟨hfinite, rfl⟩)
  rwa [hcast, hn, ← hcast] at hfloor

include hs hhalf hx

/-- A number below the doubles without halves is rounded to the nearest whole number, unless it is the greatest one below a half. -/
theorem isInteger_roundHalfUp_of_small (hsmall : a.natAbs < 2 ^ 52 * unitsInOne) (hne : a ≠ (2 ^ 53 - 1) * 2 ^ s) :
    IsInteger (roundHalfUp x) ((a + 2 ^ (s + 53)) / 2 ^ (s + 54)) := by
  have h := isNearestRank_add_half hhalf hx
  obtain ⟨-, rfl⟩ := inUnits?_eq_some_iff.1 hx
  have hpos : (0 : Int) < 2 ^ (s + 54) := by positivity
  have htwo : (2 ^ (s + 54) : Int) = 2 * 2 ^ (s + 53) := by ring
  have hsize : ((2 ^ 52 * unitsInOne : Nat) : Int) = 2 ^ 52 * 2 ^ (s + 54) := by
    rw [hone]
    push_cast
    rfl
  obtain ⟨n, hn⟩ : ∃ n, (unitsAtRank (rank x) + 2 ^ (s + 53)) / 2 ^ (s + 54) = n := ⟨_, rfl⟩
  obtain ⟨hlow, hhigh⟩ := (Int.ediv_eq_iff_of_pos hpos).1 hn
  have hsucc : (n + 1) * 2 ^ (s + 54) = n * 2 ^ (s + 54) + (2 ^ (s + 54) : Int) := by rw [Int.add_mul, Int.one_mul]
  have hmost : n < 2 ^ 52 + 1 := Int.lt_of_mul_lt_mul_right (a := 2 ^ (s + 54)) (by omega) (Int.le_of_lt hpos)
  have hleast : -(2 ^ 52) < n + 1 := Int.lt_of_mul_lt_mul_right (a := 2 ^ (s + 54)) (by omega) (Int.le_of_lt hpos)
  have hupper := h.lt_of_half hs (by omega) (n := n) (by omega) (by omega) hlow hne
  have hlower := h.le_unitsAtRank (n := n) (by omega) (show s + 54 < 2045 by omega) hlow
  rw [hn]
  refine isInteger_roundHalfUp_of_rank hone ?_ ((Int.ediv_eq_iff_of_pos hpos).2 ⟨hlower, by omega⟩)
  refine natAbs_lt_infinityCode (n := 2 ^ 52 + 1) (by decide) (show s + 54 < 2045 by omega) ?_
  have hmost' := Int.mul_le_mul_of_nonneg_right (show n ≤ 2 ^ 52 by omega) (Int.le_of_lt hpos)
  have hleast' := Int.mul_le_mul_of_nonneg_right (show -(2 ^ 52) ≤ n by omega) (Int.le_of_lt hpos)
  omega

/-- The greatest double below a half is rounded to one. -/
theorem isInteger_roundHalfUp_of_middle (ha : a = (2 ^ 53 - 1) * 2 ^ s) : IsInteger (roundHalfUp x) 1 := by
  have h := isNearestRank_add_half hhalf hx
  have hmiddle : a + 2 ^ (s + 53) = (2 * (2 ^ 53 - 1 : Nat) + 1) * 2 ^ s := by
    rw [ha]
    push_cast
    ring
  rw [hmiddle] at h
  obtain ⟨hfinite, hunits⟩ := h.of_middle (by decide) (by decide) (by omega)
  refine isInteger_roundHalfUp_of_rank hone hfinite ?_
  have hvalue : ((2 ^ 53 - 1 : Nat) + (2 ^ 53 - 1 : Nat) % 2 : Int) * 2 ^ (s + 1) = 2 ^ (s + 54) := by
    push_cast
    ring
  rw [hunits, hvalue]
  exact Int.ediv_self (by positivity)

/-- A double without halves is a whole number and rounded to an even one, not less than itself. -/
theorem isInteger_roundHalfUp_of_large (hlarge : 2 ^ 52 * unitsInOne ≤ a.natAbs) :
    ∃ n : Int, a = n * unitsInOne ∧ 2 ^ 52 ≤ n.natAbs ∧ IsInteger (roundHalfUp x) (n + n % 2) := by
  have h := isNearestRank_add_half hhalf hx
  have hdvd : (unitsInOne : Int) ∣ a := by
    refine Int.natCast_dvd.2 (Nat.dvd_of_mod_eq_zero ?_)
    by_contra hwhole
    exact absurd (lt_of_not_whole hx hwhole) (Nat.not_lt.2 hlarge)
  obtain ⟨n, rfl⟩ := hdvd
  rw [Int.mul_comm] at hlarge hx h
  obtain ⟨hlt, hunits⟩ := inUnits?_eq_some_iff.1 hx
  rw [← hunits] at h
  have hn : 2 ^ 52 ≤ n.natAbs := by
    rw [Int.natAbs_mul, Int.natAbs_natCast] at hlarge
    exact Nat.le_of_mul_le_mul_right hlarge unitsInOne_pos
  have hgrid : unitsAtRank (rank x) = n * 2 ^ (s + 54) := by rw [hunits, hone, Nat.cast_pow, Nat.cast_ofNat]
  obtain ⟨hfinite, hquotient⟩ := h.of_whole hs hlt hgrid hn
  exact ⟨n, Int.mul_comm _ _, hn, isInteger_roundHalfUp_of_rank hone hfinite hquotient⟩

end

end CellExpr.Number
