import CellExpr.Proofs.Number.Whole
import Mathlib.Algebra.Order.Field.Rat
import Mathlib.Algebra.Order.Field.Basic
import Mathlib.Order.Monotone.Basic
import Mathlib.Tactic.Linarith
import Mathlib.Tactic.Positivity

/-!
# The nearest double

A double is the nearest one to a magnitude with a sign if no other double is nearer, and of two equally near ones it is the one whose
last binary digit is zero (`IsNearest`). There is only one such double (`IsNearest.unique`).

The bits of a double without its sign count the doubles from zero on. The double nearest to a value is one of the two that the value lies
between (`isNearestCode_floor`, `isNearestCode_succ`).
-/

namespace CellExpr.Number

open Float.Model Float.Model.UnpackedFloat

/-! ## Sizes -/

/-- The size of a double in ones, without its sign. Infinity has the size of the double that would follow the greatest finite one. -/
def size (x : Float) : ℚ :=
  match exact x with
  | .finite _ units => units / unitsInOne
  | .infinite _ => 2 ^ 1024
  | .undefined => 0

/-- The sign of a double, also of one that is zero or an infinity. -/
def hasMinus (x : Float) : Bool := decide (2 ^ 63 ≤ x.toBits.toNat)

/-- The double nearest to a magnitude with a sign. Of two equally near ones it is the one whose last binary digit is zero. -/
structure IsNearest (x : Float) (negative : Bool) (q : ℚ) : Prop where
  number : x.isNaN = false
  sign : hasMinus x = negative
  near : ∀ y : Float, y.isNaN = false → |size x - q| ≤ |size y - q|
  even : ∀ y : Float, y.isNaN = false → |size x - q| = |size y - q| → size x = size y ∨ x.toBits.toNat % 2 = 0

/-! ## Codes -/

/-- The units of the double with given bits, without the sign. -/
def unitsAt (c : Nat) : Nat := if c < 2 ^ 52 then c else (2 ^ 52 + c % 2 ^ 52) * 2 ^ (c / 2 ^ 52 - 1)

theorem unitsAt_add {m k : Nat} (hm : m ≤ 2 ^ 53) (hfull : k = 0 ∨ 2 ^ 52 ≤ m) : unitsAt (m + k * 2 ^ 52) = m * 2 ^ k := by
  unfold unitsAt
  split
  case isTrue hlow =>
    obtain rfl : k = 0 := by omega
    omega
  case isFalse hlow =>
    rcases Nat.lt_or_eq_of_le hm with hlt | rfl
    · rw [show (m + k * 2 ^ 52) % 2 ^ 52 = m - 2 ^ 52 by omega, show (m + k * 2 ^ 52) / 2 ^ 52 - 1 = k by omega,
        show 2 ^ 52 + (m - 2 ^ 52) = m by omega]
    · rw [show (2 ^ 53 + k * 2 ^ 52) % 2 ^ 52 = 0 by omega, show (2 ^ 53 + k * 2 ^ 52) / 2 ^ 52 - 1 = k + 1 by omega,
        Nat.pow_succ 2 k]
      omega

/-- The bits of a double are made up of a mantissa and an exponent. -/
theorem exists_eq_add (c : Nat) : ∃ m k, c = m + k * 2 ^ 52 ∧ m < 2 ^ 53 ∧ (k = 0 ∨ 2 ^ 52 ≤ m) := by
  by_cases hlow : c < 2 ^ 52
  · exact ⟨c, 0, by omega, by omega, .inl rfl⟩
  · exact ⟨2 ^ 52 + c % 2 ^ 52, c / 2 ^ 52 - 1, by omega, by omega, .inr (by omega)⟩

theorem unitsAt_strictMono : StrictMono unitsAt := by
  refine strictMono_nat_of_lt_succ fun c => ?_
  obtain ⟨m, k, rfl, hm, hfull⟩ := exists_eq_add c
  have hsucc : unitsAt (m + k * 2 ^ 52 + 1) = (m + 1) * 2 ^ k := by
    rw [Nat.add_right_comm]
    exact unitsAt_add hm (hfull.imp_right Nat.le_succ_of_le)
  rw [unitsAt_add (Nat.le_of_lt hm) hfull, hsucc]
  exact Nat.mul_lt_mul_of_pos_right (Nat.lt_succ_self m) (Nat.two_pow_pos k)

theorem unitsAt_two_pow (n k : Nat) : unitsAt (2 ^ 52 + (n + k) * 2 ^ 52) = 2 ^ (n + 52) * 2 ^ k := by
  rw [unitsAt_add (by decide) (.inr (Nat.le_refl _)), ← Nat.pow_add, ← Nat.pow_add]
  congr 1
  omega

theorem unitsAt_infinityCode : unitsAt infinityCode = 2 ^ 1024 * unitsInOne := by
  have hparts : infinityCode = 2 ^ 52 + (972 + 1074) * 2 ^ 52 := by decide
  have hexponent : 1024 = 972 + 52 := rfl
  unfold unitsInOne
  generalize 1074 = k at hparts ⊢
  rw [Nat.pow_eq, hparts, hexponent]
  exact unitsAt_two_pow 972 k

/-- The bits of a double that is a number tell its size. -/
theorem size_eq {x : Float} (h : x.isNaN = false) : size x = unitsAt (magnitude x.toBits.toBitVec) / unitsInOne := by
  have hmagnitude : magnitude x.toBits.toBitVec = x.toBits.toNat % 2 ^ 63 := rfl
  have hpos : (unitsInOne : ℚ) ≠ 0 := Nat.cast_ne_zero.2 (Nat.ne_of_gt unitsInOne_pos)
  rw [← Bool.not_eq_true, isNaN_iff, infinityCode] at h
  rw [hmagnitude] at h ⊢
  unfold size exact
  simp only [Nat.pow_eq]
  generalize x.toBits.toNat = b at h ⊢
  split_ifs with hall hzero hsubnormal
  · have hinfinity : b % 2 ^ 63 = infinityCode := by unfold infinityCode; omega
    rw [hinfinity, unitsAt_infinityCode, Nat.cast_mul, mul_div_cancel_right₀ _ hpos]
    exact (Nat.cast_pow 2 1024).symm
  · omega
  · rw [unitsAt, if_pos (by omega)]
    have hfraction : b % 2 ^ 52 = b % 2 ^ 63 := by omega
    rw [hfraction]
  · rw [unitsAt, if_neg (by omega)]
    have hfraction : b % 2 ^ 52 = b % 2 ^ 63 % 2 ^ 52 := by omega
    have hexponent : b / 2 ^ 52 % 2 ^ 11 = b % 2 ^ 63 / 2 ^ 52 := by omega
    rw [hfraction, hexponent]

/-! ## Nearest codes -/

/-- The double with given bits, without the sign, is the nearest one to some units. -/
structure IsNearestCode (v : ℚ) (c : Nat) : Prop where
  le : c ≤ infinityCode
  near : ∀ d ≤ infinityCode, |(unitsAt c : ℚ) - v| ≤ |(unitsAt d : ℚ) - v|
  even : ∀ d ≤ infinityCode, |(unitsAt c : ℚ) - v| = |(unitsAt d : ℚ) - v| → c = d ∨ c % 2 = 0

section

variable {v : ℚ} {c d f : Nat}

theorem unitsAt_le (h : c ≤ d) : (unitsAt c : ℚ) ≤ unitsAt d := Nat.cast_le.2 (unitsAt_strictMono.monotone h)

theorem unitsAt_lt (h : c < d) : (unitsAt c : ℚ) < unitsAt d := Nat.cast_lt.2 (unitsAt_strictMono h)

/-- How far a double is from a value that lies between two neighbours. -/
theorem abs_unitsAt_sub (hle : unitsAt f ≤ v) (hge : v ≤ unitsAt (f + 1)) (d : Nat) :
    d ≤ f ∧ |(unitsAt d : ℚ) - v| = v - unitsAt d ∨ f + 1 ≤ d ∧ |(unitsAt d : ℚ) - v| = unitsAt d - v := by
  rcases Nat.lt_or_ge f d with hlt | hd
  · have hunits := unitsAt_le hlt
    exact .inr ⟨hlt, abs_of_nonneg (by linarith)⟩
  · have hunits := unitsAt_le hd
    exact .inl ⟨hd, by rw [abs_of_nonpos (by linarith), neg_sub]⟩

/-- The double below a value is the nearest one if the value is not beyond the middle. -/
theorem isNearestCode_floor (hf : f ≤ infinityCode) (hle : unitsAt f ≤ v) (hhalf : 2 * v ≤ unitsAt f + unitsAt (f + 1))
    (heven : 2 * v = unitsAt f + unitsAt (f + 1) → f % 2 = 0) : IsNearestCode v f := by
  have hself : |(unitsAt f : ℚ) - v| = v - unitsAt f := by rw [abs_of_nonpos (by linarith), neg_sub]
  have hnext := unitsAt_le (Nat.le_succ f)
  refine ⟨hf, fun d _ => ?_, fun d _ heq => ?_⟩
  · rcases abs_unitsAt_sub hle (by linarith) d with ⟨hd, habs⟩ | ⟨hd, habs⟩
    all_goals
      have hunits := unitsAt_le hd
      linarith
  · rcases abs_unitsAt_sub hle (by linarith) d with ⟨hd, habs⟩ | ⟨hd, habs⟩
    · exact .inl (unitsAt_strictMono.injective (Nat.cast_injective (R := ℚ) (by linarith)))
    · have hunits := unitsAt_le hd
      exact .inr (heven (by linarith))

/-- The double above a value is the nearest one if the value is not before the middle. -/
theorem isNearestCode_succ (hf : f + 1 ≤ infinityCode) (hlt : v < unitsAt (f + 1)) (hhalf : unitsAt f + unitsAt (f + 1) ≤ 2 * v)
    (heven : 2 * v = unitsAt f + unitsAt (f + 1) → (f + 1) % 2 = 0) : IsNearestCode v (f + 1) := by
  have hself : |(unitsAt (f + 1) : ℚ) - v| = unitsAt (f + 1) - v := abs_of_nonneg (by linarith)
  refine ⟨hf, fun d _ => ?_, fun d _ heq => ?_⟩
  · rcases abs_unitsAt_sub (by linarith) (le_of_lt hlt) d with ⟨hd, habs⟩ | ⟨hd, habs⟩
    all_goals
      have hunits := unitsAt_le hd
      linarith
  · rcases abs_unitsAt_sub (by linarith) (le_of_lt hlt) d with ⟨hd, habs⟩ | ⟨hd, habs⟩
    · have hunits := unitsAt_le hd
      exact .inr (heven (by linarith))
    · exact .inl (unitsAt_strictMono.injective (Nat.cast_injective (R := ℚ) (by linarith)))

/-- Infinity is the nearest to what is not less. -/
theorem isNearestCode_infinity (h : unitsAt infinityCode ≤ v) : IsNearestCode v infinityCode := by
  have hself : |(unitsAt infinityCode : ℚ) - v| = v - unitsAt infinityCode := by rw [abs_of_nonpos (by linarith), neg_sub]
  refine ⟨Nat.le_refl _, fun d hd => ?_, fun d hd heq => ?_⟩
  · have hle := unitsAt_le hd
    rw [hself, abs_of_nonpos (by linarith)]
    linarith
  · rcases Nat.eq_or_lt_of_le hd with rfl | hlt
    · exact .inl rfl
    · have hd' := unitsAt_lt hlt
      rw [hself, abs_of_nonpos (by linarith)] at heq
      linarith

/-- Two different doubles are not both nearest: both would be even, and one between them would be nearer. -/
theorem IsNearestCode.not_lt (hc : IsNearestCode v c) (hd : IsNearestCode v d) : ¬c < d := by
  intro hlt
  have hequal : |(unitsAt c : ℚ) - v| = |(unitsAt d : ℚ) - v| := le_antisymm (hc.near d hd.le) (hd.near c hc.le)
  have hceven : c % 2 = 0 := (hc.even d hd.le hequal).resolve_left (Nat.ne_of_lt hlt)
  have hdeven : d % 2 = 0 := (hd.even c hc.le hequal.symm).resolve_left (Nat.ne_of_gt hlt)
  have hlow : (unitsAt c : ℚ) < unitsAt (c + 1) := unitsAt_lt (Nat.lt_succ_self c)
  have hhigh : (unitsAt (c + 1) : ℚ) < unitsAt d := unitsAt_lt (by omega)
  have hmiddle : v - unitsAt c = unitsAt d - v := by
    rcases abs_eq_abs.1 hequal with heq | heq <;> linarith
  have hnear := hc.near (c + 1) (Nat.le_trans (by omega) hd.le)
  rw [abs_of_nonpos (show (unitsAt c : ℚ) - v ≤ 0 by linarith)] at hnear
  rcases abs_cases ((unitsAt (c + 1) : ℚ) - v) with ⟨habs, -⟩ | ⟨habs, -⟩ <;> rw [habs] at hnear <;> linarith

theorem IsNearestCode.unique (hc : IsNearestCode v c) (hd : IsNearestCode v d) : c = d :=
  Nat.le_antisymm (Nat.not_lt.1 (hd.not_lt hc)) (Nat.not_lt.1 (hc.not_lt hd))

end

/-! ## Nearest doubles -/

section

variable {x y : Float} {negative : Bool} {q : ℚ} {c : Nat}

theorem unitsInOne_pos' : (0 : ℚ) < unitsInOne := Nat.cast_pos.2 unitsInOne_pos

theorem abs_size_sub (h : x.isNaN = false) (q : ℚ) :
    |size x - q| = |(unitsAt (magnitude x.toBits.toBitVec) : ℚ) - q * unitsInOne| / unitsInOne := by
  have hpos := unitsInOne_pos'
  rw [size_eq h, ← abs_of_pos hpos, ← abs_div, abs_of_pos hpos, sub_div, mul_div_cancel_right₀ _ (ne_of_gt hpos)]

/-- Every code up to that of infinity belongs to a double. -/
theorem exists_toNat_toBits (h : c ≤ infinityCode) : ∃ y : Float, y.toBits.toNat = c := by
  rcases Nat.eq_zero_or_pos c with rfl | hpos
  · exact ⟨0, by decide⟩
  · have hbound : c < 2 ^ 63 := Nat.lt_of_le_of_lt h (by decide)
    have htoNat : (BitVec.ofNat 64 c).toNat = c := Nat.mod_eq_of_lt (by omega)
    have hmagnitude : magnitude (BitVec.ofNat 64 c) = c := by rw [magnitude, htoNat, Nat.mod_eq_of_lt hbound]
    have hsign : signOf (BitVec.ofNat 64 c) = .positive := if_pos (by rwa [htoNat])
    have hplace := @hasPlace_unpack (BitVec.ofNat 64 c) (by rwa [hmagnitude])
    rw [hmagnitude, hsign] at hplace
    exact ⟨_, toNat_toBits_of_rank hplace.rank_pack hpos⟩

theorem isNaN_of_toNat_toBits (h : y.toBits.toNat = (if negative then 2 ^ 63 else 0) + c) (hc : c ≤ infinityCode) :
    y.isNaN = false ∧ hasMinus y = negative ∧ magnitude y.toBits.toBitVec = c := by
  have hbound : c < 2 ^ 63 := Nat.lt_of_le_of_lt hc (by decide)
  have hmagnitude : magnitude y.toBits.toBitVec = c := by
    show y.toBits.toNat % 2 ^ 63 = c
    split at h <;> omega
  refine ⟨?_, ?_, hmagnitude⟩
  · rw [← Bool.not_eq_true, isNaN_iff, hmagnitude]
    exact Nat.not_lt.2 hc
  · cases negative with
    | false =>
      rw [if_neg Bool.false_ne_true] at h
      exact decide_eq_false (by omega)
    | true =>
      rw [if_pos rfl] at h
      exact decide_eq_true (by omega)

theorem magnitude_mod_two (x : Float) : magnitude x.toBits.toBitVec % 2 = x.toBits.toNat % 2 := by
  show x.toBits.toNat % 2 ^ 63 % 2 = _
  omega

theorem isNearest_iff : IsNearest x negative q ↔
    x.isNaN = false ∧ hasMinus x = negative ∧ IsNearestCode (q * unitsInOne) (magnitude x.toBits.toBitVec) := by
  have hpos := unitsInOne_pos'
  constructor
  · rintro ⟨hnumber, hsign, hnear, heven⟩
    refine ⟨hnumber, hsign, ?_, fun d hd => ?_, fun d hd heq => ?_⟩
    · rw [← Bool.not_eq_true, isNaN_iff] at hnumber
      exact Nat.not_lt.1 hnumber
    · obtain ⟨y, hy⟩ := exists_toNat_toBits hd
      obtain ⟨hy, -, hmagnitude⟩ := @isNaN_of_toNat_toBits y false d (hy.trans (Nat.zero_add d).symm) hd
      have hle := hnear y hy
      rw [abs_size_sub hnumber, abs_size_sub hy, hmagnitude] at hle
      exact (div_le_div_iff_of_pos_right hpos).1 hle
    · obtain ⟨y, hy⟩ := exists_toNat_toBits hd
      obtain ⟨hy, -, hmagnitude⟩ := @isNaN_of_toNat_toBits y false d (hy.trans (Nat.zero_add d).symm) hd
      have hor := heven y hy (by rw [abs_size_sub hnumber, abs_size_sub hy, hmagnitude, heq])
      rw [magnitude_mod_two]
      refine hor.imp_left fun hsize => ?_
      rw [size_eq hnumber, size_eq hy, hmagnitude, div_left_inj' (ne_of_gt hpos), Nat.cast_inj] at hsize
      exact unitsAt_strictMono.injective hsize
  · rintro ⟨hnumber, hsign, hcode⟩
    have hle {y : Float} (hy : y.isNaN = false) : magnitude y.toBits.toBitVec ≤ infinityCode := by
      rw [← Bool.not_eq_true, isNaN_iff] at hy
      exact Nat.not_lt.1 hy
    refine ⟨hnumber, hsign, fun y hy => ?_, fun y hy heq => ?_⟩
    · rw [abs_size_sub hnumber, abs_size_sub hy]
      exact (div_le_div_iff_of_pos_right hpos).2 (hcode.near _ (hle hy))
    · rw [abs_size_sub hnumber, abs_size_sub hy, div_left_inj' (ne_of_gt hpos)] at heq
      rw [← magnitude_mod_two, size_eq hnumber, size_eq hy]
      exact (hcode.even _ (hle hy) heq).imp_left fun hcodes => by rw [hcodes]

/-- There is one nearest double only. -/
theorem IsNearest.unique (hx : IsNearest x negative q) (hy : IsNearest y negative q) : x = y := by
  obtain ⟨-, hsign, hcode⟩ := isNearest_iff.1 hx
  obtain ⟨-, hsign', hcode'⟩ := isNearest_iff.1 hy
  have hmagnitude : x.toBits.toNat % 2 ^ 63 = y.toBits.toNat % 2 ^ 63 := hcode.unique hcode'
  have hx : x.toBits.toNat < 2 ^ 64 := x.toBits.toBitVec.isLt
  have hy : y.toBits.toNat < 2 ^ 64 := y.toBits.toBitVec.isLt
  have hiff : 2 ^ 63 ≤ x.toBits.toNat ↔ 2 ^ 63 ≤ y.toBits.toNat := decide_eq_decide.1 (hsign.trans hsign'.symm)
  exact eq_of_toNat_toBits (by omega)

/-- The double with a sign and the bits of the nearest one is the nearest one with this sign. -/
theorem IsNearestCode.isNearest (h : IsNearestCode (q * unitsInOne) c)
    (hbits : x.toBits.toNat = (if negative then 2 ^ 63 else 0) + c) : IsNearest x negative q := by
  obtain ⟨hnumber, hsign, hmagnitude⟩ := isNaN_of_toNat_toBits hbits h.le
  exact isNearest_iff.2 ⟨hnumber, hsign, hmagnitude ▸ h⟩

end

end CellExpr.Number
