import CellExpr.Proofs.Function.Invocation
import CellExpr.Proofs.Number.HalfUp
import Mathlib.Data.Rat.Floor
import Mathlib.Tactic.FieldSimp
import Mathlib.Tactic.Linarith

/-!
# Rounding to whole numbers

The function rounds to the nearest whole number, and up from the middle between two. This is so for all doubles but the greatest one
below a half and the odd whole numbers beyond `2^52`: the sum of such a double and a half is no double, and it is rounded up to a whole
number that is too great by one (`RoundsTooHigh`, `call_round`).
-/

namespace CellExpr

open Number

variable {x : Float} {q : ℚ} {n : Int}

namespace Number

/-- The number that a finite double stands for. -/
def value? (x : Float) : Option ℚ := (inUnits? x).map fun a : Int => (a : ℚ) / unitsInOne

theorem unitsInOne_ne_zero : (unitsInOne : ℚ) ≠ 0 := Nat.cast_ne_zero.2 (Nat.ne_of_gt unitsInOne_pos)

theorem value?_eq_some_iff : value? x = some q ↔ ∃ a : Int, inUnits? x = some a ∧ a = q * unitsInOne := by
  rw [value?, Option.map_eq_some_iff]
  exact exists_congr fun a => and_congr_right fun _ => div_eq_iff unitsInOne_ne_zero

theorem IsInteger.value?_eq (h : IsInteger x n) : value? x = some (n : ℚ) :=
  value?_eq_some_iff.2 ⟨_, h, by rw [Int.cast_mul, Int.cast_natCast]⟩

end Number

/-- The sum of the number and a half is in the middle between two doubles, and it is the whole number above that is even. -/
def RoundsTooHigh (q : ℚ) : Prop := q = 1 / 2 - 1 / 2 ^ 54 ∨ ∃ n : Int, q = n ∧ n % 2 = 1 ∧ 2 ^ 52 < n.natAbs

theorem roundsTooHigh_intCast : RoundsTooHigh n ↔ n % 2 = 1 ∧ 2 ^ 52 < n.natAbs := by
  constructor
  · rintro (hmiddle | ⟨k, hk, hodd, hlarge⟩)
    · have hscaled : ((2 ^ 54 * n : Int) : ℚ) = (2 ^ 53 - 1 : Int) := by
        push_cast
        rw [hmiddle]
        norm_num
      have := Int.cast_injective hscaled
      omega
    · obtain rfl := Int.cast_injective hk
      exact ⟨hodd, hlarge⟩
  · exact fun ⟨hodd, hlarge⟩ => .inr ⟨n, rfl, hodd, hlarge⟩

theorem floor_intCast_add_half : ⌊(n + 1 / 2 : ℚ)⌋ = n := by
  rw [Int.floor_eq_iff]
  constructor <;> linarith

/-- A finite double is rounded to the greatest whole number that is not above its sum with a half, or to the next one. -/
theorem exists_isInteger_roundHalfUp (hx : value? x = some q) :
    ∃ r : Int, IsInteger (roundHalfUp x) r ∧ (¬RoundsTooHigh q → r = ⌊q + 1 / 2⌋) ∧ (RoundsTooHigh q → r = ⌊q + 1 / 2⌋ + 1) := by
  obtain ⟨a, ha, hq⟩ := value?_eq_some_iff.1 hx
  obtain ⟨s, hs, hone, hhalf⟩ := exists_half_eq
  have hunit : (unitsInOne : ℚ) = 2 ^ (s + 54) := by rw [hone, Nat.cast_pow, Nat.cast_ofNat]
  have hquotient : q = a / 2 ^ (s + 54) := by rw [← hunit, hq, mul_div_cancel_right₀ q unitsInOne_ne_zero]
  rcases Nat.lt_or_ge a.natAbs (2 ^ 52 * unitsInOne) with hsmall | hlarge
  · by_cases hmiddle : a = (2 ^ 53 - 1) * 2 ^ s
    · have hvalue : q = 1 / 2 - 1 / 2 ^ 54 := by
        rw [hquotient, hmiddle, pow_add]
        push_cast
        field_simp
        norm_num
      refine ⟨1, isInteger_roundHalfUp_of_middle hs hone hhalf ha hmiddle, fun h => absurd (.inl hvalue) h, fun _ => ?_⟩
      rw [hvalue]
      norm_num
    · refine ⟨_, isInteger_roundHalfUp_of_small hs hone hhalf ha hsmall hmiddle, fun _ => ?_, ?_⟩
      · have hsum : q + 1 / 2 = ((a + 2 ^ (s + 53) : Int) : ℚ) / ((2 ^ (s + 54) : Nat) : ℚ) := by
          rw [hquotient]
          push_cast
          rw [pow_succ 2 (s + 53)]
          field_simp
        rw [hsum, Rat.floor_intCast_div_natCast, Nat.cast_pow, Nat.cast_ofNat]
      · rintro (hvalue | ⟨n, rfl, -, hlarge⟩)
        · refine absurd (Int.cast_injective (α := ℚ) ?_) hmiddle
          rw [hq, hvalue, hunit, pow_add]
          push_cast
          ring
        · have hwhole : a = n * unitsInOne := by
            rw [← Int.cast_natCast, ← Int.cast_mul] at hq
            exact Int.cast_injective hq
          rw [hwhole, Int.natAbs_mul, Int.natAbs_natCast] at hsmall
          exact absurd (Nat.lt_of_mul_lt_mul_right hsmall) (Nat.not_lt.2 (Nat.le_of_lt hlarge))
  · obtain ⟨n, rfl, hn, hround⟩ := isInteger_roundHalfUp_of_large hs hone hhalf ha hlarge
    obtain rfl : q = n := by
      rw [Int.cast_mul, Int.cast_natCast] at hq
      exact (mul_right_cancel₀ unitsInOne_ne_zero hq).symm
    rw [roundsTooHigh_intCast, floor_intCast_add_half]
    exact ⟨_, hround, by omega, by omega⟩

/-- A number is rounded to a whole number. It is the nearest one, and the upper one in the middle between two, if and only if the number is
not rounded too high, and then it is the next one. So whole numbers are rounded to themselves, up to `2^52` and beyond if they are even. -/
theorem call_round (now : Calendar.Instant) (scope : Scope) (hx : value? x = some q) :
    ∃ (y : Float) (r : Int), ((Registry.standard now).call "round" [.number x] scope).value = .number y ∧ value? y = some (r : ℚ) ∧
      (-(1 / 2) < r - q ∧ r - q ≤ 1 / 2 ↔ ¬RoundsTooHigh q) ∧
      (RoundsTooHigh q → r = ⌊q + 1 / 2⌋ + 1) ∧
      ∀ n : Int, q = n → (r = n ↔ n % 2 = 0 ∨ n.natAbs ≤ 2 ^ 52) := by
  obtain ⟨r, hround, hnearest, hhigh⟩ := exists_isInteger_roundHalfUp hx
  have hle := Int.floor_le (q + 1 / 2)
  have hlt := Int.lt_floor_add_one (q + 1 / 2)
  refine ⟨_, r, rfl, hround.value?_eq, ?_, hhigh, ?_⟩
  · constructor
    · rintro ⟨-, hle⟩ h
      rw [hhigh h, Int.cast_add, Int.cast_one] at hle
      linarith
    · intro h
      rw [← hnearest h] at hle hlt
      constructor <;> linarith
  · rintro n rfl
    rw [roundsTooHigh_intCast, floor_intCast_add_half] at hnearest hhigh
    omega

/-- A half is rounded up to one, and an odd whole number beyond `2^52` to the next one. -/
theorem call_round_half :
    let now : Calendar.Instant := ⟨0, 0, by decide⟩
    (value? 0.5 = some (1 / 2) ∧ ¬RoundsTooHigh (1 / 2) ∧
      value? 4503599627370497 = some (4503599627370497 : Int) ∧ RoundsTooHigh (4503599627370497 : Int)) ∧
    (∃ y, ((Registry.standard now).call "round" [.number 0.5] []).value = .number y ∧ value? y = some (1 : Int)) ∧
    ∃ y, ((Registry.standard now).call "round" [.number 4503599627370497] []).value = .number y ∧
      value? y = some (4503599627370498 : Int) := by
  intro now
  have hhalf : value? 0.5 = some (1 / 2) := by
    obtain ⟨s, -, hone, hunits⟩ := exists_half_eq
    refine value?_eq_some_iff.2 ⟨_, hunits, ?_⟩
    rw [hone]
    push_cast
    ring
  have hlow : ¬RoundsTooHigh (1 / 2) := by
    rintro (h | ⟨n, hn, -⟩)
    · norm_num at h
    · have htwice : ((2 * n : Int) : ℚ) = (1 : Int) := by
        push_cast
        linarith
      have := Int.cast_injective htwice
      omega
  have hlarge : value? 4503599627370497 = some (4503599627370497 : Int) := IsInteger.value?_eq (by decide +kernel)
  have hhigh : RoundsTooHigh (4503599627370497 : Int) := roundsTooHigh_intCast.2 (by decide)
  refine ⟨⟨hhalf, hlow, hlarge, hhigh⟩, ?_, ?_⟩
  · obtain ⟨y, r, hcall, hvalue, hnearest, -⟩ := call_round now [] hhalf
    obtain ⟨hgt, hle⟩ := hnearest.2 hlow
    have hpos : (0 : Int) < r := Int.cast_lt (R := ℚ).1 (by push_cast; linarith)
    have hle : r ≤ 1 := Int.cast_le (R := ℚ).1 (by push_cast; linarith)
    obtain rfl : r = 1 := by omega
    exact ⟨y, hcall, hvalue⟩
  · obtain ⟨y, r, hcall, hvalue, -, hnext, -⟩ := call_round now [] hlarge
    have hr := hnext hhigh
    rw [floor_intCast_add_half] at hr
    subst hr
    exact ⟨y, hcall, hvalue⟩

/-- The whole number nearest to a whole number is the number itself, but to this one a one is added. -/
theorem not_nearest_round_odd :
    let now : Calendar.Instant := ⟨0, 0, by decide⟩
    value? 4503599627370497 = some (4503599627370497 : Int) ∧
    ∃ y, ((Registry.standard now).call "round" [.number 4503599627370497] []).value = .number y ∧
      value? y = some (4503599627370498 : Int) ∧ ¬((4503599627370498 : Int) - (4503599627370497 : Int) : ℚ) ≤ 1 / 2 := by
  intro now
  exact ⟨IsInteger.value?_eq (by decide +kernel), roundHalfUp 4503599627370497, rfl, IsInteger.value?_eq (by decide +kernel),
    by norm_num⟩

end CellExpr
