import CellExpr.Function.Dates
import CellExpr.Proofs.Evaluation.Complete

/-!
# How far instants lie apart

The years of instants, and the seconds and months between two of them, stay far below what the numbers that hold them have
room for. So the calculations on the way from one instant to another are complete.
-/

namespace CellExpr

namespace Calendar

/-! ## Years and months -/

/-- A day lies in the 400 years that its number is counted in. -/
theorem yearOfDays_bounds (n : Int) :
    400 * (n / 146097) < (yearOfDays n).1 ∧ (yearOfDays n).1 ≤ 400 * (n / 146097) + 400 := by
  simp only [yearOfDays]
  omega

theorem Civil.ofOrdinal_year (year : Int) (ordinal : Nat) : (Civil.ofOrdinal year ordinal).year = year := by
  unfold Civil.ofOrdinal
  generalize monthOfDays 1 (monthLengths year) (ordinal - 1) = p
  rfl

theorem Civil.ofOrdinal_month (year : Int) (ordinal : Nat) :
    (Civil.ofOrdinal year ordinal).month = (monthOfDays 1 (monthLengths year) (ordinal - 1)).1 := by
  unfold Civil.ofOrdinal
  generalize monthOfDays 1 (monthLengths year) (ordinal - 1) = p
  rfl

theorem Civil.ofDays_eq (days : Int) :
    Civil.ofDays days = .ofOrdinal (yearOfDays (days + epochDays)).1 ((yearOfDays (days + epochDays)).2 + 1) := by
  unfold Civil.ofDays
  generalize yearOfDays (days + epochDays) = p
  rfl

theorem monthOfDays_le (first : Nat) (lengths : List Nat) (n : Nat) :
    (monthOfDays first lengths n).1 ≤ first + lengths.length := by
  induction lengths generalizing first n with
  | nil => exact Nat.le_refl first
  | cons length rest ih =>
    cases rest with
    | nil => exact Nat.le_succ first
    | cons next rest =>
      rw [monthOfDays]
      · split
        · exact Nat.le_add_right first _
        · refine Nat.le_trans (ih (first + 1) (n - length)) ?_
          rw [List.length_cons (a := length)]
          omega
      · nofun

namespace Instant

theorem seconds_bounds (d : Instant) : -8334601228800 ≤ d.seconds ∧ d.seconds ≤ 8210266876799 := by
  obtain ⟨hmin, hmax, _⟩ := d.valid
  exact ⟨hmin, hmax⟩

theorem nanos_lt (d : Instant) : d.nanos < 2000000000 := by
  obtain ⟨_, _, hnanos⟩ := d.valid
  omega

theorem civil_year_bounds (d : Instant) : -262400 < d.civil.year ∧ d.civil.year ≤ 262400 := by
  have hseconds := d.seconds_bounds
  have hyear := yearOfDays_bounds (d.days + epochDays)
  rw [civil, Civil.ofDays_eq, Civil.ofOrdinal_year]
  simp only [days, daySeconds, epochDays] at hyear ⊢
  omega

theorem civil_month_le (d : Instant) : d.civil.month ≤ 13 := by
  rw [civil, Civil.ofDays_eq, Civil.ofOrdinal_month]
  exact monthOfDays_le 1 _ _

theorem monthCarry_bounds (stop start : Instant) (months : Int) :
    -1 ≤ stop.monthCarry start months ∧ stop.monthCarry start months ≤ 1 := by
  unfold monthCarry
  split
  · omega
  · split <;> omega

/-- Two instants are less than 20 million million seconds apart. -/
theorem since_bounds (stop start : Instant) : (stop.since start).natAbs < 20000000000000 * 1000000000 := by
  have hstop := stop.seconds_bounds
  have hstart := start.seconds_bounds
  have hnanos := stop.nanos_lt
  have hnanos' := start.nanos_lt
  simp only [since, secondNanos]
  split
  · omega
  · split <;> omega

end Instant

end Calendar

namespace DateFunctions

open CellExpr.Calendar CellExpr.Outcome

theorem spanSince_eq (stop start : Instant) : spanSince stop start = .ok (stop.since start) := by
  have h := stop.since_bounds start
  have hword : Number.maxWord = 9223372036854775807 := by decide
  exact given_of (by rw [maxSpan, hword]; omega) _

/-- The months between two instants are calculated within the bits that there are for them. -/
theorem monthsSince_eq (stop start : Instant) : monthsSince stop start = .ok (stop.monthsSince start) := by
  have hstop := stop.civil_year_bounds
  have hstart := start.civil_year_bounds
  have hmonth := stop.civil_month_le
  have hmonth' := start.civil_month_le
  have hcarry := stop.monthCarry_bounds start
    ((stop.civil.year - start.civil.year) * 12 + stop.civil.month - start.civil.month)
  rw [monthsSince, inBits_of_le (by omega) (by omega), ok_bind, inBits_of_le (by omega) (by omega), ok_bind,
    inBits_of_le (by omega) (by omega), ok_bind, inBits_of_le (by omega) (by omega), ok_bind]
  exact inBits_of_le (by omega) (by omega)

theorem wholeUnits_eq (stop start : Instant) (unit : TimeUnit) :
    wholeUnits stop start (stop.since start) unit = .ok (stop.unitsSince start unit) := by
  simp only [wholeUnits, Instant.unitsSince, monthsSince_eq, ok_bind]
  cases unit.length <;> rfl

end DateFunctions

end CellExpr
