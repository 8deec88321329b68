import CellExpr.Proofs.Calendar.Extent
import Mathlib.Order.Monotone.Basic

/-!
# Days as places in months

The months of all years follow each other (`monthStart_succ`), and a day of the calendar is a month and a place in it. So each number
of a day belongs to one day of the calendar (`Civil.toDays_ofDays`) and each day of the calendar to one number (`Civil.ofDays_toDays`), and
a day of a later month has a greater number.
-/

namespace CellExpr.Calendar

/-! ## Years -/

/-- The days of the cycles of years that lead to a year. -/
theorem daysBeforeYear_of_cycles (cycle : Int) {century four one : Nat} (hcentury : century ≤ 3) (hfour : four ≤ 24) (hone : one ≤ 3) :
    daysBeforeYear (400 * cycle + (100 * century + 4 * four + one + 1 : Nat)) =
      146097 * cycle + 36524 * century + 1461 * four + 365 * one := by
  have hbefore : 400 * cycle + (100 * century + 4 * four + one + 1 : Nat) - 1 = 400 * cycle + 100 * century + 4 * four + one := by omega
  have hfours : (400 * cycle + 100 * century + 4 * four + one) / 4 = 100 * cycle + 25 * century + four := by omega
  have hcenturies : (400 * cycle + 100 * century + 4 * four + one) / 100 = 4 * cycle + century := by omega
  have hcycles : (400 * cycle + 100 * century + 4 * four + one) / 400 = cycle := by omega
  rw [daysBeforeYear, hbefore, hfours, hcenturies, hcycles]
  omega

/-- The last year of its four is a leap year, unless it ends a century and not a cycle. -/
theorem isLeap_of_cycles (cycle : Int) {century four one : Nat} (hcentury : century ≤ 3) (hfour : four ≤ 24) (hone : one ≤ 3) :
    isLeap (400 * cycle + (100 * century + 4 * four + one + 1 : Nat)) = true ↔ one = 3 ∧ (four = 24 → century = 3) := by
  simp only [isLeap, Bool.and_eq_true, Bool.or_eq_true, beq_iff_eq, bne_iff_ne]
  omega

/-- A number of days leads to a year and a day of it. -/
theorem yearOfDays_spec (n : Int) :
    daysBeforeYear (yearOfDays n).1 + (yearOfDays n).2 = n ∧ (yearOfDays n).2 < yearLength (yearOfDays n).1 := by
  simp only [yearOfDays]
  generalize hcentury : min ((n % 146097).toNat / 36524) 3 = century
  generalize hfour : ((n % 146097).toNat - century * 36524) / 1461 = four
  generalize hinFour : ((n % 146097).toNat - century * 36524) % 1461 = inFour
  generalize hone : min (inFour / 365) 3 = one
  have hcenturyLe : century ≤ 3 := by omega
  have hfourLe : four ≤ 24 := by omega
  have honeLe : one ≤ 3 := by omega
  rw [daysBeforeYear_of_cycles _ hcenturyLe hfourLe honeLe, yearLength]
  refine ⟨by omega, ?_⟩
  split
  · omega
  case isFalse hcommon =>
    rw [isLeap_of_cycles _ hcenturyLe hfourLe honeLe] at hcommon
    omega

theorem daysBeforeYear_succ (year : Int) : daysBeforeYear (year + 1) = daysBeforeYear year + yearLength year := by
  simp only [daysBeforeYear, yearLength, isLeap, Bool.and_eq_true, Bool.or_eq_true, beq_iff_eq, bne_iff_ne]
  split <;> omega

/-! ## Months of a year -/

/-- The days of months with given lengths. -/
def daysOf (lengths : List Nat) : Nat := lengths.foldl (· + ·) 0

theorem daysOf_cons (length : Nat) (rest : List Nat) : daysOf (length :: rest) = length + daysOf rest := by
  rw [daysOf, List.foldl_cons, Nat.add_comm 0, List.foldl_assoc, daysOf]

theorem daysOf_take_succ {lengths : List Nat} {i : Nat} (h : i < lengths.length) :
    daysOf (lengths.take (i + 1)) = daysOf (lengths.take i) + lengths[i] := by
  rw [List.take_succ_eq_append_getElem h, daysOf, List.foldl_append, daysOf, List.foldl_cons, List.foldl_nil]

theorem daysOf_monthLengths (year : Int) : daysOf (monthLengths year) = yearLength year := by
  unfold monthLengths yearLength
  cases isLeap year <;> rfl

theorem length_monthLengths (year : Int) : (monthLengths year).length = 12 := rfl

theorem daysBeforeMonth_eq (year : Int) (month : Nat) : daysBeforeMonth year month = daysOf ((monthLengths year).take (month - 1)) := rfl

theorem exists_monthLength_eq (year : Int) {month : Nat} (hmonth : 1 ≤ month) (h : month ≤ 12) :
    ∃ hlt : month - 1 < (monthLengths year).length, monthLength year month = (monthLengths year)[month - 1] := by
  refine ⟨by rw [length_monthLengths]; omega, ?_⟩
  rw [monthLength, List.getD_eq_getElem?_getD, List.getElem?_eq_getElem, Option.getD_some]

theorem daysBeforeMonth_succ (year : Int) {month : Nat} (hmonth : 1 ≤ month) (h : month ≤ 12) :
    daysBeforeMonth year (month + 1) = daysBeforeMonth year month + monthLength year month := by
  obtain ⟨hlt, hlength⟩ := exists_monthLength_eq year hmonth h
  rw [daysBeforeMonth_eq, daysBeforeMonth_eq, hlength, ← daysOf_take_succ hlt, Nat.sub_add_cancel hmonth, Nat.add_sub_cancel]

theorem daysBeforeMonth_thirteen (year : Int) : daysBeforeMonth year 13 = yearLength year := by
  rw [daysBeforeMonth_eq, List.take_of_length_le (Nat.le_of_eq (length_monthLengths year)), daysOf_monthLengths]

theorem monthLength_bounds (year : Int) {month : Nat} (hmonth : 1 ≤ month) (h : month ≤ 12) :
    28 ≤ monthLength year month ∧ monthLength year month ≤ 31 := by
  obtain ⟨hlt, hlength⟩ := exists_monthLength_eq year hmonth h
  have hall : ∀ length ∈ monthLengths year, 28 ≤ length ∧ length ≤ 31 := by
    unfold monthLengths
    cases isLeap year <;> decide
  rw [hlength]
  exact hall _ (List.getElem_mem hlt)

/-- A number of days below that of all the months leads to one of them and a day of it. -/
theorem monthOfDays_spec (first : Nat) {lengths : List Nat} {n : Nat} (h : n < daysOf lengths) :
    ∃ i before, i < lengths.length ∧ monthOfDays first lengths n = (first + i, before + 1) ∧
      n = daysOf (lengths.take i) + before ∧ before < lengths.getD i 0 := by
  induction lengths generalizing first n with
  | nil => exact absurd h (Nat.not_lt_zero n)
  | cons length rest ih =>
    rw [daysOf_cons] at h
    cases rest with
    | nil => exact ⟨0, n, Nat.one_pos, rfl, (Nat.zero_add n).symm, h⟩
    | cons next rest =>
      by_cases hlt : n < length
      · refine ⟨0, n, Nat.succ_pos _, ?_, (Nat.zero_add n).symm, hlt⟩
        rw [monthOfDays, if_pos hlt]
        · rfl
        · exact List.cons_ne_nil next rest
      · obtain ⟨i, before, hi, hmonth, hn, hbefore⟩ := ih (first + 1) (n := n - length) (by omega)
        refine ⟨i + 1, before, Nat.succ_lt_succ hi, ?_, ?_, hbefore⟩
        · rw [monthOfDays, if_neg hlt, hmonth, Nat.add_assoc, Nat.add_comm 1]
          exact List.cons_ne_nil next rest
        · rw [List.take_succ_cons, daysOf_cons]
          omega

theorem Civil.ofOrdinal_spec (year : Int) {before : Nat} (h : before < yearLength year) :
    (Civil.ofOrdinal year (before + 1)).Valid ∧ (Civil.ofOrdinal year (before + 1)).ordinal = before + 1 := by
  rw [← daysOf_monthLengths] at h
  obtain ⟨i, rest, hi, hmonth, hbefore, hrest⟩ := monthOfDays_spec 1 h
  have heq : Civil.ofOrdinal year (before + 1) = ⟨year, 1 + i, rest + 1⟩ := by
    rw [Civil.ofOrdinal, Nat.add_sub_cancel, hmonth]
  rw [length_monthLengths] at hi
  have hlength : monthLength year (1 + i) = (monthLengths year).getD i 0 := by rw [monthLength, Nat.add_sub_cancel_left]
  have hordinal : Civil.ordinal ⟨year, 1 + i, rest + 1⟩ = daysOf ((monthLengths year).take i) + (rest + 1) := by
    rw [ordinal, daysBeforeMonth_eq, Nat.add_sub_cancel_left]
  rw [heq, hordinal, hbefore]
  exact ⟨⟨Nat.le_add_right 1 i, by dsimp only; omega, Nat.le_add_left 1 rest, by rw [hlength]; exact hrest⟩, rfl⟩

/-! ## Months of all years -/

/-- The number of a month, counted from the first month of year 0. -/
def Civil.monthNumber (c : Civil) : Int := c.year * 12 + (c.month - 1 : Int)

/-- The length of the month with a number. -/
def lengthOfMonth (number : Int) : Nat := monthLength (number / 12) ((number % 12).toNat + 1)

/-- The number of the first day of the month with a number. -/
def monthStart (number : Int) : Int := daysBeforeYear (number / 12) - epochDays + daysBeforeMonth (number / 12) ((number % 12).toNat + 1)

theorem lengthOfMonth_bounds (number : Int) : 28 ≤ lengthOfMonth number ∧ lengthOfMonth number ≤ 31 :=
  monthLength_bounds _ (Nat.le_add_left 1 _) (by omega)

/-- A month starts after the last day of the one before. -/
theorem monthStart_succ (number : Int) : monthStart (number + 1) = monthStart number + lengthOfMonth number := by
  have hmonth := daysBeforeMonth_succ (number / 12) (Nat.le_add_left 1 (number % 12).toNat) (by omega)
  unfold monthStart lengthOfMonth
  by_cases hlast : number % 12 = 11
  · -- the month after the last one starts the next year
    have hyear : (number + 1) / 12 = number / 12 + 1 := by omega
    have hfirst : ((number + 1) % 12).toNat = 0 := by omega
    have hnone : daysBeforeMonth (number / 12 + 1) (0 + 1) = 0 := rfl
    have hall := daysBeforeMonth_thirteen (number / 12)
    have htwelve : (number % 12).toNat = 11 := by omega
    rw [htwelve, hall] at hmonth
    rw [hyear, hfirst, hnone, htwelve, daysBeforeYear_succ, hmonth]
    omega
  · have hyear : (number + 1) / 12 = number / 12 := by omega
    have hnext : ((number + 1) % 12).toNat = (number % 12).toNat + 1 := by omega
    rw [hyear, hnext, hmonth]
    omega

theorem monthStart_year (year : Int) : monthStart (year * 12) = daysBeforeYear year - epochDays := by
  have hyear : year * 12 / 12 = year := Int.mul_ediv_cancel _ (by decide)
  have hmonth : (year * 12 % 12).toNat = 0 := by rw [Int.mul_emod_left]; rfl
  rw [monthStart, hyear, hmonth]
  exact Int.add_zero _

/-- Of two months the later one does not start earlier. -/
theorem monthStart_mono {i j : Int} (h : i ≤ j) : monthStart i ≤ monthStart j := by
  refine monotone_int_of_le_succ (fun number => ?_) h
  rw [monthStart_succ]
  omega

/-- A month starts after all days of an earlier one. -/
theorem monthStart_add_length_le {i j : Int} (h : i < j) : monthStart i + lengthOfMonth i ≤ monthStart j := by
  rw [← monthStart_succ]
  exact monthStart_mono h

/-! ## Days of the calendar -/

namespace Civil

variable {c c' : Civil}

theorem Valid.year_eq (h : c.Valid) : c.monthNumber / 12 = c.year := by
  obtain ⟨hfirst, hlast, -, -⟩ := h
  unfold monthNumber
  omega

theorem Valid.month_eq (h : c.Valid) : (c.monthNumber % 12).toNat + 1 = c.month := by
  obtain ⟨hfirst, hlast, -, -⟩ := h
  unfold monthNumber
  omega

theorem Valid.lengthOfMonth (h : c.Valid) : Calendar.lengthOfMonth c.monthNumber = monthLength c.year c.month := by
  rw [Calendar.lengthOfMonth, h.year_eq, h.month_eq]

/-- The number of a day is its place after the start of its month. -/
theorem Valid.toDays_eq (h : c.Valid) : c.toDays = monthStart c.monthNumber + (c.day - 1 : Int) := by
  rw [monthStart, h.year_eq, h.month_eq, toDays, ordinal]
  omega

theorem Valid.day_bounds (h : c.Valid) : 1 ≤ c.day ∧ c.day ≤ Calendar.lengthOfMonth c.monthNumber := by
  rw [h.lengthOfMonth]
  exact h.2.2

/-- A month and a day in it are one day of the calendar. -/
theorem Valid.eq (h : c.Valid) (h' : c'.Valid) (hmonth : c.monthNumber = c'.monthNumber) (hday : c.day = c'.day) : c = c' := by
  have hyear := h'.year_eq
  have hmonth' := h'.month_eq
  rw [← hmonth, h.year_eq] at hyear
  rw [← hmonth, h.month_eq] at hmonth'
  cases c
  cases c'
  simp_all

theorem ofDays_valid (n : Int) : (ofDays n).Valid := by
  rw [ofDays_eq]
  exact (ofOrdinal_spec _ (yearOfDays_spec _).2).1

/-- A month starts no later than a day if the day's month is not an earlier one. -/
theorem Valid.monthStart_le_iff (h : c.Valid) (number : Int) : monthStart number ≤ c.toDays ↔ number ≤ c.monthNumber := by
  have hday := h.day_bounds
  rw [h.toDays_eq]
  rcases Int.lt_or_le c.monthNumber number with hlt | hle
  · have := monthStart_add_length_le hlt
    omega
  · have := monthStart_mono hle
    omega

/-- The number of a day tells its month. -/
theorem Valid.monthNumber_eq (h : c.Valid) (h' : c'.Valid) (hdays : c.toDays = c'.toDays) : c.monthNumber = c'.monthNumber := by
  refine Int.le_antisymm ((h'.monthStart_le_iff _).1 ?_) ((h.monthStart_le_iff _).1 ?_)
  · rw [← hdays]
    exact (h.monthStart_le_iff _).2 (Int.le_refl _)
  · rw [hdays]
    exact (h'.monthStart_le_iff _).2 (Int.le_refl _)

/-- The number of a day tells the day. -/
theorem Valid.eq_of_toDays (h : c.Valid) (h' : c'.Valid) (hdays : c.toDays = c'.toDays) : c = c' := by
  have hmonth := h.monthNumber_eq h' hdays
  rw [h.toDays_eq, h'.toDays_eq, hmonth] at hdays
  exact h.eq h' hmonth (by omega)

/-- The day with a number has that number. -/
theorem toDays_ofDays (n : Int) : (ofDays n).toDays = n := by
  obtain ⟨hdays, hbefore⟩ := yearOfDays_spec (n + epochDays)
  obtain ⟨-, hordinal⟩ := ofOrdinal_spec _ hbefore
  rw [ofDays_eq, toDays, hordinal, ofOrdinal_year]
  omega

/-- A day of the calendar is the one with its number. -/
theorem ofDays_toDays (h : c.Valid) : ofDays c.toDays = c := (ofDays_valid _).eq_of_toDays h (toDays_ofDays _)

end Civil

end CellExpr.Calendar
