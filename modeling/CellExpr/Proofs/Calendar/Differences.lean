import CellExpr.Proofs.Calendar.Shifts

/-!
# Units between instants

The whole units from one instant to another are those back with the other sign (`Instant.unitsSince_comm`), do not get fewer as the
first instant gets later in months and years (`Instant.unitsSince_mono`), and undo a shift (`Instant.unitsSince_of_isLater`). The
months back to an instant on a day that all months have are those that can be added to it without passing the other one
(`Instant.monthsSince_bounds`).
-/

namespace CellExpr.Calendar.Instant

variable {a b d e start stop : Instant} {amount n : Int} {unit : TimeUnit}

/-! ## Order -/

/-- The place of an instant in time. There is room for a leap second in each second. -/
def position (d : Instant) : Int := d.seconds * 2000000000 + d.nanos

theorem cmp_eq (a b : Instant) : a.cmp b = compare a.position b.position := by
  have ha := a.nanos_lt
  have hb := b.nanos_lt
  unfold cmp position
  rcases Int.lt_trichotomy a.seconds b.seconds with hlt | heq | hgt
  · rw [Int.compare_eq_lt.2 hlt, Int.compare_eq_lt.2 (by omega)]
    rfl
  · rw [Int.compare_eq_eq.2 heq, heq, Ordering.eq_then]
    rcases Nat.lt_trichotomy a.nanos b.nanos with hlt | heq | hgt
    · rw [Nat.compare_eq_lt.2 hlt, Int.compare_eq_lt.2 (by omega)]
    · rw [Nat.compare_eq_eq.2 heq, Int.compare_eq_eq.2 (by omega)]
    · rw [Nat.compare_eq_gt.2 hgt, Int.compare_eq_gt.2 (by omega)]
  · rw [Int.compare_eq_gt.2 hgt, Int.compare_eq_gt.2 (by omega)]
    rfl

theorem position_eq (d : Instant) : d.position = monthStart d.monthNumber * 172800000000000 + d.placeInMonth := by
  have hseconds := d.seconds_eq
  rw [d.civil_valid.toDays_eq] at hseconds
  unfold position monthNumber placeInMonth
  omega

theorem placeInMonth_bounds (d : Instant) : 0 ≤ d.placeInMonth ∧ d.placeInMonth < lengthOfMonth d.monthNumber * 172800000000000 := by
  have hday := d.civil_valid.day_bounds
  have hlt := d.secondOfDay_lt
  have hnanos := d.nanos_lt
  unfold placeInMonth monthNumber
  omega

/-- An instant is not after another one if its month is earlier, or the same and its place in it not later. -/
theorem position_le_iff :
    a.position ≤ b.position ↔ a.monthNumber < b.monthNumber ∨ a.monthNumber = b.monthNumber ∧ a.placeInMonth ≤ b.placeInMonth := by
  have ha := a.placeInMonth_bounds
  have hb := b.placeInMonth_bounds
  rw [position_eq, position_eq]
  rcases Int.lt_trichotomy a.monthNumber b.monthNumber with hlt | heq | hgt
  · have := monthStart_add_length_le hlt
    omega
  · rw [heq]
    omega
  · have := monthStart_add_length_le hgt
    omega

theorem isEarlierInMonth_iff : a.isEarlierInMonth b = true ↔ a.placeInMonth < b.placeInMonth := by
  have ha := a.secondOfDay_lt
  have hb := b.secondOfDay_lt
  have hnanos := a.nanos_lt
  have hnanos' := b.nanos_lt
  rw [isEarlierInMonth, beq_iff_eq, Ordering.then_eq_lt, Ordering.then_eq_lt, Nat.compare_eq_lt, Nat.compare_eq_lt, Nat.compare_eq_lt,
    Nat.compare_eq_eq, Nat.compare_eq_eq]
  unfold placeInMonth
  omega

/-! ## Months between instants -/

/-- The months between two instants are those between their months, less one if its last is not whole. -/
theorem monthsSince_eq_ite (stop start : Instant) :
    stop.monthsSince start =
      if start.monthNumber < stop.monthNumber ∧ stop.placeInMonth < start.placeInMonth then stop.monthNumber - start.monthNumber - 1
      else if stop.monthNumber < start.monthNumber ∧ start.placeInMonth < stop.placeInMonth then
        stop.monthNumber - start.monthNumber + 1
      else stop.monthNumber - start.monthNumber := by
  have hmonths : (stop.civil.year - start.civil.year) * 12 + stop.civil.month - start.civil.month =
      stop.monthNumber - start.monthNumber := by
    unfold monthNumber Civil.monthNumber
    omega
  simp only [monthsSince, monthCarry, hmonths, Bool.and_eq_true, decide_eq_true_iff, isEarlierInMonth_iff, Int.sub_pos]
  split
  · rfl
  · split <;> omega

theorem monthsSince_comm (stop start : Instant) : stop.monthsSince start = -start.monthsSince stop := by
  rw [monthsSince_eq_ite, monthsSince_eq_ite]
  omega

/-- A later instant is not fewer months after another one. -/
theorem monthsSince_mono (h : a.position ≤ b.position) (start : Instant) : a.monthsSince start ≤ b.monthsSince start := by
  rw [position_le_iff] at h
  rw [monthsSince_eq_ite, monthsSince_eq_ite]
  omega

/-- The whole months since an earlier instant can be added to its month without passing the instant, and one more cannot. -/
theorem monthsSince_eq_iff (h : start.position ≤ stop.position) (hn : 0 ≤ n) :
    stop.monthsSince start = n ↔
      (start.monthNumber + n < stop.monthNumber ∨
        start.monthNumber + n = stop.monthNumber ∧ start.placeInMonth ≤ stop.placeInMonth) ∧
      (stop.monthNumber < start.monthNumber + (n + 1) ∨
        stop.monthNumber = start.monthNumber + (n + 1) ∧ stop.placeInMonth < start.placeInMonth) := by
  rw [position_le_iff] at h
  rw [monthsSince_eq_ite]
  omega

/-- Where there are instants months after the earlier one, its day being one that all months have, the whole months to a later one are
those that do not pass it, while one more does. -/
theorem monthsSince_eq_iff_between (hday : start.civil.day ≤ 28) (h : start.position ≤ stop.position) (hn : 0 ≤ n) :
    stop.monthsSince start = n ↔
      (∃ e, start.IsMonthsLater n e ∧ e.position ≤ stop.position) ∧
        ∀ e, start.IsMonthsLater (n + 1) e → stop.position < e.position := by
  have hfirst (k : Int) (hk : 0 ≤ k) : minYear * 12 ≤ start.monthNumber + k := by
    have := start.monthNumber_bounds.1
    omega
  rw [monthsSince_eq_iff h hn]
  refine and_congr ⟨fun hle => ?_, ?_⟩ ⟨fun hlt e he => ?_, fun hafter => ?_⟩
  · have hlast : start.monthNumber + n < (maxYear + 1) * 12 := by
      have := stop.monthNumber_bounds.2
      omega
    obtain ⟨e, he⟩ := exists_isMonthsLater (hfirst n hn) hlast
    obtain ⟨hmonth, hplace⟩ := (isMonthsLater_of_day_le hday).1 he
    exact ⟨e, he, position_le_iff.2 (by rwa [hmonth, hplace])⟩
  · rintro ⟨e, he, hle⟩
    obtain ⟨hmonth, hplace⟩ := (isMonthsLater_of_day_le hday).1 he
    rwa [position_le_iff, hmonth, hplace] at hle
  · obtain ⟨hmonth, hplace⟩ := (isMonthsLater_of_day_le hday).1 he
    rw [← Int.not_le, position_le_iff, hmonth, hplace]
    omega
  · by_cases hlast : start.monthNumber + (n + 1) < (maxYear + 1) * 12
    · obtain ⟨e, he⟩ := exists_isMonthsLater (hfirst (n + 1) (Int.add_nonneg hn Int.one_nonneg)) hlast
      obtain ⟨hmonth, hplace⟩ := (isMonthsLater_of_day_le hday).1 he
      have hlt := hafter e he
      rw [← Int.not_le, position_le_iff, hmonth, hplace] at hlt
      clear hlast
      omega
    · -- no instant is so late, the later one neither
      have := stop.monthNumber_bounds.2
      omega

theorem monthsSince_nonneg (h : start.position ≤ stop.position) : 0 ≤ stop.monthsSince start := by
  rw [position_le_iff] at h
  rw [monthsSince_eq_ite]
  omega

/-! ## Units between instants -/

theorem since_comm (a b : Instant) : a.since b = -b.since a := by
  simp only [since, inLeapSecond_iff, secondNanos]
  omega

theorem unitsSince_of_months {months : Int} (h : unit.length = .inl months) (stop start : Instant) :
    stop.unitsSince start unit = (stop.monthsSince start).tdiv months := by
  rw [unitsSince, h]

theorem unitsSince_of_nanos {length : Int} (h : unit.length = .inr length) (stop start : Instant) :
    stop.unitsSince start unit = (stop.since start).tdiv length := by
  rw [unitsSince, h]

/-- The units from one instant to another are those back with the other sign. -/
theorem unitsSince_comm (stop start : Instant) (unit : TimeUnit) : stop.unitsSince start unit = -start.unitsSince stop unit := by
  cases hlength : unit.length with
  | inl months => rw [unitsSince_of_months hlength, unitsSince_of_months hlength, monthsSince_comm, Int.neg_tdiv]
  | inr nanos => rw [unitsSince_of_nanos hlength, unitsSince_of_nanos hlength, since_comm, Int.neg_tdiv]

theorem natAbs_monthsSince_lt (stop start : Instant) : (stop.monthsSince start).natAbs < 2 ^ 53 := by
  have hstop := stop.monthNumber_bounds
  have hstart := start.monthNumber_bounds
  rw [monthsSince_eq_ite]
  unfold minYear maxYear at *
  omega

theorem natAbs_unitsSince_lt (hunit : unit = .years ∨ unit = .months) (stop start : Instant) :
    (stop.unitsSince start unit).natAbs < 2 ^ 53 := by
  have hmonths := stop.natAbs_monthsSince_lt start
  rcases hunit with rfl | rfl
  · exact Nat.lt_of_le_of_lt (Int.natAbs_tdiv_le_natAbs _ _) hmonths
  · exact Nat.lt_of_le_of_lt (Int.natAbs_tdiv_le_natAbs _ _) hmonths

/-- A later instant is not fewer months or years after another one. -/
theorem unitsSince_mono (hunit : unit = .years ∨ unit = .months) (h : a.position ≤ b.position) (start : Instant) :
    a.unitsSince start unit ≤ b.unitsSince start unit := by
  have hmonths := monthsSince_mono h start
  rcases hunit with rfl | rfl
  · exact Int.tdiv_le_tdiv (by decide) hmonths
  · exact Int.tdiv_le_tdiv (by decide) hmonths

/-- The units to an instant that lies so many later are these, outside leap seconds and for days that all months have. -/
theorem unitsSince_of_isLater (hd : d.inLeapSecond = false) (hday : (∃ nanos, unit.length = .inr nanos) ∨ d.civil.day ≤ 28)
    (h : d.IsLater amount unit e) : e.unitsSince d unit = amount := by
  rcases unit.length_cases with ⟨-, months, hlength, hmonths⟩ | ⟨nanos, hlength, hnanos⟩
  · have hle : d.civil.day ≤ 28 := hday.resolve_left (by rw [hlength]; nofun)
    rw [isLater_of_months hlength, isMonthsLater_of_day_le hle] at h
    have hsince : e.monthsSince d = amount * months := by
      rw [monthsSince_eq_ite]
      omega
    rw [unitsSince_of_months hlength, hsince, Int.mul_tdiv_cancel _ (by omega)]
  · rw [isLater_of_nanos hlength, isNanosLater_of_not_leap hd] at h
    obtain ⟨he, hdelta⟩ := h
    have hsince : e.since d = amount * nanos := by
      simp only [since, he, hd, Bool.false_eq_true, and_false, if_false]
      unfold secondNanos at *
      omega
    rw [unitsSince_of_nanos hlength, hsince, Int.mul_tdiv_cancel _ (by omega)]

end CellExpr.Calendar.Instant
