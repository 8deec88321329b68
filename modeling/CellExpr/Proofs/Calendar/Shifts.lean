import CellExpr.Calendar.TimeUnit
import CellExpr.Proofs.Calendar.Months
import Mathlib.Algebra.Ring.Nat

/-!
# Instants that lie some time later

A shift leads to the one instant that lies so much later, and to none only if there is no such instant (`Instant.shift?_eq_some_iff`).
Months later means in a month so many further on, at the same time of day, on the same day of the month or on the last one if the month
is too short. Nanoseconds later means that so many of them pass; those of a leap second pass between its end and its start.
-/

namespace CellExpr.Calendar

/-- A unit is so many months, or so many nanoseconds. -/
theorem TimeUnit.length_cases (unit : TimeUnit) :
    (unit = .years ∨ unit = .months) ∧ (∃ months, unit.length = .inl months ∧ (months = 1 ∨ months = 12)) ∨
      ∃ nanos, unit.length = .inr nanos ∧ 1000000 ≤ nanos := by
  cases unit <;> simp [length, daySeconds, secondNanos]

namespace Instant

variable {a b d e : Instant} {seconds months amount delta : Int} {nanos : Nat} {unit : TimeUnit}

/-! ## Parts of instants -/

theorem eq_of_parts (hseconds : d.seconds = e.seconds) (hnanos : d.nanos = e.nanos) : d = e := by
  cases d
  cases e
  obtain rfl := hseconds
  obtain rfl := hnanos
  rfl

/-- Two numbers make up the instant that has them. -/
theorem of?_eq_some_iff : of? seconds nanos = some e ↔ e.seconds = seconds ∧ e.nanos = nanos := by
  unfold of?
  constructor
  · intro h
    split at h
    · obtain rfl := Option.some.inj h
      exact ⟨rfl, rfl⟩
    · cases h
  · rintro ⟨rfl, rfl⟩
    exact dif_pos e.valid

theorem civil_valid (d : Instant) : d.civil.Valid := Civil.ofDays_valid _

theorem secondOfDay_lt (d : Instant) : d.secondOfDay < 86400 := by
  unfold secondOfDay daySeconds
  omega

theorem seconds_eq (d : Instant) : d.seconds = d.civil.toDays * 86400 + d.secondOfDay := by
  rw [civil, Civil.toDays_ofDays, days, secondOfDay, daySeconds]
  omega

theorem inLeapSecond_iff (d : Instant) : d.inLeapSecond = true ↔ 1000000000 ≤ d.nanos := decide_eq_true_iff

/-- A leap second is the last one of its minute. -/
theorem secondOfDay_of_leap (d : Instant) (h : d.inLeapSecond = true) : d.secondOfDay % 60 = 59 := by
  obtain ⟨_, _, hnanos⟩ := d.valid
  have hseconds := d.seconds_eq
  rw [inLeapSecond_iff] at h
  omega

/-- The number of the month. -/
def monthNumber (d : Instant) : Int := d.civil.monthNumber

/-- Instants lie in the months of the first to the last year. -/
theorem monthNumber_bounds (d : Instant) : minYear * 12 ≤ d.monthNumber ∧ d.monthNumber < (maxYear + 1) * 12 := by
  obtain ⟨hmin, hmax, _⟩ := d.valid
  have hseconds := d.seconds_eq
  have hlt := d.secondOfDay_lt
  rw [minSeconds, ← monthStart_year, daySeconds] at hmin
  rw [maxSeconds, ← monthStart_year, daySeconds] at hmax
  refine ⟨(d.civil_valid.monthStart_le_iff _).1 (by omega), Int.not_le.1 fun hle => ?_⟩
  have := (d.civil_valid.monthStart_le_iff _).2 hle
  omega

/-- How far the instant lies in its month. There is room for a leap second in each second. -/
def placeInMonth (d : Instant) : Int := ((d.civil.day - 1 : Int) * 86400 + d.secondOfDay) * 2000000000 + d.nanos

theorem placeInMonth_eq_iff :
    d.placeInMonth = e.placeInMonth ↔ d.civil.day = e.civil.day ∧ d.secondOfDay = e.secondOfDay ∧ d.nanos = e.nanos := by
  have hd := d.secondOfDay_lt
  have he := e.secondOfDay_lt
  have hnanos := d.nanos_lt
  have hnanos' := e.nanos_lt
  unfold placeInMonth
  omega

/-- The instant at the time of day of another one on a day. -/
theorem onDay?_eq_some_iff {c : Civil} (hc : c.Valid) :
    d.onDay? c = some e ↔ e.civil = c ∧ e.secondOfDay = d.secondOfDay ∧ e.nanos = d.nanos := by
  have hlt := d.secondOfDay_lt
  have hlt' := e.secondOfDay_lt
  have hseconds := e.seconds_eq
  rw [onDay?, of?_eq_some_iff, daySeconds]
  constructor
  · rintro ⟨hshifted, hnanos⟩
    exact ⟨e.civil_valid.eq_of_toDays hc (by omega), by omega, hnanos⟩
  · rintro ⟨rfl, htime, hnanos⟩
    exact ⟨by omega, hnanos⟩

/-- The days of the months that have instants have all times of day. -/
theorem exists_onDay? (d : Instant) {c : Civil} (hc : c.Valid) (hmin : minYear * 12 ≤ c.monthNumber)
    (hmax : c.monthNumber < (maxYear + 1) * 12) : ∃ e, d.onDay? c = some e := by
  have hlt := d.secondOfDay_lt
  have hstart := (hc.monthStart_le_iff _).2 hmin
  have hstop : c.toDays < monthStart ((maxYear + 1) * 12) :=
    Int.not_le.1 fun hle => Int.not_le.2 hmax ((hc.monthStart_le_iff _).1 hle)
  rw [monthStart_year] at hstart hstop
  have hvalid : ValidParts (c.toDays * daySeconds + d.secondOfDay) d.nanos := by
    refine ⟨by unfold minSeconds daySeconds; omega, by unfold maxSeconds daySeconds; omega, ?_⟩
    have hnanos := d.nanos_lt
    by_cases hleap : d.inLeapSecond = true
    · have := d.secondOfDay_of_leap hleap
      exact .inr ⟨hnanos, by unfold daySeconds; omega⟩
    · rw [inLeapSecond_iff] at hleap
      exact .inl (by omega)
  exact ⟨⟨_, _, hvalid⟩, dif_pos hvalid⟩

/-! ## Months later -/

/-- An instant lies in a month so many later, at the same time of day. A day that the month lacks is its last. -/
structure IsMonthsLater (d : Instant) (months : Int) (e : Instant) : Prop where
  month : e.monthNumber = d.monthNumber + months
  day : e.civil.day = min d.civil.day (monthLength e.civil.year e.civil.month)
  secondOfDay : e.secondOfDay = d.secondOfDay
  nanos : e.nanos = d.nanos

/-- The day of a month with a number, or its last one if it is too short. -/
def dayOfMonth (number : Int) (day : Nat) : Civil := ⟨number / 12, (number % 12).toNat + 1, min day (lengthOfMonth number)⟩

theorem dayOfMonth_monthNumber (number : Int) (day : Nat) : (dayOfMonth number day).monthNumber = number := by
  simp only [dayOfMonth, Civil.monthNumber]
  omega

theorem dayOfMonth_valid (number : Int) {day : Nat} (hday : 1 ≤ day) : (dayOfMonth number day).Valid := by
  have hlength := lengthOfMonth_bounds number
  exact ⟨Nat.le_add_left 1 _, by simp only [dayOfMonth]; omega, Nat.le_min.2 ⟨hday, by omega⟩, Nat.min_le_right ..⟩

theorem addMonths?_eq (d : Instant) (months : Int) :
    d.addMonths? months =
      if minYear * 12 ≤ d.monthNumber + months ∧ d.monthNumber + months < (maxYear + 1) * 12 then
        d.onDay? (dayOfMonth (d.monthNumber + months) d.civil.day)
      else none := by
  refine if_congr ?_ rfl rfl
  unfold monthNumber Civil.monthNumber
  omega

theorem isMonthsLater_iff : d.IsMonthsLater months e ↔
    e.civil = dayOfMonth (d.monthNumber + months) d.civil.day ∧ e.secondOfDay = d.secondOfDay ∧ e.nanos = d.nanos := by
  have hlength := e.civil_valid.lengthOfMonth
  have hvalid := dayOfMonth_valid (d.monthNumber + months) d.civil_valid.day_bounds.1
  constructor
  · intro h
    have hmonth : e.civil.monthNumber = d.monthNumber + months := h.month
    have hday := h.day
    rw [← hlength, hmonth] at hday
    exact ⟨e.civil_valid.eq hvalid (hmonth.trans (dayOfMonth_monthNumber _ _).symm) hday, h.secondOfDay, h.nanos⟩
  · rintro ⟨hcivil, htime, hnanos⟩
    have hmonth : e.monthNumber = d.monthNumber + months := by rw [monthNumber, hcivil, dayOfMonth_monthNumber]
    refine ⟨hmonth, ?_, htime, hnanos⟩
    rw [← hlength]
    show e.civil.day = min d.civil.day (lengthOfMonth e.monthNumber)
    rw [hmonth, hcivil]
    rfl

/-- A shift by months leads to the instant that lies so much later. -/
theorem addMonths?_eq_some_iff : d.addMonths? months = some e ↔ d.IsMonthsLater months e := by
  have hvalid := dayOfMonth_valid (d.monthNumber + months) d.civil_valid.day_bounds.1
  rw [addMonths?_eq, isMonthsLater_iff, ← onDay?_eq_some_iff hvalid]
  split
  · exact Iff.rfl
  case isFalse hrange =>
    refine iff_of_false nofun fun h => hrange ?_
    obtain ⟨hcivil, -⟩ := (onDay?_eq_some_iff hvalid).1 h
    have hbounds := e.monthNumber_bounds
    rwa [monthNumber, hcivil, dayOfMonth_monthNumber] at hbounds

/-- There is an instant so many months later if its month is one that has instants. -/
theorem exists_isMonthsLater (hmin : minYear * 12 ≤ d.monthNumber + months) (hmax : d.monthNumber + months < (maxYear + 1) * 12) :
    ∃ e, d.IsMonthsLater months e := by
  have hvalid := dayOfMonth_valid (d.monthNumber + months) d.civil_valid.day_bounds.1
  rw [← dayOfMonth_monthNumber (d.monthNumber + months) d.civil.day] at hmin hmax
  obtain ⟨e, he⟩ := d.exists_onDay? hvalid hmin hmax
  exact ⟨e, isMonthsLater_iff.2 ((onDay?_eq_some_iff hvalid).1 he)⟩

theorem IsMonthsLater.natAbs_lt (h : d.IsMonthsLater months e) : months.natAbs < 2 ^ 53 := by
  have hmonth := h.month
  have hd := d.monthNumber_bounds
  have he := e.monthNumber_bounds
  unfold minYear maxYear at *
  omega

/-- A day that all months have is kept. -/
theorem isMonthsLater_of_day_le (hday : d.civil.day ≤ 28) :
    d.IsMonthsLater months e ↔ e.monthNumber = d.monthNumber + months ∧ e.placeInMonth = d.placeInMonth := by
  obtain ⟨hfirst, hlast, -, -⟩ := e.civil_valid
  have hkept : min d.civil.day (monthLength e.civil.year e.civil.month) = d.civil.day :=
    Nat.min_eq_left (Nat.le_trans hday (monthLength_bounds _ hfirst hlast).1)
  rw [placeInMonth_eq_iff]
  constructor
  · intro h
    exact ⟨h.month, h.day.trans hkept, h.secondOfDay, h.nanos⟩
  · rintro ⟨hmonth, hsame, htime, hnanos⟩
    exact ⟨hmonth, hsame.trans hkept.symm, htime, hnanos⟩

/-! ## Nanoseconds later -/

/-- The nanoseconds that pass from one instant to another. Those of a leap second pass before the next second starts. -/
def elapsed (d e : Instant) : Int :=
  (e.seconds - d.seconds + if d.inLeapSecond = true ∧ d.seconds < e.seconds then 1 else 0) * secondNanos + ((e.nanos : Int) - d.nanos)

/-- An instant lies so many nanoseconds later. It is in a leap second only if it is in the one that the other instant is in. -/
structure IsNanosLater (d : Instant) (delta : Int) (e : Instant) : Prop where
  elapsed : d.elapsed e = delta
  leap : e.inLeapSecond = true → d.inLeapSecond = true ∧ e.seconds = d.seconds

theorem isNanosLater_of_not_leap (hd : d.inLeapSecond = false) :
    d.IsNanosLater delta e ↔
      e.inLeapSecond = false ∧ e.seconds * secondNanos + e.nanos = d.seconds * secondNanos + d.nanos + delta := by
  have helapsed : d.elapsed e = (e.seconds - d.seconds) * secondNanos + ((e.nanos : Int) - d.nanos) := by
    rw [Instant.elapsed, if_neg (by simp [hd]), Int.add_zero]
  constructor
  · intro h
    have hdelta := h.elapsed
    rw [helapsed] at hdelta
    refine ⟨Bool.eq_false_iff.2 fun he => Bool.eq_false_iff.1 hd (h.leap he).1, ?_⟩
    unfold secondNanos at *
    omega
  · rintro ⟨he, hdelta⟩
    refine ⟨?_, fun h => absurd h (Bool.eq_false_iff.1 he)⟩
    rw [helapsed]
    unfold secondNanos at *
    omega

/-- Nanoseconds from 1970-01-01 lead to an instant outside leap seconds. -/
theorem of?_total_eq_some_iff {total : Int} :
    of? (total / secondNanos) (total % secondNanos).toNat = some e ↔
      e.inLeapSecond = false ∧ e.seconds * secondNanos + e.nanos = total := by
  rw [of?_eq_some_iff, Bool.eq_false_iff, Ne, inLeapSecond_iff, secondNanos]
  omega

theorem tdiv_secondNanos (n : Int) : n.tdiv secondNanos = if 0 ≤ n then n / secondNanos else -(-n / secondNanos) := by
  split
  case isTrue hn => exact Int.tdiv_eq_ediv_of_nonneg hn
  case isFalse hn => rw [← Int.tdiv_eq_ediv_of_nonneg (by omega), Int.neg_tdiv, Int.neg_neg]

/-- Within a leap second the way of a shift depends on whether it leaves the second, and in which direction. -/
theorem addNanos?_of_leap (hd : d.inLeapSecond = true) (delta : Int) :
    d.addNanos? delta =
      if 2 * secondNanos ≤ d.nanos + delta then
        of? ((d.seconds * secondNanos + (d.nanos - secondNanos) + delta) / secondNanos)
          ((d.seconds * secondNanos + (d.nanos - secondNanos) + delta) % secondNanos).toNat
      else if delta ≤ -secondNanos then
        of? (((d.seconds + 1) * secondNanos + (d.nanos - secondNanos) + delta) / secondNanos)
          (((d.seconds + 1) * secondNanos + (d.nanos - secondNanos) + delta) % secondNanos).toNat
      else of? d.seconds (d.nanos + delta).toNat := by
  have hnanos := d.inLeapSecond_iff.1 hd
  have hnanos' := d.nanos_lt
  have hrest := Int.mul_tdiv_add_tmod delta secondNanos
  have hwhole := tdiv_secondNanos delta
  rw [addNanos?, hd]
  generalize delta.tdiv secondNanos = whole at *
  generalize delta.tmod secondNanos = fraction at *
  have hforward : (0 < whole ∨ 0 < fraction ∧ 2 * secondNanos - fraction ≤ d.nanos) ↔ 2 * secondNanos ≤ d.nanos + delta := by
    unfold secondNanos at *
    split at hwhole <;> omega
  have hbackward : whole < 0 ↔ delta ≤ -secondNanos := by
    unfold secondNanos at *
    split at hwhole <;> omega
  have hwithin (hf : ¬2 * secondNanos ≤ d.nanos + delta) (hb : ¬delta ≤ -secondNanos) : fraction = delta := by
    unfold secondNanos at *
    split at hwhole <;> omega
  simp only [Bool.not_true, Bool.false_eq_true, if_false, hforward, hbackward]
  split
  · rfl
  case isFalse hf =>
    split
    · rfl
    case isFalse hb => rw [hwithin hf hb]

theorem isNanosLater_of_leap (hd : d.inLeapSecond = true) :
    d.IsNanosLater delta e ↔
      (1000000000 ≤ e.nanos → e.seconds = d.seconds) ∧
        (e.seconds - d.seconds + if d.seconds < e.seconds then 1 else 0) * secondNanos + ((e.nanos : Int) - d.nanos) = delta := by
  have helapsed : d.elapsed e =
      (e.seconds - d.seconds + if d.seconds < e.seconds then 1 else 0) * secondNanos + ((e.nanos : Int) - d.nanos) := by
    simp only [Instant.elapsed, hd, true_and]
  rw [← helapsed, ← inLeapSecond_iff]
  exact ⟨fun h => ⟨fun he => (h.leap he).2, h.elapsed⟩, fun ⟨hleap, hdelta⟩ => ⟨hdelta, fun he => ⟨hd, hleap he⟩⟩⟩

/-- A shift by nanoseconds leads to the instant that lies so much later. -/
theorem addNanos?_eq_some_iff : d.addNanos? delta = some e ↔ d.IsNanosLater delta e := by
  by_cases hd : d.inLeapSecond = true
  · have hnanos := d.inLeapSecond_iff.1 hd
    have hnanos' := d.nanos_lt
    have hlater := e.nanos_lt
    rw [addNanos?_of_leap hd, isNanosLater_of_leap hd]
    split
    · rw [of?_total_eq_some_iff, Bool.eq_false_iff, Ne, inLeapSecond_iff]
      unfold secondNanos at *
      split <;> omega
    · split
      · rw [of?_total_eq_some_iff, Bool.eq_false_iff, Ne, inLeapSecond_iff]
        unfold secondNanos at *
        split <;> omega
      · rw [of?_eq_some_iff]
        unfold secondNanos at *
        split <;> omega
  · rw [Bool.not_eq_true] at hd
    simp only [addNanos?]
    rw [if_pos (by simp [hd]), of?_total_eq_some_iff, isNanosLater_of_not_leap hd]

/-! ## Units later -/

/-- An instant lies so many units later. -/
def IsLater (d : Instant) (amount : Int) (unit : TimeUnit) (e : Instant) : Prop :=
  match unit.length with
  | .inl months => d.IsMonthsLater (amount * months) e
  | .inr nanos => d.IsNanosLater (amount * nanos) e

theorem isLater_of_months (h : unit.length = .inl months) : d.IsLater amount unit e ↔ d.IsMonthsLater (amount * months) e := by
  rw [IsLater, h]

theorem isLater_of_nanos {length : Int} (h : unit.length = .inr length) :
    d.IsLater amount unit e ↔ d.IsNanosLater (amount * length) e := by
  rw [IsLater, h]

/-- A shift leads to the instant that lies so much later. -/
theorem shift?_eq_some_iff : d.shift? amount unit = some e ↔ d.IsLater amount unit e := by
  unfold shift? IsLater
  cases unit.length with
  | inl months => exact addMonths?_eq_some_iff
  | inr nanos => exact addNanos?_eq_some_iff

/-- Where a shift leads nowhere, no instant lies so much later. -/
theorem shift?_eq_none_iff : d.shift? amount unit = none ↔ ∀ e, ¬d.IsLater amount unit e := by
  simp only [← shift?_eq_some_iff]
  exact Option.eq_none_iff_forall_ne_some

/-- An instant is no units later than itself. -/
theorem isLater_zero (d : Instant) (unit : TimeUnit) : d.IsLater 0 unit d := by
  cases hlength : unit.length with
  | inl months =>
    rw [isLater_of_months hlength, Int.zero_mul]
    exact ⟨(Int.add_zero _).symm, (Nat.min_eq_left d.civil_valid.2.2.2).symm, rfl, rfl⟩
  | inr nanos =>
    rw [isLater_of_nanos hlength, Int.zero_mul]
    refine ⟨?_, fun hleap => ⟨hleap, rfl⟩⟩
    rw [elapsed, if_neg (fun h => Int.lt_irrefl _ h.2)]
    omega

theorem elapsed_bounds (d e : Instant) : (d.elapsed e).natAbs < 20000000000000 * 1000000000 := by
  have hd := d.seconds_bounds
  have he := e.seconds_bounds
  have hnanos := d.nanos_lt
  have hnanos' := e.nanos_lt
  simp only [elapsed, secondNanos]
  split <;> omega

/-- Instants lie fewer units apart than a word has room for. -/
theorem IsLater.natAbs_lt (h : d.IsLater amount unit e) : amount.natAbs < 2 ^ 62 := by
  rcases unit.length_cases with ⟨-, months, hlength, hmonths⟩ | ⟨nanos, hlength, hnanos⟩
  · have hmonth := ((isLater_of_months hlength).1 h).natAbs_lt
    rcases hmonths with rfl | rfl <;> omega
  · have hbounds := d.elapsed_bounds e
    rw [((isLater_of_nanos hlength).1 h).elapsed, Int.natAbs_mul] at hbounds
    have := Nat.mul_le_mul_left amount.natAbs (show 1000000 ≤ nanos.natAbs by omega)
    omega

/-- Shifts add up, outside leap seconds and for days that all months have. -/
theorem IsLater.trans {n m : Int} {e' : Instant} (hd : d.inLeapSecond = false)
    (hday : (∃ nanos, unit.length = .inr nanos) ∨ d.civil.day ≤ 28) (h : d.IsLater n unit e) (h' : e.IsLater m unit e') :
    d.IsLater (n + m) unit e' := by
  cases hlength : unit.length with
  | inl months =>
    have hle : d.civil.day ≤ 28 := hday.resolve_left (by rw [hlength]; nofun)
    rw [isLater_of_months hlength, isMonthsLater_of_day_le hle] at *
    obtain ⟨hmonth, hplace⟩ := h
    have hle' : e.civil.day ≤ 28 := by rwa [(placeInMonth_eq_iff.1 hplace).1]
    obtain ⟨hmonth', hplace'⟩ := (isMonthsLater_of_day_le hle').1 h'
    refine ⟨?_, hplace'.trans hplace⟩
    rw [hmonth', hmonth, Int.add_mul]
    omega
  | inr nanos =>
    rw [isLater_of_nanos hlength, isNanosLater_of_not_leap hd] at *
    obtain ⟨he, hdelta⟩ := h
    obtain ⟨he', hdelta'⟩ := (isNanosLater_of_not_leap he).1 h'
    refine ⟨he', ?_⟩
    rw [hdelta', hdelta, Int.add_mul]
    omega

end Instant

end CellExpr.Calendar
