import CellExpr.Function.Standard
import CellExpr.Proofs.Calendar.Differences
import CellExpr.Proofs.Number.Negation
import CellExpr.Proofs.Value.Comparison

/-!
# Shifts and differences of dates

What `inc` and `diff` come to is told by the instants that lie so many units later (`call_inc`, `call_diff`). A difference is that of the
dates the other way round with the other sign, it does not get less as the first date gets later, and in months it is the number of
months that can be added without passing the other date (`differences_of_dates`). It undoes a shift, and shifts add up (`shifts_of_dates`).
-/

namespace CellExpr.DateFunctions

open CellExpr.Calendar CellExpr.Number

variable {now a b d e : Instant} {scope : Scope} {name : String} {unit : TimeUnit} {x : Float} {n k : Int}

/-- What `inc(date, amount, unit)` comes to. -/
def incValue (now : Instant) (scope : Scope) (d : Instant) (amount : Float) (name : String) : Value :=
  ((Registry.standard now).call "inc" [.date d, .number amount, .string name] scope).value

/-- What `diff(a, b, unit)` comes to. -/
def diffValue (now : Instant) (scope : Scope) (a b : Instant) (name : String) : Value :=
  ((Registry.standard now).call "diff" [.date a, .date b, .string name] scope).value

theorem call_diff (now : Instant) (scope : Scope) (hname : TimeUnit.ofName? name = some unit) (a b : Instant) :
    diffValue now scope a b name = .number (ofInt (a.unitsSince b unit)) := by
  have hcall : diffValue now scope a b name = (difference [.date a, .date b, .string name] scope).toTraced.value := rfl
  have hbody : difference [.date a, .date b, .string name] scope = do
      return .number (Number.ofInt (← unitsBetween a b name)) := rfl
  have hunits : unitsBetween a b name = .ok (a.unitsSince b unit) := by
    rw [unitsBetween, spanSince_eq, Outcome.ok_bind, hname]
    exact wholeUnits_eq a b unit
  rw [hcall, hbody, hunits]
  rfl

theorem call_inc (now : Instant) (scope : Scope) (hname : TimeUnit.ofName? name = some unit) (d : Instant) (x : Float) :
    incValue now scope d x name =
      match d.shift? (truncateToWord x) unit with
      | some e => .date e
      | none => .error Fault.dateOutOfRange.toError := by
  have hcall : incValue now scope d x name = (shift [.date d, .number x, .string name] scope).toTraced.value := rfl
  have hbody : shift [.date d, .number x, .string name] scope = do
      let unit ← .orFault (.unknownUnit name) (TimeUnit.ofName? name)
      return .date (← .orFault .dateOutOfRange (d.shift? (truncateToWord x) unit)) := rfl
  rw [hcall, hbody, hname]
  show Traced.value (Outcome.toTraced (do return .date (← .orFault .dateOutOfRange (d.shift? (truncateToWord x) unit)))) = _
  cases d.shift? (truncateToWord x) unit <;> rfl

theorem incValue_cases (now : Instant) (scope : Scope) (hname : TimeUnit.ofName? name = some unit) (d : Instant) (x : Float) :
    (∃ e, incValue now scope d x name = .date e ∧ d.IsLater (truncateToWord x) unit e) ∨
      incValue now scope d x name = .error Fault.dateOutOfRange.toError ∧ ∀ e, ¬d.IsLater (truncateToWord x) unit e := by
  rw [call_inc now scope hname, ← Instant.shift?_eq_none_iff]
  cases hshift : d.shift? (truncateToWord x) unit with
  | some e => exact .inl ⟨e, rfl, Instant.shift?_eq_some_iff.1 hshift⟩
  | none => exact .inr ⟨rfl, rfl⟩

/-- The whole number that truncation holds between the bounds is as good as the one before. -/
theorem isLater_truncateToWord_iff (hx : whole? x = some k) : d.IsLater (truncateToWord x) unit e ↔ d.IsLater k unit e := by
  have hmin : minWord = -2 ^ 63 := by decide
  have hmax : maxWord = 2 ^ 63 - 1 := by decide
  rw [truncateToWord_of_whole? hx]
  constructor
  · intro h
    have hbound := h.natAbs_lt
    rwa [show max minWord (min maxWord k) = k by omega] at h
  · intro h
    have hbound := h.natAbs_lt
    rwa [show max minWord (min maxWord k) = k by omega]

theorem incValue_eq_date_iff (hname : TimeUnit.ofName? name = some unit) (hx : whole? x = some k) :
    incValue now scope d x name = .date e ↔ d.IsLater k unit e := by
  rw [call_inc now scope hname, ← isLater_truncateToWord_iff hx, ← Instant.shift?_eq_some_iff]
  cases d.shift? (truncateToWord x) unit with
  | some e' => exact ⟨fun h => congrArg some (Value.date.inj h), fun h => congrArg Value.date (Option.some.inj h)⟩
  | none => exact iff_of_false nofun nofun

/-! ## Comparing -/

theorem le_dates_iff : BinaryOp.le.apply (.date a) (.date b) = .ok (.boolean true) ↔ a.position ≤ b.position := by
  have hle : BinaryOp.le.apply (.date a) (.date b) = .ok (.boolean (a.cmp b != .gt)) := rfl
  rw [hle, Instant.cmp_eq, ← Int.compare_ne_gt]
  simp

theorem lt_dates_iff : BinaryOp.lt.apply (.date a) (.date b) = .ok (.boolean true) ↔ a.position < b.position := by
  have hlt : BinaryOp.lt.apply (.date a) (.date b) = .ok (.boolean (a.cmp b == .lt)) := rfl
  rw [hlt, Instant.cmp_eq, ← Int.compare_eq_lt]
  simp

theorem ge_dates_iff : BinaryOp.ge.apply (.date a) (.date b) = .ok (.boolean true) ↔ b.position ≤ a.position := by
  have hge : BinaryOp.ge.apply (.date a) (.date b) = .ok (.boolean (a.cmp b != .lt)) := rfl
  rw [hge, Instant.cmp_eq, ← Int.compare_ne_lt]
  simp

theorem le_numbers (h : k ≤ n) (hk : k.natAbs < 2 ^ 53) (hn : n.natAbs < 2 ^ 53) :
    BinaryOp.le.apply (.number (ofInt k)) (.number (ofInt n)) = .ok (.boolean true) := by
  have hcompare := Value.compare_of_numbers (a := .number (ofInt k)) (b := .number (ofInt n)) rfl rfl
    (isNaN_of_whole? (isInteger_ofInt hk).whole?) (isNaN_of_whole? (isInteger_ofInt hn).whole?)
  have hle : BinaryOp.le.apply (.number (ofInt k)) (.number (ofInt n)) =
      ((Value.number (ofInt k)).compare (.number (ofInt n))).map fun o => .boolean (o != .gt) := rfl
  have horder : compare (rank (ofInt k)) (rank (ofInt n)) ≠ .gt := Int.compare_ne_gt.2 (rank_ofInt_mono h hk hn)
  rw [hle, hcompare]
  simpa [Except.map] using horder

/-! ## Differences -/

/-- A shift by a number that is `k` leads to a date that is not after another one, and a shift by one that is `k + 1` leads to a later one
or to none. -/
structure IsLastShift (now : Instant) (scope : Scope) (name : String) (start stop : Instant) (k : Int) (x : Float) : Prop where
  whole : IsInteger x k
  reached : BinaryOp.le.apply (incValue now scope start x name) (.date stop) = .ok (.boolean true)
  passed : ∀ y e, IsInteger y (k + 1) → incValue now scope start y name = .date e →
    BinaryOp.lt.apply (.date stop) (.date e) = .ok (.boolean true)

/-- A shift by months leads to the last date that is not after another one if it is by the whole months between them. -/
theorem isLastShift_iff (hname : TimeUnit.ofName? name = some .months) (hday : b.civil.day ≤ 28) (h : b.position ≤ a.position)
    (hk : 0 ≤ k) (hx : IsInteger x k) : IsLastShift now scope name b a k x ↔ a.monthsSince b = k := by
  have hmonths (j : Int) (e : Instant) : b.IsLater j .months e ↔ b.IsMonthsLater j e := by
    rw [Instant.isLater_of_months rfl, Int.mul_one]
  rw [Instant.monthsSince_eq_iff_between hday h hk]
  constructor
  · rintro ⟨-, hreached, hpassed⟩
    refine ⟨?_, fun e he => ?_⟩
    · rcases incValue_cases now scope hname b x with ⟨e, hvalue, -⟩ | ⟨hvalue, -⟩
      · rw [hvalue, le_dates_iff] at hreached
        rw [incValue_eq_date_iff hname hx.whole?, hmonths] at hvalue
        exact ⟨e, hvalue, hreached⟩
      · rw [hvalue] at hreached
        cases hreached
    · have hy := isInteger_ofInt he.natAbs_lt
      exact lt_dates_iff.1 (hpassed _ e hy ((incValue_eq_date_iff hname hy.whole?).2 ((hmonths _ e).2 he)))
  · rintro ⟨⟨e, he, hle⟩, hafter⟩
    refine ⟨hx, ?_, fun y e hy hvalue => ?_⟩
    · rw [(incValue_eq_date_iff hname hx.whole?).2 ((hmonths k e).2 he)]
      exact le_dates_iff.2 hle
    · rw [incValue_eq_date_iff hname hy.whole?, hmonths] at hvalue
      exact lt_dates_iff.2 (hafter e hvalue)

/-- A difference of dates is the negative of that of the dates the other way round. In years and months it does not get less as the first
date gets later. In months, from a day that all months have to a later date, it is the one number of months that can be added without
passing that date, while one more cannot. -/
theorem differences_of_dates (now : Instant) (scope : Scope) (hname : TimeUnit.ofName? name = some unit) (a b : Instant) :
    (∃ v, UnaryOp.minus.apply (diffValue now scope b a name) = .ok v ∧
      BinaryOp.eq.apply (diffValue now scope a b name) v = .ok (.boolean true)) ∧
    (unit = .years ∨ unit = .months → ∀ later, BinaryOp.le.apply (.date a) (.date later) = .ok (.boolean true) →
      BinaryOp.le.apply (diffValue now scope a b name) (diffValue now scope later b name) = .ok (.boolean true)) ∧
    (unit = .months → b.civil.day ≤ 28 → BinaryOp.ge.apply (.date a) (.date b) = .ok (.boolean true) →
      ∃ n : Nat, diffValue now scope a b name = .number (ofNat n) ∧ IsLastShift now scope name b a n (ofNat n) ∧
        ∀ k x, 0 ≤ k → IsLastShift now scope name b a k x → k = n) := by
  simp only [call_diff now scope hname]
  refine ⟨⟨_, rfl, ?_⟩, fun hunit later hle => ?_, ?_⟩
  · have hequal := ofInt_beq_neg (a.unitsSince b unit)
    rw [← Instant.unitsSince_comm] at hequal
    exact congrArg (fun t => Except.ok (Value.boolean t)) hequal
  · exact le_numbers (Instant.unitsSince_mono hunit (le_dates_iff.1 hle) b) (Instant.natAbs_unitsSince_lt hunit a b)
      (Instant.natAbs_unitsSince_lt hunit later b)
  · rintro rfl hday hge
    have hle := ge_dates_iff.1 hge
    have hmonths : a.unitsSince b .months = a.monthsSince b := (Instant.unitsSince_of_months rfl a b).trans (Int.tdiv_one _)
    obtain ⟨n, hn⟩ := Int.eq_ofNat_of_zero_le (Instant.monthsSince_nonneg hle)
    have hbound := a.natAbs_monthsSince_lt b
    rw [hn, Int.natAbs_natCast] at hbound
    refine ⟨n, ?_, ?_, fun k x hk hlast => ?_⟩
    · rw [hmonths, hn]
      rfl
    · exact (isLastShift_iff hname hday hle (Int.natCast_nonneg n) (isInteger_ofNat hbound)).2 hn
    · exact ((isLastShift_iff hname hday hle hk hlast.whole).1 hlast).symm.trans hn

/-- A month has passed from noon of 28 January to the morning of 29 February, and no fewer to noon of 28 March. -/
theorem differences_of_dates_leap_day :
    let now : Instant := ⟨0, 0, by decide⟩
    let january : Instant := ⟨1706443200, 0, by decide⟩
    let february : Instant := ⟨1709204400, 0, by decide⟩
    let march : Instant := ⟨1711627200, 0, by decide⟩
    (TimeUnit.ofName? "months" = some .months ∧ january.civil.day ≤ 28 ∧
      BinaryOp.ge.apply (.date february) (.date january) = .ok (.boolean true) ∧
      BinaryOp.le.apply (.date february) (.date march) = .ok (.boolean true)) ∧
    (∃ v, UnaryOp.minus.apply (diffValue now [] january february "months") = .ok v ∧
      BinaryOp.eq.apply (diffValue now [] february january "months") v = .ok (.boolean true)) ∧
    BinaryOp.le.apply (diffValue now [] february january "months") (diffValue now [] march january "months") = .ok (.boolean true) ∧
    diffValue now [] february january "months" = .number 1 ∧ IsLastShift now [] "months" january february 1 1 := by
  intro now january february march
  have hname : TimeUnit.ofName? "months" = some .months := by decide
  have hday : january.civil.day ≤ 28 := by decide
  have hge : BinaryOp.ge.apply (.date february) (.date january) = .ok (.boolean true) := rfl
  have hle : BinaryOp.le.apply (.date february) (.date march) = .ok (.boolean true) := rfl
  obtain ⟨hneg, hmono, hlast⟩ := differences_of_dates now [] hname february january
  obtain ⟨n, hvalue, hshift, -⟩ := hlast rfl hday hge
  have hone : february.monthsSince january = 1 := by decide
  obtain rfl : n = 1 := by
    have := (isLastShift_iff hname hday (ge_dates_iff.1 hge) (Int.natCast_nonneg n) hshift.whole).1 hshift
    omega
  exact ⟨⟨hname, hday, hge, hle⟩, hneg, hmono (.inr rfl) march hle, hvalue, hshift⟩

/-! ## Shifts -/

/-- A shift by no number at all leads nowhere else, and one by an infinity nowhere. -/
theorem incValue_of_not_finite (now : Instant) (scope : Scope) (hname : TimeUnit.ofName? name = some unit) (d : Instant)
    (hx : whole? x = none) :
    incValue now scope d x name = if x.isNaN then .date d else .error Fault.dateOutOfRange.toError := by
  have hmin : minWord = -2 ^ 63 := by decide
  have hmax : maxWord = 2 ^ 63 - 1 := by decide
  rcases truncateToWord_cases x with ⟨n, hn, -⟩ | ⟨-, ⟨hnan, hzero⟩ | ⟨hnumber, hbound⟩⟩
  · rw [hx] at hn
    cases hn
  · rw [if_pos hnan, call_inc now scope hname, hzero, Instant.shift?_eq_some_iff.2 (d.isLater_zero unit)]
  · rw [hnumber, if_neg Bool.false_ne_true]
    rcases incValue_cases now scope hname d x with ⟨e, -, he⟩ | ⟨hvalue, -⟩
    · have := he.natAbs_lt
      omega
    · exact hvalue

/-- Outside a leap second a shift of a date is undone by the difference, and two shifts add up, in units of a fixed length and for days that
all months have. Any shift by a finite number leads to the date that lies so many whole units later, or to an error if there is none: in
months and years to the same time of day, on the last day of the month if it lacks the day. -/
theorem shifts_of_dates (now : Instant) (scope : Scope) (hname : TimeUnit.ofName? name = some unit) (d : Instant) :
    (d.inLeapSecond = false → ¬(unit = .years ∨ unit = .months) ∨ d.civil.day ≤ 28 →
      ∀ (n m : Int) (x y z : Float), n.natAbs < 2 ^ 52 → IsInteger x n → IsInteger y m → IsInteger z (n + m) →
        ∀ e, incValue now scope d x name = .date e →
          (∃ v, diffValue now scope e d name = .number v ∧ IsInteger v n) ∧
            ∀ e', incValue now scope e y name = .date e' → incValue now scope d z name = .date e') ∧
    (∀ (x : Float) (k : Int), whole? x = some k →
      (∃ e, incValue now scope d x name = .date e ∧ d.IsLater k unit e) ∨
        incValue now scope d x name = .error { kind := .semantic, message := "date out of range" } ∧ ∀ e, ¬d.IsLater k unit e) ∧
    ∀ x : Float, whole? x = none → incValue now scope d x name =
      if x.isNaN then .date d else .error { kind := .semantic, message := "date out of range" } := by
  refine ⟨fun hleap hday n m x y z hn hx hy hz e he => ?_, fun x k hx => ?_, fun x hx => incValue_of_not_finite now scope hname d hx⟩
  · have hday' : (∃ nanos, unit.length = .inr nanos) ∨ d.civil.day ≤ 28 := by
      refine hday.imp_left fun hunit => ?_
      rcases unit.length_cases with ⟨hmonths, -⟩ | ⟨nanos, hlength, -⟩
      · exact absurd hmonths hunit
      · exact ⟨nanos, hlength⟩
    rw [incValue_eq_date_iff hname hx.whole?] at he
    refine ⟨⟨_, call_diff now scope hname e d, ?_⟩, fun e' he' => ?_⟩
    · rw [Instant.unitsSince_of_isLater hleap hday' he]
      exact isInteger_ofInt (by omega)
    · rw [incValue_eq_date_iff hname hy.whole?] at he'
      exact (incValue_eq_date_iff hname hz.whole?).2 (he.trans hleap hday' he')
  · rcases incValue_cases now scope hname d x with ⟨e, hvalue, he⟩ | ⟨hvalue, hnone⟩
    · exact .inl ⟨e, hvalue, (isLater_truncateToWord_iff hx).1 he⟩
    · exact .inr ⟨hvalue, fun e he => hnone e ((isLater_truncateToWord_iff hx).2 he)⟩

/-- Fourteen months after the last second of 28 December 2023 is that of 28 February 2025, and twelve months back from there that of
28 February 2024, which two months lead to as well. -/
theorem shifts_of_dates_february :
    let now : Instant := ⟨0, 0, by decide⟩
    let december : Instant := ⟨1703807999, 0, by decide⟩
    let february : Instant := ⟨1740787199, 0, by decide⟩
    let earlier : Instant := ⟨1709164799, 0, by decide⟩
    (TimeUnit.ofName? "months" = some .months ∧ december.inLeapSecond = false ∧ december.civil.day ≤ 28 ∧
      (14 : Int).natAbs < 2 ^ 52 ∧ IsInteger 14 14 ∧ IsInteger (-12) (-12) ∧ IsInteger 2 (14 + -12) ∧ whole? 14 = some 14 ∧
      whole? notANumber = none ∧ incValue now [] december 14 "months" = .date february ∧
      incValue now [] february (-12) "months" = .date earlier) ∧
    (∃ v, diffValue now [] february december "months" = .number v ∧ IsInteger v 14) ∧
    incValue now [] december 2 "months" = .date earlier ∧
    (∃ e, incValue now [] december 14 "months" = .date e ∧ december.IsLater 14 .months e) ∧
    incValue now [] december notANumber "months" = .date december := by
  intro now december february earlier
  have hname : TimeUnit.ofName? "months" = some .months := by decide
  have hleap : december.inLeapSecond = false := by decide
  have hday : december.civil.day ≤ 28 := by decide
  have hbound : (14 : Int).natAbs < 2 ^ 52 := by decide
  have hx : IsInteger 14 14 := by decide +kernel
  have hy : IsInteger (-12) (-12) := by decide +kernel
  have hz : IsInteger 2 (14 + -12) := by decide +kernel
  have hnan : whole? notANumber = none := by decide +kernel
  have hinc : incValue now [] december 14 "months" = .date february :=
    (incValue_eq_date_iff hname hx.whole?).2 (Instant.shift?_eq_some_iff.1 (by decide))
  have hback : incValue now [] february (-12) "months" = .date earlier :=
    (incValue_eq_date_iff hname hy.whole?).2 (Instant.shift?_eq_some_iff.1 (by decide))
  obtain ⟨hlaws, hshift, hother⟩ := shifts_of_dates now [] hname december
  obtain ⟨hundone, hsum⟩ := hlaws hleap (.inr hday) 14 (-12) 14 (-12) 2 hbound hx hy hz february hinc
  refine ⟨⟨hname, hleap, hday, hbound, hx, hy, hz, hx.whole?, hnan, hinc, hback⟩, hundone, hsum earlier hback, ?_, hother _ hnan⟩
  rcases hshift 14 14 hx.whole? with hdate | ⟨herror, -⟩
  · exact hdate
  · rw [hinc] at herror
    cases herror

end CellExpr.DateFunctions
