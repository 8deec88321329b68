import CellExpr.Calendar.Reading
import CellExpr.Calendar.Writing
import CellExpr.Proofs.Calendar.Shifts
import CellExpr.Proofs.Number.Shortest
import CellExpr.Proofs.Text.Words
import Mathlib.Data.List.TakeWhile

/-!
# Written dates

Numbers that are filled with zeros are read back digit by digit (`readNumber?_filledNumber`), and so is the text that an instant has
without a layout (`Instant.IsPlain.read?_format`). What is read in the internet format has many digits (`exists_of_readInternet?`), which texts in
shorter layouts have not.
-/

namespace CellExpr.Calendar

open CellExpr.Text CellExpr.Number

variable {c : Char} {s rest : List Char} {n least width : Nat} {d : Instant}

/-! ## Filled numbers -/

theorem isBlank_of_isDigit (h : isDigit c = true) : isBlank c = false := isBlank_of_isNamePart (isNamePart_of_isDigit h)

theorem isDigit_of_mem_filledNumber (h : c ∈ filledNumber width n) : isDigit c = true := by
  rcases List.mem_append.1 h with h | h
  · obtain rfl := List.eq_of_mem_replicate h
    rfl
  · exact isDigit_of_mem_digitsText h

theorem length_filledNumber (hwidth : 0 < width) (h : n < 10 ^ width) : (filledNumber width n).length = width := by
  have hdigits := (Nat.length_toDigits_le_iff (by decide) hwidth).2 h
  rw [filledNumber, List.length_append, List.length_replicate]
  omega

theorem digitsValue_filledNumber (width n : Nat) : digitsValue (filledNumber width n) = n :=
  (digitsValue_zeros_append _ _).trans (Json.digitsValue_digitsText n)

/-- A number that fills all digits that are read is read back, whatever follows it. -/
theorem readNumber?_filledNumber (hwidth : 0 < width) (h : n < 10 ^ width) (hleast : least ≤ width) (rest : List Char) :
    readNumber? least width (filledNumber width n ++ rest) = some (n, rest) := by
  have hlength := length_filledNumber hwidth h
  have hdigits : ((filledNumber width n ++ rest).take width).takeWhile isDigit = filledNumber width n := by
    rw [List.take_left' hlength]
    exact List.takeWhile_eq_self_iff.2 fun _ => isDigit_of_mem_filledNumber
  unfold readNumber?
  rw [hdigits]
  dsimp only
  rw [hlength, if_neg (Nat.not_lt.2 hleast), digitsValue_filledNumber, List.drop_left' hlength]

/-! ## The text without a layout -/

namespace Instant

theorem month_bounds (d : Instant) : 1 ≤ d.civil.month ∧ d.civil.month ≤ 12 := ⟨d.civil_valid.1, d.civil_valid.2.1⟩

theorem day_bounds (d : Instant) : 1 ≤ d.civil.day ∧ d.civil.day ≤ 31 := by
  have := d.civil_valid.day_bounds
  have := lengthOfMonth_bounds d.civil.monthNumber
  omega

theorem year_bounds (d : Instant) : minYear ≤ d.civil.year ∧ d.civil.year ≤ maxYear := by
  have := d.monthNumber_bounds
  have := d.civil_valid.year_eq
  unfold monthNumber at *
  omega

theorem hour_lt (d : Instant) : d.hour < 24 := by
  have := d.secondOfDay_lt
  unfold hour
  omega

theorem minute_lt (d : Instant) : d.minute < 60 := Nat.mod_lt _ (by decide)

theorem second_lt (d : Instant) : d.second < 60 := Nat.mod_lt _ (by decide)

theorem secondOfDay_eq (d : Instant) : d.secondOfDay = d.hour * 3600 + d.minute * 60 + d.second := by
  unfold hour minute second
  omega

theorem shownSecond_eq (h : d.nanos = 0) : d.shownSecond = d.second := by rw [shownSecond, h, Nat.zero_div, Nat.add_zero]

theorem yearText_eq {year : Int} (h : 0 ≤ year ∧ year ≤ 9999) : yearText year = filledNumber 4 year.toNat := if_pos h

/-- An instant in full seconds, in one of the years 0 to 9999. -/
structure IsPlain (d : Instant) : Prop where
  nanos : d.nanos = 0
  year : 0 ≤ d.civil.year ∧ d.civil.year ≤ 9999

theorem IsPlain.format_plainLayout (h : d.IsPlain) :
    d.format plainLayout = filledNumber 4 d.civil.year.toNat ++ '-' :: (filledNumber 2 d.civil.month ++ '-' :: (filledNumber 2 d.civil.day ++
      'T' :: (filledNumber 2 d.hour ++ ':' :: (filledNumber 2 d.minute ++ ':' :: (filledNumber 2 d.second ++ ['Z']))))) := by
  rw [← yearText_eq h.year, ← shownSecond_eq h.nanos]
  simp only [format, plainLayout, List.flatMap_cons, List.flatMap_nil, pieceText, fieldText, twoDigits]
  rfl

end Instant

/-! ## Instants put together -/

/-- Every second of the day of an instant is an instant. -/
theorem Instant.exists_of? (d : Instant) {second : Nat} (h : second < 86400) :
    ∃ e, Instant.of? (d.civil.toDays * daySeconds + second - 0) 0 = some e ∧
      e.civil = d.civil ∧ e.secondOfDay = second ∧ e.nanos = 0 := by
  have hseconds := d.seconds_eq
  have hbounds := d.seconds_bounds
  have hlt := d.secondOfDay_lt
  have hmin : minSeconds = -8334601228800 := by decide
  have hmax : maxSeconds = 8210266876799 := by decide
  have hvalid : ValidParts (d.civil.toDays * daySeconds + second - 0) 0 :=
    ⟨by unfold daySeconds; omega, by unfold daySeconds; omega, .inl (by decide)⟩
  obtain ⟨e, he⟩ : ∃ e, Instant.of? (d.civil.toDays * daySeconds + second - 0) 0 = some e := ⟨_, dif_pos hvalid⟩
  obtain ⟨hstart, hnanos⟩ := Instant.of?_eq_some_iff.1 he
  have hseconds' := e.seconds_eq
  have hlt' := e.secondOfDay_lt
  unfold daySeconds at hstart
  exact ⟨e, he, e.civil_valid.eq_of_toDays d.civil_valid (by omega), by omega, hnanos⟩

namespace Parts

variable {p : Parts} {hour minute second : Nat}

theorem date?_eq {c : Civil} (hc : c.Valid) (hbounds : minYear ≤ c.year ∧ c.year ≤ maxYear) (hyear : p.year = some c.year)
    (hmonth : p.month = some c.month) (hday : p.day = some c.day)
    (hrest : p.yearOfCentury = none ∧ p.dayOfYear = none ∧ p.weekday = none) : p.date? = some c := by
  obtain ⟨hshort, hordinal, hweekday⟩ := hrest
  have hfull : p.fullYear? = some c.year := by rw [fullYear?, hyear, hshort]
  rw [date?, hfull, hmonth, hday, hordinal, hweekday]
  exact if_pos ⟨hc, ⟨rfl, rfl, rfl, rfl⟩, hbounds⟩

theorem time?_eq (hafternoon : p.afternoon = some (decide (12 ≤ hour))) (hhour : p.hour = some (hour % 12)) (hlt : hour < 24)
    (hminute : p.minute = some minute) (hsecond : p.second.getD 0 = second) (hlt' : second < 60)
    (hnanos : p.nanos = none ∨ p.second.isSome = true ∧ p.nanos = some 0) :
    p.time? = some (hour * 3600 + minute * 60 + second, 0) := by
  have hgiven : ¬(p.second.isNone = true ∧ p.nanos.isSome = true) := by
    rintro ⟨hnone, hsome⟩
    rcases hnanos with hnanos | ⟨hgiven, -⟩
    · simp [hnanos] at hsome
    · simp [Option.isNone_iff_eq_none.1 hnone] at hgiven
  have hzero : p.nanos.getD 0 = 0 := by rcases hnanos with hnanos | ⟨-, hnanos⟩ <;> rw [hnanos] <;> rfl
  have hhalves : (if 12 ≤ hour then 12 else 0) + hour % 12 = hour := by split <;> omega
  rw [time?, hafternoon, hhour, hminute]
  simp only [Option.bind_eq_bind, Option.bind_some, if_neg hgiven, hsecond, hzero, decide_eq_true_eq, hhalves,
    if_neg (show second ≠ 60 by omega), Nat.min_eq_left (show second ≤ 59 by omega)]

/-- A full hour gives a half of the day and the hour in it. -/
theorem setHour?_eq (hafternoon : p.afternoon = none ∨ p.afternoon = some (decide (12 ≤ hour)))
    (hhour : p.hour = none ∨ p.hour = some (hour % 12)) (hlt : hour < 24) :
    p.setHour? hour = some { p with afternoon := some (decide (12 ≤ hour)), hour := some (hour % 12) } := by
  have hwithin : within? 0 23 hour = some hour := if_pos (by omega)
  rcases hafternoon with hafternoon | hafternoon <;> rcases hhour with hhour | hhour <;>
    simp [setHour?, agreed?, hafternoon, hhour, hwithin]

end Parts

/-! ## The internet format -/

/-- Three numbers with a character between them, of which the second and the third have two digits. -/
def readThree? (width : Nat) (c : Char) (s : List Char) : Option ((Nat × Nat × Nat) × List Char) := do
  let (first, s) ← readNumber? width width s
  let (second, s) ← readNumber? 2 2 (← dropChar? c s)
  let (third, s) ← readNumber? 2 2 (← dropChar? c s)
  some ((first, second, third), s)

/-- What follows the mark between a date and a time. -/
def dropTimeMark? : List Char → Option (List Char)
  | c :: rest => if c = 'T' ∨ c = 't' ∨ c = ' ' then some rest else none
  | [] => none

/-- The nanoseconds of a fraction of a second, if there is one. -/
def readNanos? : List Char → Option (Nat × List Char)
  | '.' :: rest => readFraction? rest
  | s => some (0, s)

/-- An offset, of which a `Z` is none. -/
def readZone? : List Char → Option (Int × List Char)
  | 'Z' :: rest => some (0, rest)
  | 'z' :: rest => some (0, rest)
  | s => readOffset? (dropChar? ':') s

theorem readThree?_bind {β : Type} (k : (Nat × Nat × Nat) × List Char → Option β) (width : Nat) (c : Char) (s : List Char) :
    (readThree? width c s).bind k = (do
      let (first, s) ← readNumber? width width s
      let (second, s) ← readNumber? 2 2 (← dropChar? c s)
      let (third, s) ← readNumber? 2 2 (← dropChar? c s)
      k ((first, second, third), s)) := by
  simp only [readThree?, Option.bind_eq_bind, Option.bind_assoc, Option.bind_some]

theorem readNanos?_bind {β : Type} (k : Nat × List Char → Option β) (s : List Char) :
    (readNanos? s).bind k = match s with
      | '.' :: rest => (readFraction? rest).bind k
      | _ => (some (0, s)).bind k := by
  unfold readNanos?
  split <;> rfl

theorem readZone?_bind {β : Type} (k : Int × List Char → Option β) (s : List Char) :
    (readZone? s).bind k = match s with
      | 'Z' :: rest => (some (0, rest)).bind k
      | 'z' :: rest => (some (0, rest)).bind k
      | _ => (readOffset? (dropChar? ':') s).bind k := by
  unfold readZone?
  split <;> rfl

/-- The instant of fields that are all given. -/
def instantOf? (year month day hour minute second nanos : Nat) (offset : Int) : Option Instant := do
  let parts : Parts := { year := some (year : Int), month := ← within? 1 12 month, day := ← within? 1 31 day }
  let parts ← parts.setHour? hour
  let parts : Parts :=
    { parts with minute := ← within? 0 59 minute, second := ← within? 0 60 second, nanos := some nanos }
  parts.at? offset

/-- The internet format is read by one reader after the other. -/
theorem readInternet?_eq (s : List Char) : readInternet? s = (do
    let ((year, month, day), s) ← readThree? 4 '-' s
    let ((hour, minute, second), s) ← readThree? 2 ':' (← dropTimeMark? s)
    let (nanos, s) ← readNanos? s
    let (offset, s) ← readZone? s
    if s.isEmpty ∧ offset.natAbs ≤ 86340 then instantOf? year month day hour minute second nanos offset else none) := by
  rw [Option.bind_eq_bind, readThree?_bind]
  refine Option.bind_congr fun ⟨year, s⟩ _ => ?_
  refine Option.bind_congr fun s _ => ?_
  refine Option.bind_congr fun ⟨month, s⟩ _ => ?_
  refine Option.bind_congr fun s _ => ?_
  refine Option.bind_congr fun ⟨day, s⟩ _ => ?_
  rcases s with _ | ⟨c, s⟩
  · rfl
  by_cases hc : c = 'T' ∨ c = 't' ∨ c = ' '
  · simp only [dropTimeMark?, if_pos hc]
    refine Option.bind_congr fun s _ => ?_
    rw [Option.bind_eq_bind, readThree?_bind]
    refine Option.bind_congr fun ⟨hour, s⟩ _ => ?_
    refine Option.bind_congr fun s _ => ?_
    refine Option.bind_congr fun ⟨minute, s⟩ _ => ?_
    refine Option.bind_congr fun s _ => ?_
    refine Option.bind_congr fun ⟨second, s⟩ _ => ?_
    simp only [Option.bind_eq_bind, readNanos?_bind, readZone?_bind]
    rfl
  · simp only [dropTimeMark?, if_neg hc]
    rfl

/-- Fields in their ranges are put together. -/
theorem instantOf?_eq {c : Civil} (hc : c.Valid) (hyear : 0 ≤ c.year ∧ c.year ≤ maxYear) (hday : c.day ≤ 31) {hour minute second : Nat}
    (hhour : hour < 24) (hminute : minute < 60) (hsecond : second < 60) :
    instantOf? c.year.toNat c.month c.day hour minute second 0 0 =
      Instant.of? (c.toDays * daySeconds + (hour * 3600 + minute * 60 + second : Nat) - 0) 0 := by
  have hbounds : minYear ≤ c.year := Int.le_trans (by decide) hyear.1
  have hwithin {low high n : Nat} (h : low ≤ n ∧ n ≤ high) : within? low high n = some n := if_pos h
  rw [instantOf?, hwithin ⟨hc.1, hc.2.1⟩, hwithin ⟨hc.2.2.1, hday⟩, hwithin (by omega), hwithin (by omega)]
  simp only [Option.bind_eq_bind, Option.bind_some]
  rw [Parts.setHour?_eq (.inl rfl) (.inl rfl) hhour, Option.bind_some, Parts.at?,
    Parts.date?_eq hc ⟨hbounds, hyear.2⟩ (congrArg some (Int.toNat_of_nonneg hyear.1)) rfl rfl ⟨rfl, rfl, rfl⟩,
    Parts.time?_eq rfl rfl hhour rfl (show _ = second from rfl) hsecond (.inr ⟨rfl, rfl⟩)]
  rfl

theorem dropChar?_cons (c : Char) (rest : List Char) : dropChar? c (c :: rest) = some rest := if_pos rfl

theorem readThree?_filledNumbers {first second third : Nat} (hwidth : 0 < width) (hfirst : first < 10 ^ width) (hsecond : second < 10 ^ 2)
    (hthird : third < 10 ^ 2) (c : Char) (rest : List Char) :
    readThree? width c (filledNumber width first ++ c :: (filledNumber 2 second ++ c :: (filledNumber 2 third ++ rest))) =
      some ((first, second, third), rest) := by
  have htwo {n : Nat} (hn : n < 10 ^ 2) (rest : List Char) : readNumber? 2 2 (filledNumber 2 n ++ rest) = some (n, rest) :=
    readNumber?_filledNumber Nat.two_pos hn (Nat.le_refl 2) rest
  rw [readThree?, readNumber?_filledNumber hwidth hfirst (Nat.le_refl width)]
  simp only [Option.bind_eq_bind, Option.bind_some, dropChar?_cons, htwo hsecond, htwo hthird]

/-- A text in the internet format is read back. -/
theorem readInternet?_filledNumbers {year month day hour minute second : Nat} (hyear : year < 10 ^ 4) (hmonth : month < 10 ^ 2)
    (hday : day < 10 ^ 2) (hhour : hour < 10 ^ 2) (hminute : minute < 10 ^ 2) (hsecond : second < 10 ^ 2) :
    readInternet? (filledNumber 4 year ++ '-' :: (filledNumber 2 month ++ '-' :: (filledNumber 2 day ++
      'T' :: (filledNumber 2 hour ++ ':' :: (filledNumber 2 minute ++ ':' :: (filledNumber 2 second ++ ['Z'])))))) =
    instantOf? year month day hour minute second 0 0 := by
  have hdate := readThree?_filledNumbers (by decide) hyear hmonth hday '-'
  have htime := readThree?_filledNumbers (by decide) hhour hminute hsecond ':'
  have hmark (rest : List Char) : dropTimeMark? ('T' :: rest) = some rest := rfl
  have hnanos : readNanos? ['Z'] = some (0, ['Z']) := rfl
  have hzone : readZone? ['Z'] = some (0, []) := rfl
  rw [readInternet?_eq, hdate]
  simp only [Option.bind_eq_bind, Option.bind_some, hmark, htime, hnanos, hzone]
  exact if_pos (by decide)

/-- The text without a layout is read back in the internet format. -/
theorem readInternet?_format (h : d.IsPlain) :
    readInternet? (d.format Instant.plainLayout) = some d := by
  have hyear := h.year
  have hmonth := d.month_bounds
  have hday := d.day_bounds
  have hhour := d.hour_lt
  have hminute := d.minute_lt
  have hsecond := d.second_lt
  rw [h.format_plainLayout, readInternet?_filledNumbers (by omega) (by omega) (by omega) (by omega) (by omega) (by omega),
    instantOf?_eq d.civil_valid ⟨hyear.1, d.year_bounds.2⟩ hday.2 hhour hminute hsecond, ← d.secondOfDay_eq, Instant.of?_eq_some_iff,
    Int.sub_zero]
  exact ⟨d.seconds_eq, h.nanos⟩

theorem exists_cons_filledNumber (width n : Nat) : ∃ c rest, filledNumber width n = c :: rest ∧ isDigit c = true := by
  have hne : filledNumber width n ≠ [] := List.append_ne_nil_of_right_ne_nil _ Nat.toDigits_ne_nil
  obtain ⟨c, rest, heq⟩ := List.exists_cons_of_ne_nil hne
  exact ⟨c, rest, heq, isDigit_of_mem_filledNumber (heq ▸ List.mem_cons_self)⟩

/-- The text without a layout is read back whatever layouts there are. -/
theorem Instant.IsPlain.read?_format (h : d.IsPlain) (layouts : List Layout) :
    Instant.read? (d.format plainLayout) layouts = some d := by
  have htrim : trim (d.format plainLayout) = d.format plainLayout := by
    obtain ⟨c, rest, heq, hc⟩ := exists_cons_filledNumber 4 d.civil.year.toNat
    rw [h.format_plainLayout, heq]
    refine trim_eq_self ?_ ?_
    · rintro _ ⟨⟩
      exact isBlank_of_isDigit hc
    · intro c hc
      have hlast : some 'Z' = some c := by simpa [List.getLast?_append, List.getLast?_cons] using hc
      obtain rfl := Option.some.inj hlast
      decide
  rw [Instant.read?]
  simp only [htrim, readInternet?_format h, Option.some_or]

/-! ## Digits of the internet format -/

/-- The rest is an end of the text, and before it there are at least so many digits. -/
def HasMoreDigits (k : Nat) (s rest : List Char) : Prop := rest <:+ s ∧ k + rest.countP isDigit ≤ s.countP isDigit

variable {k l : Nat} {t : List Char}

theorem HasMoreDigits.trans (h : HasMoreDigits k s t) (h' : HasMoreDigits l t rest) : HasMoreDigits (k + l) s rest := by
  obtain ⟨hsuffix, hcount⟩ := h
  obtain ⟨hsuffix', hcount'⟩ := h'
  exact ⟨hsuffix'.trans hsuffix, by omega⟩

theorem hasMoreDigits_drop {digits : List Char} (hdigits : ∀ c ∈ digits, isDigit c = true) (h : digits <+: s) (hk : k ≤ digits.length) :
    HasMoreDigits k s (s.drop digits.length) := by
  refine ⟨List.drop_suffix _ _, ?_⟩
  obtain ⟨t, rfl⟩ := h
  rw [List.drop_left, List.countP_append, List.countP_eq_length.2 hdigits]
  omega

theorem hasMoreDigits_tail (c : Char) (s : List Char) : HasMoreDigits 0 (c :: s) s := by
  refine ⟨List.suffix_cons c s, ?_⟩
  rw [List.countP_cons]
  omega

theorem hasMoreDigits_of_readNumber? {most : Nat} (h : readNumber? least most s = some (n, rest)) : HasMoreDigits least s rest := by
  unfold readNumber? at h
  dsimp only at h
  split at h
  case isTrue => cases h
  case isFalse hleast =>
    obtain ⟨-, rfl⟩ := Prod.mk.inj (Option.some.inj h)
    exact hasMoreDigits_drop (fun _ hc => List.mem_takeWhile_imp hc) ((List.takeWhile_prefix _).trans (List.take_prefix _ _))
      (Nat.not_lt.1 hleast)

theorem hasMoreDigits_of_readFraction? (h : readFraction? s = some (n, rest)) : HasMoreDigits 0 s rest := by
  unfold readFraction? at h
  dsimp only at h
  split at h
  · cases h
  · obtain ⟨-, rfl⟩ := Prod.mk.inj (Option.some.inj h)
    exact hasMoreDigits_drop (fun _ hc => List.mem_takeWhile_imp hc) (List.takeWhile_prefix _) (Nat.zero_le _)

theorem hasMoreDigits_of_dropChar? (h : dropChar? c s = some rest) : HasMoreDigits 0 s rest := by
  cases s with
  | nil => cases h
  | cons d s =>
    rw [dropChar?] at h
    split at h
    · obtain rfl := Option.some.inj h
      exact hasMoreDigits_tail d s
    · cases h

theorem hasMoreDigits_of_dropTimeMark? (h : dropTimeMark? s = some rest) : HasMoreDigits 0 s rest := by
  cases s with
  | nil => cases h
  | cons d s =>
    rw [dropTimeMark?] at h
    split at h
    · obtain rfl := Option.some.inj h
      exact hasMoreDigits_tail d s
    · cases h

theorem hasMoreDigits_of_readThree? {numbers : Nat × Nat × Nat} (h : readThree? width c s = some (numbers, rest)) :
    HasMoreDigits (width + 4) s rest := by
  rw [readThree?] at h
  obtain ⟨⟨_, s₁⟩, h₁, h⟩ := Option.bind_eq_some_iff.1 h
  obtain ⟨s₂, h₂, h⟩ := Option.bind_eq_some_iff.1 h
  obtain ⟨⟨_, s₃⟩, h₃, h⟩ := Option.bind_eq_some_iff.1 h
  obtain ⟨s₄, h₄, h⟩ := Option.bind_eq_some_iff.1 h
  obtain ⟨⟨_, s₅⟩, h₅, h⟩ := Option.bind_eq_some_iff.1 h
  obtain ⟨-, rfl⟩ := Prod.mk.inj (Option.some.inj h)
  have hfirst := (hasMoreDigits_of_readNumber? h₁).trans (hasMoreDigits_of_dropChar? h₂)
  have hsecond := (hasMoreDigits_of_readNumber? h₃).trans (hasMoreDigits_of_dropChar? h₄)
  exact (hfirst.trans hsecond).trans (hasMoreDigits_of_readNumber? h₅)

theorem hasMoreDigits_of_readNanos? (h : readNanos? s = some (n, rest)) : HasMoreDigits 0 s rest := by
  unfold readNanos? at h
  split at h
  · exact (hasMoreDigits_tail _ _).trans (hasMoreDigits_of_readFraction? h)
  · obtain ⟨-, rfl⟩ := Prod.mk.inj (Option.some.inj h)
    exact ⟨List.suffix_refl _, Nat.le_of_eq (Nat.zero_add _)⟩

/-- After its sign an offset has two digits of hours and two of minutes. -/
theorem hasMoreDigits_of_readOffset? {offset : Int} (h : readOffset? (dropChar? ':') s = some (offset, rest)) : HasMoreDigits 4 s rest := by
  have hdigits {negative : Bool} {s : List Char} (h : (do
      let (hours, rest) ← readNumber? 2 2 s
      let rest ← dropChar? ':' rest
      let (minutes, rest) ← readNumber? 2 2 rest
      let _ ← within? 0 59 minutes
      let seconds : Int := hours * 3600 + minutes * 60
      some (if negative then -seconds else seconds, rest)) = some (offset, rest)) : HasMoreDigits 4 s rest := by
    obtain ⟨⟨_, s₁⟩, h₁, h⟩ := Option.bind_eq_some_iff.1 h
    obtain ⟨s₂, h₂, h⟩ := Option.bind_eq_some_iff.1 h
    obtain ⟨⟨_, s₃⟩, h₃, h⟩ := Option.bind_eq_some_iff.1 h
    obtain ⟨_, -, h⟩ := Option.bind_eq_some_iff.1 h
    obtain ⟨-, rfl⟩ := Prod.mk.inj (Option.some.inj h)
    exact ((hasMoreDigits_of_readNumber? h₁).trans (hasMoreDigits_of_dropChar? h₂)).trans (hasMoreDigits_of_readNumber? h₃)
  unfold readOffset? at h
  split at h
  · exact (hasMoreDigits_tail _ _).trans (hdigits h)
  · exact (hasMoreDigits_tail _ _).trans (hdigits h)
  · exact (hasMoreDigits_tail _ _).trans (hdigits h)
  · cases h

theorem hasMoreDigits_of_readZone? {offset : Int} (h : readZone? s = some (offset, rest)) :
    HasMoreDigits 4 s rest ∨ 'Z' ∈ s ∨ 'z' ∈ s := by
  unfold readZone? at h
  split at h
  · exact .inr (.inl List.mem_cons_self)
  · exact .inr (.inr List.mem_cons_self)
  · exact .inl (hasMoreDigits_of_readOffset? h)

/-- A text in the internet format has all digits of a date and a time, and those of an offset unless it has a `Z`. -/
theorem exists_of_readInternet? (h : readInternet? s = some d) : 18 ≤ s.countP isDigit ∨ 'Z' ∈ s ∨ 'z' ∈ s := by
  rw [readInternet?_eq] at h
  obtain ⟨⟨_, s₁⟩, h₁, h⟩ := Option.bind_eq_some_iff.1 h
  obtain ⟨s₂, h₂, h⟩ := Option.bind_eq_some_iff.1 h
  obtain ⟨⟨_, s₃⟩, h₃, h⟩ := Option.bind_eq_some_iff.1 h
  obtain ⟨⟨_, s₄⟩, h₄, h⟩ := Option.bind_eq_some_iff.1 h
  obtain ⟨⟨_, s₅⟩, h₅, -⟩ := Option.bind_eq_some_iff.1 h
  have hdate := (hasMoreDigits_of_readThree? h₁).trans (hasMoreDigits_of_dropTimeMark? h₂)
  have htime := (hasMoreDigits_of_readThree? h₃).trans (hasMoreDigits_of_readNanos? h₄)
  obtain ⟨hsuffix, hcount⟩ := hdate.trans htime
  rcases hasMoreDigits_of_readZone? h₅ with ⟨-, hzone⟩ | hZ | hz
  · exact .inl (by omega)
  · exact .inr (.inl (hsuffix.subset hZ))
  · exact .inr (.inr (hsuffix.subset hz))

end CellExpr.Calendar
