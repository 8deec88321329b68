import CellExpr.Proofs.Evaluation.Filters
import CellExpr.Proofs.Json.WrittenForms
import CellExpr.Proofs.Number.WholeTexts
import CellExpr.Proofs.Scanning.Numbers
import CellExpr.Proofs.Writing.RoundTrip

/-!
# Numbers as they are shown

The text of a finite number is digits, perhaps with a point among them, after a minus if the number is below zero. It reads as the number
in each way in which texts are read, by `toNumber` and as an expression, but that a zero loses its sign; so numbers that have the same
text are equal (`shown_numbers`).
-/

namespace CellExpr

open CellExpr.Number

variable {x y : Float} {word tail : List Char} {e : Expr} {s : Scope} {now : Calendar.Instant}

namespace Number

/-! ## Signs -/

/-- A double is finite if its bits, without the sign, are below those of infinity. -/
theorem isFinite_of_magnitude (h : magnitude x.toBits.toBitVec < infinityCode) : x.isFinite = true := by
  have hnumber : x.isNaN = false := by
    rw [← Bool.not_eq_true, isNaN_iff]
    exact Nat.lt_asymm h
  have hplace := hasPlace_of_isNaN_eq_false hnumber
  show x.toModel.unpack.isFinite = true
  rw [← natAbs_rank] at h
  generalize x.toModel.unpack = f at hplace ⊢
  generalize rank x = i at hplace h
  cases hplace with
  | infinity =>
    rw [natAbs_apply] at h
    exact absurd h (Nat.lt_irrefl _)
  | zero => rfl
  | finite => rfl

/-- A finite double is below zero if it has a minus and is no zero. -/
theorem lt_zero_iff (h : x.isFinite = true) : x < 0 ↔ hasMinus x = true ∧ magnitude x.toBits.toBitVec ≠ 0 := by
  have hzero : rank 0 = 0 ∧ (0 : Float).isNaN = false := by decide
  have hnumber : x.isNaN = false := (isNaN_of_toNat_toBits (toNat_toBits_eq x) (magnitude_lt h).le).1
  have hbits : x.toBits.toBitVec.toNat = x.toBits.toNat := rfl
  rw [lt_iff, hzero.1, rank_eq, signOf, hbits, hasMinus, decide_eq_true_eq]
  generalize magnitude x.toBits.toBitVec = m
  split
  · exact iff_of_false (fun hlt => absurd hlt.2.2 (Int.not_lt.2 (Int.natCast_nonneg m))) (by omega)
  · rename_i hminus
    have hneg : Float.Model.UnpackedFloat.Sign.negative.apply m = -(m : Int) := rfl
    rw [hneg]
    exact ⟨fun hlt => ⟨Nat.not_lt.1 hminus, by omega⟩, fun hne => ⟨hnumber, hzero.2, by omega⟩⟩

/-- The double whose bits are the magnitude of a finite one has this magnitude, no sign, and is finite. -/
theorem magnitude_of_toNat_toBits {m : Nat} (hy : y.toBits.toNat = m) (hlt : m < infinityCode) :
    magnitude y.toBits.toBitVec = m ∧ hasMinus y = false ∧ y.isFinite = true := by
  have hbound : infinityCode < 2 ^ 63 := by decide
  have hself : magnitude y.toBits.toBitVec = m :=
    (Nat.mod_eq_of_lt (show y.toBits.toNat < 2 ^ 63 from hy ▸ Nat.lt_trans hlt hbound)).trans hy
  refine ⟨hself, ?_, isFinite_of_magnitude (hself ▸ hlt)⟩
  rw [hasMinus, decide_eq_false_iff_not, hy]
  omega

/-- A finite double without a sign reads back with its sign, for there is none to lose. -/
theorem readsBack_of_hasMinus_eq_false (h : y.isFinite = true) (hplain : hasMinus y = false) : ReadsBack y := by
  rw [ReadsBack, read?_text h]
  split
  · rename_i hzero
    have hbits := toNat_toBits_eq y
    rw [hplain, (magnitude_eq_zero_iff h).2 hzero] at hbits
    exact congrArg some (eq_of_toNat_toBits hbits.symm)
  · rfl

/-- The text of a finite number is the text of its magnitude after the sign, which a zero does not have. -/
theorem text_eq_signed (h : x.isFinite = true) (hy : y.toBits.toNat = magnitude x.toBits.toBitVec) :
    (text x).toList = signed (decide (x < 0)) (text y).toList := by
  have hlt := magnitude_lt h
  have hminus := lt_zero_iff h
  have hexact := exact_of_isFinite h
  obtain ⟨hself, hplain, hfinite⟩ := magnitude_of_toNat_toBits hy hlt
  have hexact' := exact_of_isFinite hfinite
  rw [hself, hplain] at hexact'
  generalize magnitude x.toBits.toBitVec = m at *
  rw [text, hexact, text, hexact']
  dsimp only
  by_cases hm : m = 0
  · have hunits : unitsAt m = 0 := by rw [hm]; rfl
    rw [decide_eq_false (fun hneg => (hminus.1 hneg).2 hm), if_pos hunits, if_pos hunits]
    rfl
  · have hsign : decide (x < 0) = hasMinus x := by
      rw [Bool.eq_iff_iff, decide_eq_true_eq, hminus]
      exact and_iff_left hm
    have hunits : unitsAt m ≠ 0 := (unitsAt_bounds (Nat.pos_of_ne_zero hm) hlt).1
    rw [hsign, if_neg hunits, if_neg hunits, String.toList_ofList, String.toList_ofList]
    rfl

/-- A finite number is its magnitude or the opposite of it, but that a zero loses its sign. -/
theorem eq_signed_magnitude (h : x.isFinite = true) (hy : y.toBits.toNat = magnitude x.toBits.toBitVec) :
    (if x == 0 then 0 else x) = if x < 0 then -y else y := by
  have hlt := magnitude_lt h
  have hminus := lt_zero_iff h
  have hzero := magnitude_eq_zero_iff h
  have hbits := toNat_toBits_eq x
  generalize magnitude x.toBits.toBitVec = m at *
  by_cases hm : m = 0
  · rw [if_pos (hzero.1 hm), if_neg fun hneg => (hminus.1 hneg).2 hm]
    exact eq_of_toNat_toBits (hm.symm.trans hy.symm)
  · rw [if_neg (mt hzero.2 hm)]
    split
    · rename_i hneg
      refine eq_of_toNat_toBits ?_
      rw [toNat_toBits_neg hy hlt.le, hbits, if_pos (hminus.1 hneg).1]
    · rename_i hpos
      refine eq_of_toNat_toBits ?_
      rw [hy, hbits, if_neg fun hneg => hpos (hminus.2 ⟨hneg, hm⟩), Nat.zero_add]

/-- A finite number is one without a sign or the opposite of one, and its text is the text of this one after the sign. A zero counts as
one without a sign. -/
theorem exists_plain (h : x.isFinite = true) :
    ∃ y, IsPlainNumber y ∧ ReadsBack y ∧ (text x).toList = signed (decide (x < 0)) (text y).toList ∧
      (if x == 0 then 0 else x) = if x < 0 then -y else y := by
  obtain ⟨y, hy⟩ := exists_toNat_toBits (magnitude_lt h).le
  obtain ⟨-, hplain, hfinite⟩ := magnitude_of_toNat_toBits hy (magnitude_lt h)
  have hexact := exact_of_isFinite hfinite
  rw [hplain] at hexact
  exact ⟨y, ⟨_, hexact⟩, readsBack_of_hasMinus_eq_false hfinite hplain, text_eq_signed h hy, eq_signed_magnitude h hy⟩

/-- The number as which its text reads: zero has no sign in it. -/
def shown (x : Float) : Float := if x == 0 then 0 else x

/-- The sign of zero is all that may be lost: the number is equal to itself. -/
theorem shown_beq (h : x.isFinite = true) : (shown x == x) = true := by
  have hnumber : x.isNaN = false := (isNaN_of_toNat_toBits (toNat_toBits_eq x) (magnitude_lt h).le).1
  unfold shown
  split
  · rename_i hzero
    rw [beq_iff] at hzero ⊢
    exact ⟨hzero.2.1, hzero.1, hzero.2.2.symm⟩
  · exact beq_iff.2 ⟨hnumber, hnumber, rfl⟩

theorem parse?_text (h : x.isFinite = true) : parse? (text x) = some (shown x) := by
  have hparse := parse?_of_read? (read?_text h)
  rwa [String.ofList_toList] at hparse

/-- Finite numbers have the same text if and only if they are equal. -/
theorem text_eq_iff (hx : x.isFinite = true) (hy : y.isFinite = true) : text x = text y ↔ (x == y) = true := by
  constructor
  · intro htext
    have hshown : shown x = shown y := Option.some.inj ((parse?_text hx).symm.trans (htext ▸ parse?_text hy))
    have hself := beq_iff.1 (shown_beq hx)
    have hother := beq_iff.1 (hshown ▸ shown_beq hy)
    exact beq_iff.2 ⟨hself.2.1, hother.2.1, hself.2.2.symm.trans hother.2.2⟩
  · intro heq
    have hrank := (beq_iff.1 heq).2.2
    have hbits : magnitude x.toBits.toBitVec = magnitude y.toBits.toBitVec := by rw [← natAbs_rank, ← natAbs_rank, hrank]
    by_cases hzero : magnitude x.toBits.toBitVec = 0
    · rw [text_of_magnitude_eq_zero hx hzero, text_of_magnitude_eq_zero hy (hbits ▸ hzero)]
    · have hneg : x < 0 ↔ y < 0 := by rw [lt_iff, lt_iff, hrank, (beq_iff.1 heq).1, (beq_iff.1 heq).2.1]
      rw [lt_zero_iff hx, lt_zero_iff hy, ← hbits, and_iff_left hzero, and_iff_left hzero, ← Bool.eq_iff_iff] at hneg
      obtain rfl : x = y := eq_of_toNat_toBits (by rw [toNat_toBits_eq x, toNat_toBits_eq y, hbits, hneg])
      rfl

/-! ## The scanner -/

/-- Where the text of a number without a sign stands, and nothing after it goes on with it, the scanner reads it in full. -/
theorem next_text (hplain : IsPlainNumber x) (hreads : ReadsBack x) (afterOperand : Bool) (position : Nat) (htail : IsApart tail) :
    TokenCursor.next ⟨(text x).toList ++ tail, position, afterOperand⟩ =
      (.ok ⟨.number x, (text x).toList, position⟩, ⟨tail, position + (text x).toList.length, true⟩) := by
  obtain ⟨c, rest, hs, hblank, hcomment, -⟩ := spelling_cons (k := .number x) ⟨hplain, hreads⟩
  have htext : (text x).toList = c :: rest := hs
  have hgap : ¬BeginsGap c := by
    rintro (h | h)
    · rw [hblank] at h
      cases h
    · exact hcomment h
  have hnext : TokenCursor.next ⟨[] ++ c :: (rest ++ tail), position, afterOperand⟩ = _ := TokenCursor.next_of_tokenRun .nil hgap
  rw [tokenRun_number ⟨hplain, hreads⟩ htext htail] at hnext
  rw [htext, List.cons_append]
  refine hnext.trans ?_
  simp only [List.take_left, List.drop_left, List.length_nil, Nat.add_zero, List.length_cons, Nat.add_assoc, Nat.add_comm 1]
  rfl

/-- A number without a sign, and the opposite of one, are read from their texts as expressions. -/
theorem parse_text (hplain : IsPlainNumber y) (hreads : ReadsBack y) {negative : Bool}
    (htext : (text x).toList = signed negative (text y).toList) :
    Expr.parse (text x) = .ok (if negative then .unary .minus (.literal (.number y)) else .literal (.number y)) := by
  have hformed : (Expr.literal (.number y)).Formed TokenKind.HasSpelling := .literal _ ⟨hplain, hreads⟩
  have hgap : IsGap fun _ => [] := nofun
  cases negative with
  | false =>
    have hprint : text x = (Expr.literal (.number y)).print fun _ => [] := by
      rw [← String.toList_inj, htext, Expr.print, String.toList_ofList]
      simp [signed, Expr.words, written, TokenKind.spelling, Literal.kind]
    rw [hprint]
    exact Expr.parse_print hformed (show 0 < maxNesting by decide) hgap
  | true =>
    have hprint : text x = (Expr.unary .minus (.literal (.number y))).print fun _ => [] := by
      rw [← String.toList_inj, htext, Expr.print, String.toList_ofList]
      simp [signed, Expr.words, written, TokenKind.spelling, Literal.kind, Expr.grouped, Expr.tightness, UnaryOp.mark, Mark.chars]
    rw [hprint]
    exact Expr.parse_print (.unary .minus hformed) (show 1 < maxNesting by decide) hgap

end Number

/-! ## Expressions -/

theorem value_toString (h : (e.eval (.standard now) s).value = .number x) :
    ((Expr.call "toString" [e]).eval (.standard now) s).value = .string (text x) := by
  rw [Value.value_call_single, h]
  exact Value.call_toString now s rfl

theorem value_toNumber_toString (h : (e.eval (.standard now) s).value = .number x) :
    ((Expr.call "toNumber" [.call "toString" [e]]).eval (.standard now) s).value =
      match parse? (text x) with
      | some x => .number x
      | none => .error { kind := .semantic, message := s!"cannot parse '{text x}' as a number" } := by
  rw [Value.value_call_single, value_toString h]
  exact value_call_toNumber now s (text x)

/-- What the text of a number is read as. -/
structure ReadsAs (x z : Float) : Prop where
  /-- Digits, perhaps with a point and further digits, are all of it but a minus. -/
  digits : ∃ word y, IsPositional word ∧ (text x).toList = signed (decide (x < 0)) word ∧ z = (if x < 0 then -y else y) ∧
    (∀ afterOperand position tail, IsApart tail → TokenCursor.next ⟨word ++ tail, position, afterOperand⟩ =
      (.ok ⟨.number y, word, position⟩, ⟨tail, position + word.length, true⟩)) ∧
    Expr.parse (text x) = .ok (if x < 0 then .unary .minus (.literal (.number y)) else .literal (.number y))
  /-- As an expression it has the number as its value. -/
  expression : ∃ e, Expr.parse (text x) = .ok e ∧ ∀ r s, (e.eval r s).value = .number z
  number : parse? (text x) = some z

theorem readsAs_shown (h : x.isFinite = true) : ReadsAs x (shown x) := by
  obtain ⟨y, hplain, hreads, htext, hshown⟩ := exists_plain h
  have hparse := parse_text hplain hreads htext
  simp only [decide_eq_true_eq] at hparse
  refine ⟨⟨_, y, isPositional_text hplain, htext, hshown, fun _ _ _ => next_text hplain hreads _ _, hparse⟩, ⟨_, hparse, fun r s => ?_⟩,
    parse?_text h⟩
  show _ = Value.number (if x == 0 then 0 else x)
  rw [hshown]
  split <;> rfl

/-- The text of every finite number reads as the number, but that a zero loses its sign: all of it, after a minus, is one token
wherever the scanner comes upon it, it is an expression with this value, and `toNumber` brings it back from `toString`. Numbers with one
text are equal. Whole numbers below `10^15` have the text of the integer. -/
theorem shown_numbers (h : x.isFinite = true) :
    ReadsAs x (shown x) ∧ (shown x == x) = true ∧ (∀ n, IsInteger x n → n.natAbs < 10 ^ 15 → text x = toString n) ∧
      (∀ y, y.isFinite = true → (text x = text y ↔ (x == y) = true)) ∧
      ∀ now s (e : Expr), (e.eval (.standard now) s).value = .number x →
        ((Expr.call "toString" [e]).eval (.standard now) s).value = .string (text x) ∧
          ((Expr.call "toNumber" [.call "toString" [e]]).eval (.standard now) s).value = .number (shown x) ∧
          ((Expr.binary .eq (.call "toNumber" [.call "toString" [e]]) e).eval (.standard now) s).value = .boolean true := by
  refine ⟨readsAs_shown h, shown_beq h, fun n hn hbound => text_of_isInteger hn hbound, fun y hy => text_eq_iff h hy, fun now s e he => ?_⟩
  have hback : ((Expr.call "toNumber" [.call "toString" [e]]).eval (.standard now) s).value = .number (shown x) := by
    rw [value_toNumber_toString he, parse?_text h]
  refine ⟨value_toString he, hback, (Expr.value_binary_eq_true_iff rfl).2 ?_⟩
  rw [hback, he, Value.eq_apply rfl rfl]
  show Except.ok (Value.boolean (shown x == x)) = _
  rw [shown_beq h]

/-- The least whole number that is written as an integer reads back, and the next number has another text. -/
theorem shown_numbers_boundary :
    (-999999999999999 : Float).isFinite = true ∧ text (-999999999999999) = "-999999999999999" ∧
      ReadsAs (-999999999999999) (-999999999999999) ∧ text (-999999999999999) ≠ text (-1000000000000000) := by
  have hfinite : (-999999999999999 : Float).isFinite = true := by decide +kernel
  have hinteger : IsInteger (-999999999999999) (-999999999999999) := by
    unfold IsInteger
    decide +kernel
  have hshown : shown (-999999999999999) = -999999999999999 := if_neg (by decide +kernel)
  obtain ⟨hreads, -, hwhole, heq, -⟩ := shown_numbers hfinite
  refine ⟨hfinite, hwhole _ hinteger (by decide), hshown ▸ hreads, fun htext => ?_⟩
  exact absurd ((heq _ (by decide +kernel)).1 htext) (by decide +kernel)

end CellExpr
