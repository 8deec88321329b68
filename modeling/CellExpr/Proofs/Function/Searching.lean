import CellExpr.Proofs.Evaluation.Bodies
import CellExpr.Proofs.Function.Stretches
import CellExpr.Proofs.Text.Occurrences

/-!
# Places in texts and arrays

The functions that look for a text in a text or for a value in an array (`call_indexOf`). `indexOf` gives the first place and
`lastIndexOf` the last one, `contains` and `inArray` tell whether there is one, and `-1` stands for none (`Finds`). A place in a text
is one from which `substring` takes the needle. A place in an array is one whose element equals the value.
-/

namespace CellExpr

open CellExpr.Number CellExpr.Text CellExpr.SequenceFunctions

/-! ## Searches -/

/-- The number that tells a place; -1 if there is none. -/
def numberOfPlace : Option Nat → Value
  | some i => .ofNat i
  | none => .number (-1)

theorem numberOfPlace_eq_neg_one_iff {place? : Option Nat} : numberOfPlace place? = .number (-1) ↔ place? = none := by
  cases place? with
  | none => exact iff_of_true rfl rfl
  | some i => exact iff_of_false (fun h => ofNat_ne_neg_one i (Value.number.inj h)) nofun

/-- Three values tell about the places with a property: the first one, the last one, and whether there is any. The first two are -1
just if the third one says that there is none. -/
structure Finds (found : Nat → Prop) (first last test : Value) : Prop where
  places : (∃ i j, IsLeast {p | found p} i ∧ IsGreatest {p | found p} j ∧ first = .ofNat i ∧ last = .ofNat j ∧ test = .boolean true) ∨
    (∀ p, ¬found p) ∧ first = .number (-1) ∧ last = .number (-1) ∧ test = .boolean false
  first_iff : first = .number (-1) ↔ test = .boolean false
  last_iff : last = .number (-1) ↔ test = .boolean false

/-- A search from the front and one from the back, each of which finds a place if there is one. -/
theorem finds_of_searches {found : Nat → Prop} {first? last? : Option Nat} (hleast : ∀ i, first? = some i → IsLeast {p | found p} i)
    (hfirst : first? = none → ∀ p, ¬found p) (hgreatest : ∀ i, last? = some i → IsGreatest {p | found p} i)
    (hlast : last? = none → ∀ p, ¬found p) :
    Finds found (numberOfPlace first?) (numberOfPlace last?) (.boolean first?.isSome) := by
  cases first? with
  | none =>
    have hnone := hfirst rfl
    cases last? with
    | none => exact ⟨.inr ⟨hnone, rfl, rfl, rfl⟩, iff_of_true rfl rfl, iff_of_true rfl rfl⟩
    | some j => exact absurd (hgreatest j rfl).1 (hnone j)
  | some i =>
    cases last? with
    | none => exact absurd (hleast i rfl).1 (hlast rfl i)
    | some j =>
      exact ⟨.inl ⟨i, j, hleast i rfl, hgreatest j rfl, rfl, rfl, rfl⟩, numberOfPlace_eq_neg_one_iff.trans (iff_of_false nofun nofun),
        numberOfPlace_eq_neg_one_iff.trans (iff_of_false nofun nofun)⟩

/-! ## Texts -/

theorem position_text (last : Bool) (s needle : String) (scope : Scope) : position last [.string s, .string needle] scope =
    .ok (numberOfPlace (if last then lastPosition? needle.toList s.toList else firstPosition? needle.toList s.toList)) := by
  show (charsBefore? last needle.toList s.toList >>= fun found => _) = _
  rw [charsBefore?_eq]
  rfl

/-- The part of a text from a place on that is as long as the needle is the needle just if this stands there. -/
theorem within_eq_iff {needle s : List Char} {i : Nat} (hi : i ≤ s.length) :
    within s (i, i + needle.length) = needle ↔ StandsAt needle s i := by
  rw [within, Nat.add_sub_cancel_left, StandsAt, and_iff_right hi, List.prefix_iff_eq_take, eq_comm]

/-- A part from a place within the text on ends at the second bound or at the end of the text. -/
theorem within_stretch_of_le {s : List Char} {first last : Float} {i j : Nat} (hlength : (s.length : Int) ≤ maxWord)
    (hfirst : IsInteger first i) (hlast : IsInteger last j) (hi : i ≤ s.length) (hij : i ≤ j) :
    within s (stretch s.length first (some last)) = within s (i, j) := by
  have hstart := boundOf_of_isInteger hlength hfirst
  have hstop := boundOf_of_isInteger hlength hlast
  unfold boundAt at hstart hstop
  have hstretch : stretch s.length first (some last) = (i, min s.length j) := by
    simp only [stretch, Option.map_some, Option.getD_some, Prod.mk.injEq]
    omega
  rw [hstretch, within, within]
  dsimp only
  rw [List.take_eq_take_iff, List.length_drop]
  omega

/-- Taken between a place and the place as many characters further on as the needle has, the part is the needle just if this stands
there. The bounds are any doubles that are these places. -/
theorem call_substring_eq_iff (now : Calendar.Instant) (scope : Scope) {s needle : String} {i : Nat} {first last : Float}
    (hlength : (s.length : Int) ≤ maxWord) (hi : i ≤ s.length) (hfirst : IsInteger first i)
    (hlast : IsInteger last (i + needle.length : Nat)) :
    ((Registry.standard now).call "substring" [.string s, .number first, .number last] scope).value = .string needle ↔
      StandsAt needle.toList s.toList i := by
  rw [← String.length_toList] at hlength hi hlast
  have hcall : ((Registry.standard now).call "substring" [.string s, .number first, .number last] scope).value = _ :=
    call_substring now scope s first (some last)
  rw [hcall, within_stretch_of_le hlength hfirst hlast hi (Nat.le_add_right _ _), ← within_eq_iff hi]
  exact ⟨fun h => String.toList_ofList.symm.trans (congrArg String.toList (Value.string.inj h)),
    fun h => congrArg Value.string ((congrArg String.ofList h).trans String.ofList_toList)⟩

/-! ## Arrays -/

/-- The element at a place equals a value. -/
def EqualsAt (items : List Value) (v : Value) (p : Nat) : Prop := ∃ h : p < items.length, items[p].same v = true

variable {items : List Value} {v : Value} {i : Nat}

theorem equalsAt_reverse (hi : i < items.length) : EqualsAt items.reverse v i ↔ EqualsAt items v (items.length - 1 - i) := by
  have hi' : i < items.reverse.length := by rwa [List.length_reverse]
  have hplace : items.length - 1 - i < items.length := by omega
  rw [EqualsAt, EqualsAt, exists_prop_of_true hi', exists_prop_of_true hplace, List.getElem_reverse]

theorem EqualsAt.reverse {p : Nat} (h : EqualsAt items v p) : EqualsAt items.reverse v (items.length - 1 - p) := by
  have hp := h.1
  rw [equalsAt_reverse (by omega), show items.length - 1 - (items.length - 1 - p) = p by omega]
  exact h

theorem isLeast_of_findIdx? (h : items.findIdx? (·.same v) = some i) : IsLeast {p | EqualsAt items v p} i := by
  obtain ⟨hlt, hsame, hbefore⟩ := List.findIdx?_eq_some_iff_getElem.1 h
  exact ⟨⟨hlt, hsame⟩, fun p ⟨_, hp⟩ => Nat.le_of_not_lt fun hpi => hbefore p hpi hp⟩

theorem not_equalsAt_of_findIdx? (h : items.findIdx? (·.same v) = none) (p : Nat) : ¬EqualsAt items v p := fun ⟨hp, hsame⟩ =>
  Bool.eq_false_iff.1 (List.findIdx?_eq_none_iff.1 h _ (List.getElem_mem hp)) hsame

/-- The last place of an element is told by its first place from the back. -/
theorem isGreatest_of_findIdx?_reverse (h : items.reverse.findIdx? (·.same v) = some i) :
    i < items.length ∧ IsGreatest {p | EqualsAt items v p} (items.length - 1 - i) := by
  obtain ⟨⟨hlt, hsame⟩, hleast⟩ := isLeast_of_findIdx? h
  rw [List.length_reverse] at hlt
  refine ⟨hlt, (equalsAt_reverse hlt).1 ⟨_, hsame⟩, fun p hp => ?_⟩
  have hback : i ≤ items.length - 1 - p := hleast hp.reverse
  have := hp.1
  omega

theorem not_equalsAt_of_findIdx?_reverse (h : items.reverse.findIdx? (·.same v) = none) (p : Nat) : ¬EqualsAt items v p :=
  fun hp => not_equalsAt_of_findIdx? h _ hp.reverse

theorem finds_placeOfElement? (items : List Value) (v : Value) :
    Finds (EqualsAt items v) (numberOfPlace (placeOfElement? false items v)) (numberOfPlace (placeOfElement? true items v))
      (.boolean (items.any (·.same v))) := by
  have hfirst : placeOfElement? false items v = items.findIdx? (·.same v) := rfl
  have hlast : placeOfElement? true items v = (items.reverse.findIdx? (·.same v)).map (items.length - 1 - ·) := rfl
  rw [← List.findIdx?_isSome, hfirst, hlast]
  refine finds_of_searches (fun i => isLeast_of_findIdx?) not_equalsAt_of_findIdx? (fun j hj => ?_) fun hnone => ?_
  · obtain ⟨k, hk, rfl⟩ := Option.map_eq_some_iff.1 hj
    exact (isGreatest_of_findIdx?_reverse hk).2
  · exact not_equalsAt_of_findIdx?_reverse (Option.map_eq_none_iff.1 hnone)

/-! ## The functions -/

section

variable (now : Calendar.Instant) (scope : Scope) (hv : v.isError = false)

include hv

theorem call_indexOf_array : ((Registry.standard now).call "indexOf" [.array items, v] scope).value =
    numberOfPlace (placeOfElement? false items v) := by
  cases v with
  | error e => cases hv
  | _ => rfl

theorem call_lastIndexOf_array : ((Registry.standard now).call "lastIndexOf" [.array items, v] scope).value =
    numberOfPlace (placeOfElement? true items v) := by
  cases v with
  | error e => cases hv
  | _ => rfl

theorem call_inArray : ((Registry.standard now).call "inArray" [.array items, v] scope).value = .boolean (items.any (·.same v)) := by
  cases v with
  | error e => cases hv
  | _ => rfl

end

/-- `indexOf` and `lastIndexOf` give the least and the greatest place at which a text stands in a text, or an element equals a value, or
both -1 just if `contains` or `inArray` says that there is none. A text stands where `substring` takes it from. In an array the
last place is told by the first one in the reversed array, also when they are reckoned with as doubles. A value that is an error is
the answer of each of the functions. -/
theorem call_indexOf (now : Calendar.Instant) (scope : Scope) :
    (∀ s needle : String, Finds (StandsAt needle.toList s.toList)
      ((Registry.standard now).call "indexOf" [.string s, .string needle] scope).value
      ((Registry.standard now).call "lastIndexOf" [.string s, .string needle] scope).value
      ((Registry.standard now).call "contains" [.string s, .string needle] scope).value) ∧
    (∀ (s needle : String) (i : Nat), (s.length : Int) ≤ maxWord → i ≤ s.length →
      (∀ first last : Float, IsInteger first i → IsInteger last (i + needle.length : Nat) →
        (((Registry.standard now).call "substring" [.string s, .number first, .number last] scope).value = .string needle ↔
          StandsAt needle.toList s.toList i)) ∧
      (i + needle.length < 2 ^ 53 → IsInteger (ofNat i) i ∧ IsInteger (ofNat (i + needle.length)) (i + needle.length : Nat))) ∧
    (∀ (items : List Value) (v : Value), v.isError = false → Finds (EqualsAt items v)
      ((Registry.standard now).call "indexOf" [.array items, v] scope).value
      ((Registry.standard now).call "lastIndexOf" [.array items, v] scope).value
      ((Registry.standard now).call "inArray" [.array items, v] scope).value) ∧
    (∀ (items : List Value) (v : Value), ((Registry.standard now).call "inArray" [.array items, v] scope).value = .boolean true →
      ∃ k < items.length, ((Registry.standard now).call "indexOf"
          [((Registry.standard now).call "reverse" [.array items] scope).value, v] scope).value = .ofNat k ∧
        ((Registry.standard now).call "length" [.array items] scope).value = .ofNat items.length ∧
        ((Registry.standard now).call "lastIndexOf" [.array items, v] scope).value = .ofNat (items.length - 1 - k) ∧
        (items.length < 2 ^ 53 → ofNat items.length - 1 - ofNat k = ofNat (items.length - 1 - k))) ∧
    ∀ (items : List Value) (e : EvalError),
      ((Registry.standard now).call "indexOf" [.array items, .error e] scope).value = .error e ∧
        ((Registry.standard now).call "lastIndexOf" [.array items, .error e] scope).value = .error e ∧
        ((Registry.standard now).call "inArray" [.array items, .error e] scope).value = .error e := by
  refine ⟨fun s needle => ?_, fun s needle i hlength hi => ⟨fun first last hfirst hlast => ?_, fun h => ?_⟩, fun items v hv => ?_,
    fun items v hfound => ?_, fun items e => ⟨rfl, rfl, rfl⟩⟩
  · have hfirst : ((Registry.standard now).call "indexOf" [.string s, .string needle] scope).value = _ :=
      Outcome.value_toTraced (position_text false s needle scope)
    have hlast : ((Registry.standard now).call "lastIndexOf" [.string s, .string needle] scope).value = _ :=
      Outcome.value_toTraced (position_text true s needle scope)
    rw [hfirst, hlast]
    exact finds_of_searches (fun i => standsAt_of_firstPosition?) not_standsAt_of_firstPosition? (fun i => standsAt_of_lastPosition?)
      not_standsAt_of_lastPosition?
  · exact call_substring_eq_iff now scope hlength hi hfirst hlast
  · exact ⟨isInteger_ofNat (by omega), isInteger_ofNat h⟩
  · rw [call_indexOf_array now scope hv, call_lastIndexOf_array now scope hv, call_inArray now scope hv]
    exact finds_placeOfElement? items v
  · have hv : v.isError = false := by
      cases v with
      | error e => exact nomatch show Value.error e = .boolean true from hfound
      | _ => rfl
    rw [call_inArray now scope hv, Value.boolean.injEq, ← List.any_reverse, ← List.findIdx?_isSome, Option.isSome_iff_exists] at hfound
    obtain ⟨k, hk⟩ := hfound
    obtain ⟨hlt, -⟩ := isGreatest_of_findIdx?_reverse hk
    refine ⟨k, hlt, ?_, rfl, ?_, fun hlength => ?_⟩
    · exact (call_indexOf_array now scope hv).trans (congrArg numberOfPlace hk)
    · rw [call_lastIndexOf_array now scope hv]
      exact congrArg (fun place? => numberOfPlace (place?.map (items.length - 1 - ·))) hk
    · have hone : (1 : Float) = ofNat 1 := rfl
      rw [hone, ofNat_sub (by omega) hlength, ofNat_sub (by omega) (by omega)]

/-- A needle overlaps itself and is found again two characters further on; the last one of two equal elements is found at the end. -/
theorem call_indexOf_overlapping :
    let now : Calendar.Instant := ⟨0, 0, by decide⟩
    let items : List Value := [.number 0, .string "a", .number (-0)]
    (("éaéaé".length : Int) ≤ maxWord ∧ 2 ≤ "éaéaé".length ∧ IsInteger 2 (2 : Nat) ∧ IsInteger 5 (2 + "éaé".length : Nat) ∧
        ((Registry.standard now).call "substring" [.string "éaéaé", .number 2, .number 5] []).value = .string "éaé") ∧
      ((Value.number 0).isError = false ∧ ∃ test, Finds (EqualsAt items (.number 0))
        ((Registry.standard now).call "indexOf" [.array items, .number 0] []).value
        ((Registry.standard now).call "lastIndexOf" [.array items, .number 0] []).value test) ∧
      ((Registry.standard now).call "inArray" [.array items, .number 0] []).value = .boolean true ∧
      ∃ k < 3, ((Registry.standard now).call "lastIndexOf" [.array items, .number 0] []).value = .ofNat (2 - k) ∧
        ofNat 3 - 1 - ofNat k = ofNat (2 - k) := by
  intro now items
  obtain ⟨-, hsubstring, hfinds, hreverse, -⟩ := call_indexOf now []
  have hstands : StandsAt "éaé".toList "éaéaé".toList 2 := ⟨by decide, [], rfl⟩
  have htwo : IsInteger 2 (2 : Nat) := by decide +kernel
  have hfive : IsInteger 5 (2 + "éaé".length : Nat) := by decide +kernel
  refine ⟨⟨by decide, by decide, htwo, hfive, ((hsubstring _ _ 2 (by decide) (by decide)).1 2 5 htwo hfive).2 hstands⟩,
    ⟨rfl, _, hfinds items (.number 0) rfl⟩, rfl, ?_⟩
  obtain ⟨k, hk, -, -, hlast, hdouble⟩ := hreverse items (.number 0) rfl
  exact ⟨k, hk, hlast, hdouble (by decide)⟩

end CellExpr
