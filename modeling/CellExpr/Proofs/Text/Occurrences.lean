import CellExpr.Text.Occurrence
import Mathlib.Data.Nat.Find
import Mathlib.Order.Bounds.Basic

/-!
# Where a text stands in another

A needle stands at a position of a text if what follows the position begins with it (`StandsAt`). The first and the last position
are found by comparing from left to right. Of the positions at which it stands, leftmost occurrences that do not overlap are picked one
after the other (`Occurrences`): each is the first one after the end of the one before it.
-/

namespace CellExpr.Text

variable {needle s rest : List Char} {c : Char} {i : Nat}

/-! ## Positions -/

/-- The needle stands at a position of a text. -/
def StandsAt (needle s : List Char) (i : Nat) : Prop := i ≤ s.length ∧ needle <+: s.drop i

instance (needle s : List Char) (i : Nat) : Decidable (StandsAt needle s i) := inferInstanceAs (Decidable (_ ∧ _))

theorem dropFront?_eq_some_iff : dropFront? needle s = some rest ↔ s = needle ++ rest := by
  induction needle generalizing s with
  | nil => exact Option.some_inj
  | cons a needle ih =>
    cases s with
    | nil => exact iff_of_false nofun nofun
    | cons c s =>
      rw [dropFront?, List.cons_append, List.cons.injEq]
      by_cases h : a = c
      · rw [if_pos h, ih, and_iff_right h.symm]
      · rw [if_neg h]
        exact iff_of_false nofun fun hs => h hs.1.symm

theorem beginsWith_iff : beginsWith needle s = true ↔ needle <+: s := by
  rw [beginsWith, Option.isSome_iff_exists]
  exact exists_congr fun rest => dropFront?_eq_some_iff.trans eq_comm

theorem standsAt_zero : StandsAt needle s 0 ↔ needle <+: s := and_iff_right (Nat.zero_le _)

theorem standsAt_succ : StandsAt needle (c :: s) (i + 1) ↔ StandsAt needle s i := by
  rw [StandsAt, StandsAt, List.length_cons, Nat.add_le_add_iff_right, List.drop_succ_cons]

theorem standsAt_nil : StandsAt needle [] i ↔ needle = [] ∧ i = 0 := by
  rw [StandsAt, List.drop_nil, List.prefix_nil, List.length_nil, Nat.le_zero, and_comm]

/-- A needle that stands at a position has room there. -/
theorem StandsAt.le (h : StandsAt needle s i) : i + needle.length ≤ s.length := by
  have hlength := h.2.length_le
  rw [List.length_drop] at hlength
  have := h.1
  omega

/-- Seen from a position on, the needle stands where it does in the whole text. -/
theorem standsAt_drop {start : Nat} (hstart : start ≤ s.length) :
    StandsAt needle (s.drop start) i ↔ StandsAt needle s (start + i) := by
  rw [StandsAt, StandsAt, List.length_drop, List.drop_drop]
  exact and_congr_left' (by omega)

/-! ## The first position and the last one -/

theorem standsAt_of_firstPosition? (h : firstPosition? needle s = some i) : IsLeast {p | StandsAt needle s p} i := by
  induction s generalizing i with
  | nil =>
    rw [firstPosition?] at h
    split at h
    · rename_i hempty
      obtain rfl := Option.some.inj h
      exact ⟨standsAt_nil.2 ⟨List.isEmpty_iff.1 hempty, rfl⟩, fun _ _ => Nat.zero_le _⟩
    · cases h
  | cons c s ih =>
    rw [firstPosition?] at h
    split at h
    · rename_i hbegins
      obtain rfl := Option.some.inj h
      exact ⟨standsAt_zero.2 (beginsWith_iff.1 hbegins), fun _ _ => Nat.zero_le _⟩
    · rename_i hbegins
      obtain ⟨j, hj, rfl⟩ := Option.map_eq_some_iff.1 h
      obtain ⟨hstands, hleast⟩ := ih hj
      refine ⟨standsAt_succ.2 hstands, fun p hp => ?_⟩
      cases p with
      | zero => exact absurd (beginsWith_iff.2 (standsAt_zero.1 hp)) hbegins
      | succ p => exact Nat.succ_le_succ (hleast (standsAt_succ.1 hp))

theorem not_standsAt_of_firstPosition? (h : firstPosition? needle s = none) (p : Nat) : ¬StandsAt needle s p := by
  induction s generalizing p with
  | nil =>
    intro hp
    rw [firstPosition?, if_pos (List.isEmpty_iff.2 (standsAt_nil.1 hp).1)] at h
    cases h
  | cons c s ih =>
    rw [firstPosition?] at h
    split at h
    · cases h
    · rename_i hbegins
      cases p with
      | zero => exact fun hp => hbegins (beginsWith_iff.2 (standsAt_zero.1 hp))
      | succ p => exact fun hp => ih (Option.map_eq_none_iff.1 h) p (standsAt_succ.1 hp)

theorem not_standsAt_of_lastPosition? (h : lastPosition? needle s = none) (p : Nat) : ¬StandsAt needle s p := by
  induction s generalizing p with
  | nil =>
    intro hp
    rw [lastPosition?, if_pos (List.isEmpty_iff.2 (standsAt_nil.1 hp).1)] at h
    cases h
  | cons c s ih =>
    rw [lastPosition?] at h
    split at h
    · cases h
    · rename_i hnone
      split at h
      · cases h
      · rename_i hbegins
        cases p with
        | zero => exact fun hp => hbegins (beginsWith_iff.2 (standsAt_zero.1 hp))
        | succ p => exact fun hp => ih hnone p (standsAt_succ.1 hp)

theorem standsAt_of_lastPosition? (h : lastPosition? needle s = some i) : IsGreatest {p | StandsAt needle s p} i := by
  induction s generalizing i with
  | nil =>
    rw [lastPosition?] at h
    split at h
    · rename_i hempty
      obtain rfl := Option.some.inj h
      exact ⟨standsAt_nil.2 ⟨List.isEmpty_iff.1 hempty, rfl⟩, fun p hp => Nat.le_of_eq (standsAt_nil.1 hp).2⟩
    · cases h
  | cons c s ih =>
    rw [lastPosition?] at h
    split at h
    · rename_i j hj
      obtain rfl := Option.some.inj h
      obtain ⟨hstands, hgreatest⟩ := ih hj
      refine ⟨standsAt_succ.2 hstands, fun p hp => ?_⟩
      cases p with
      | zero => exact Nat.zero_le _
      | succ p => exact Nat.succ_le_succ (hgreatest (standsAt_succ.1 hp))
    · rename_i hnone
      split at h
      · rename_i hbegins
        obtain rfl := Option.some.inj h
        refine ⟨standsAt_zero.2 (beginsWith_iff.1 hbegins), fun p hp => ?_⟩
        cases p with
        | zero => exact Nat.le_refl _
        | succ p => exact absurd (standsAt_succ.1 hp) (not_standsAt_of_lastPosition? hnone p)
      · cases h

theorem isInfix_iff : needle <:+: s ↔ ∃ i, StandsAt needle s i := by
  constructor
  · rintro ⟨front, back, rfl⟩
    refine ⟨front.length, by simp only [List.length_append]; omega, ?_⟩
    rw [List.append_assoc, List.drop_left]
    exact List.prefix_append _ _
  · rintro ⟨i, -, hi⟩
    exact hi.isInfix.trans (List.drop_suffix i s).isInfix

/-! ## Leftmost occurrences -/

/-- The positions from one on at which the needle stands, each the first one after the end of the occurrence before it. -/
inductive Occurrences (needle s : List Char) : (start : Nat) → List Nat → Prop
  | none {start : Nat} (h : ∀ i, start ≤ i → ¬StandsAt needle s i) : Occurrences needle s start []
  | next {start i : Nat} {places : List Nat} (hi : IsLeast {p | start ≤ p ∧ StandsAt needle s p} i)
      (hrest : Occurrences needle s (i + needle.length) places) : Occurrences needle s start (i :: places)

theorem exists_occurrences (hneedle : needle ≠ []) (s : List Char) (start : Nat) : ∃ places, Occurrences needle s start places := by
  by_cases h : ∃ i, start ≤ i ∧ StandsAt needle s i
  · classical
    have hleast : IsLeast {p | start ≤ p ∧ StandsAt needle s p} (Nat.find h) := ⟨Nat.find_spec h, fun _ hp => Nat.find_min' h hp⟩
    have hroom := hleast.1.2.le
    have hstart := hleast.1.1
    have hpos := List.length_pos_iff.2 hneedle
    obtain ⟨places, hplaces⟩ := exists_occurrences hneedle s (Nat.find h + needle.length)
    exact ⟨_, .next hleast hplaces⟩
  · exact ⟨[], .none fun i hi hstands => h ⟨i, hi, hstands⟩⟩
termination_by s.length - start

theorem Occurrences.unique {start : Nat} {places places' : List Nat} (h : Occurrences needle s start places)
    (h' : Occurrences needle s start places') : places = places' := by
  induction h generalizing places' with
  | none hnone =>
    cases h' with
    | none => rfl
    | next hi => exact absurd hi.1.2 (hnone _ hi.1.1)
  | next hi _ ih =>
    cases h' with
    | none hnone => exact absurd hi.1.2 (hnone _ hi.1.1)
    | next hi' hrest' =>
      obtain rfl := hi.unique hi'
      rw [ih hrest']

end CellExpr.Text
