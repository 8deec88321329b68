import CellExpr.Pattern.Splitting

/-!
# Matches in order

What a search for a pattern finds lies within the text, and the matches that are found one after the other do not overlap.
-/

namespace CellExpr

namespace Pattern

variable {program : Program} {text : Array Char}

/-- A way that has come from a place without leaving the text. -/
def Way.IsWithin (text : Array Char) (start : Nat) (w : Way) : Prop := start ≤ w.place ∧ w.place ≤ text.size

/-- A match that lies in a text, at a place or after it. -/
def Match.IsWithin (length start : Nat) (m : Match) : Prop := start ≤ m.start ∧ m.start ≤ m.stop ∧ m.stop ≤ length

/-- Matches in a text, each of which begins where the one before it ends or later. -/
def InOrder (length : Nat) : (start : Nat) → List Match → Prop
  | _, [] => True
  | start, m :: rest => m.IsWithin length start ∧ InOrder length m.stop rest

/-! ## One search -/

/-- An instruction keeps a way within the text. -/
theorem waysFrom_isWithin {start : Nat} {w : Way} (hw : w.IsWithin text start) (i : Instr) :
    ∀ w' ∈ waysFrom text w i, w'.IsWithin text start := by
  obtain ⟨hstart, hsize⟩ := hw
  intro w' hw'
  cases i with
  | accept => cases hw'
  | chars k next =>
    simp only [waysFrom] at hw'
    split at hw'
    · rename_i c hc
      obtain ⟨hlt, _⟩ := Array.getElem?_eq_some_iff.1 hc
      split at hw'
      · obtain rfl := List.mem_singleton.1 hw'
        exact ⟨Nat.le_succ_of_le hstart, hlt⟩
      · cases hw'
    · cases hw'
  | look l next =>
    simp only [waysFrom] at hw'
    split at hw'
    · obtain rfl := List.mem_singleton.1 hw'
      exact ⟨hstart, hsize⟩
    · cases hw'
  | save slot next =>
    obtain rfl := List.mem_singleton.1 hw'
    exact ⟨hstart, hsize⟩
  | split preferred other =>
    simp only [waysFrom, List.mem_cons, List.not_mem_nil, or_false] at hw'
    rcases hw' with rfl | rfl <;> exact ⟨hstart, hsize⟩

/-- Ways within the text are accepted within the text. -/
theorem explore_isWithin {start fuel stop : Nat} {ways : List Way} {tried : Tried} {slots : Slots}
    (hways : ∀ w ∈ ways, w.IsWithin text start) (h : (explore program text fuel ways tried).1 = some (stop, slots)) :
    start ≤ stop ∧ stop ≤ text.size := by
  induction fuel generalizing ways tried with
  | zero => cases ways <;> cases h
  | succ fuel ih =>
    cases ways with
    | nil => cases h
    | cons w rest =>
      have hw := hways w List.mem_cons_self
      have hrest : ∀ w' ∈ rest, w'.IsWithin text start := fun w' hw' => hways w' (List.mem_cons_of_mem w hw')
      simp only [explore] at h
      split at h
      · exact ih hrest h
      · split at h
        · cases h
          exact hw
        · refine ih (fun w' hw' => ?_) h
          rcases List.mem_append.1 hw' with hw' | hw'
          · exact waysFrom_isWithin hw _ w' hw'
          · exact hrest w' hw'
        · exact ih hrest h

theorem searchFrom_isWithin {fuel count start : Nat} {tried : Tried} {m : Match} (hcount : start + count ≤ text.size + 1)
    (h : searchFrom program text fuel count start tried = some m) : m.IsWithin text.size start := by
  induction count generalizing start tried with
  | zero => cases h
  | succ count ih =>
    simp only [searchFrom] at h
    split at h
    · rename_i stop slots _ hfound
      cases h
      have hstart : ∀ w ∈ [Way.mk program.entry start []], w.IsWithin text start := by
        intro w hw
        obtain rfl := List.mem_singleton.1 hw
        exact ⟨Nat.le_refl start, (by omega : start ≤ text.size)⟩
      exact ⟨Nat.le_refl _, explore_isWithin hstart (by rw [hfound])⟩
    · obtain ⟨hstart, hstop⟩ := ih (by omega) h
      exact ⟨by omega, hstop⟩

/-- The match found lies at the place from which it was searched or after it. -/
theorem search?_isWithin {start : Nat} {m : Match} (h : program.search? text start = some m) :
    m.IsWithin text.size start := by
  unfold Program.search? at h
  split at h
  · cases h
  · exact searchFrom_isWithin (by omega) h

/-! ## All matches -/

theorem Match.IsWithin.mono {length start start' : Nat} {m : Match} (h : m.IsWithin length start) (hstart : start' ≤ start) :
    m.IsWithin length start' := ⟨Nat.le_trans hstart h.1, h.2⟩

theorem InOrder.mono {length start start' : Nat} {found : List Match} (h : InOrder length start found)
    (hstart : start' ≤ start) : InOrder length start' found := by
  cases found with
  | nil => trivial
  | cons m rest => exact ⟨h.1.mono hstart, h.2⟩

/-- Leaving some matches aside keeps the others in order. -/
theorem InOrder.filter {length start : Nat} {found : List Match} (h : InOrder length start found) (p : Match → Bool) :
    InOrder length start (found.filter p) := by
  induction found generalizing start with
  | nil => trivial
  | cons m rest ih =>
    obtain ⟨hm, hrest⟩ := h
    rw [List.filter_cons]
    split
    · exact ⟨hm, ih hrest⟩
    · exact (ih hrest).mono (Nat.le_trans hm.1 hm.2.1)

/-- Each match among some in order lies within the text. -/
theorem InOrder.isWithin {length start : Nat} {found : List Match} (h : InOrder length start found) :
    ∀ m ∈ found, m.IsWithin length start := by
  induction found generalizing start with
  | nil => nofun
  | cons m rest ih =>
    obtain ⟨hm, hrest⟩ := h
    intro m' hm'
    rcases List.mem_cons.1 hm' with rfl | hm'
    · exact hm
    · exact (ih hrest m' hm').mono (Nat.le_trans hm.1 hm.2.1)

theorem matchesFrom_inOrder (fuel start : Nat) (last : Option Nat) :
    InOrder text.size start (matchesFrom program text fuel start last) := by
  induction fuel generalizing start last with
  | zero => trivial
  | succ fuel ih =>
    simp only [matchesFrom]
    split
    · trivial
    · rename_i m hm
      split
      · split
        · trivial
        · rename_i m' hm'
          exact ⟨(search?_isWithin hm').mono (Nat.le_succ start), ih _ _⟩
      · exact ⟨search?_isWithin hm, ih _ _⟩

end Pattern

namespace Regex

open CellExpr.Pattern

/-- The matches in a text do not overlap and come from left to right. -/
theorem findAll_inOrder (r : Regex) (s : List Char) : InOrder s.length 0 (r.findAll s) := by
  have h := @matchesFrom_inOrder r.program s.toArray (2 * s.toArray.size + 2) 0 none
  rwa [List.size_toArray] at h

theorem firstMatch?_isWithin {r : Regex} {s : List Char} {m : Match} (h : r.firstMatch? s = some m) :
    m.IsWithin s.length 0 := by
  have h := search?_isWithin h
  rwa [List.size_toArray] at h

end Regex

end CellExpr
