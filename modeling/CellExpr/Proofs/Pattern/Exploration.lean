import CellExpr.Proofs.Pattern.Emission
import CellExpr.Proofs.Pattern.Matches

/-!
# What a search finds

A search tries the ways of a program from one place after the other and passes over what it has tried before. It finds the first place
from which the program accepts, and a spot where it accepts from there (`search?_eq_some`); if it finds none there is none
(`search?_eq_none`). What has been tried is closed under steps (`Closed`), so that nothing is accepted from there.

So a search with a regular expression finds the leftmost place at which its tree matches, and what the tree matches there
(`search?_eq_some_tree`, `search?_eq_none_tree`). Of the ways in which the tree matches from this place it finds the preferred one.
-/

namespace CellExpr.Pattern

variable {program : Program} {text : Array Char} {tried tried' : Tried} {ways rest : List Way}

/-! ## What has been tried -/

/-- A pair of an instruction and a place has been tried. -/
def Tried.Has (tried : Tried) (text : Array Char) (instr place : Nat) : Prop := tried.get! (instr * (text.size + 1) + place) ≠ 0

theorem Tried.get!_set! (tried : Tried) {k : Nat} (hk : k < tried.size) (j : Nat) :
    (tried.set! k 1).get! j = if j = k then 1 else tried.get! j := by
  obtain ⟨data⟩ := tried
  show (data.set! k 1)[j]! = if j = k then 1 else data[j]!
  rw [Array.set!_eq_setIfInBounds, getElem!_def, getElem!_def, Array.getElem?_setIfInBounds]
  by_cases h : k = j
  · subst h
    rw [if_pos rfl, if_pos rfl, if_pos (show k < data.size from hk)]
  · rw [if_neg h, if_neg (Ne.symm h)]

/-- The pairs that have not been tried. -/
def Tried.left (tried : Tried) : Nat := tried.data.count 0

theorem Tried.left_set! (tried : Tried) {k : Nat} (hk : k < tried.size) (hzero : tried.get! k = 0) :
    Tried.left (tried.set! k 1) + 1 = tried.left := by
  obtain ⟨data⟩ := tried
  have hk' : k < data.size := hk
  have hget : data[k] = 0 := (getElem!_pos data k hk').symm.trans hzero
  have hpos : 0 < data.count 0 := Array.count_pos_iff.2 (hget ▸ Array.getElem_mem hk')
  show (data.set! k 1).count 0 + 1 = data.count 0
  rw [Array.set!_eq_setIfInBounds, Array.setIfInBounds, dif_pos hk', Array.count_set, hget]
  simp only [beq_self_eq_true, if_true, show ((1 : UInt8) == 0) = false from rfl, Bool.false_eq_true, if_false]
  omega

/-- Pairs of an instruction and a place within a text have numbers of their own. -/
theorem pair_inj {size p p' i i' : Nat} (hi : i ≤ size) (hi' : i' ≤ size) (h : p * (size + 1) + i = p' * (size + 1) + i') :
    p = p' ∧ i = i' := by
  have hp : (p * (size + 1) + i) / (size + 1) = (p' * (size + 1) + i') / (size + 1) := by rw [h]
  rw [Nat.mul_comm p, Nat.mul_comm p', Nat.mul_add_div (Nat.succ_pos size), Nat.mul_add_div (Nat.succ_pos size),
    Nat.div_eq_of_lt (Nat.lt_succ_of_le hi), Nat.div_eq_of_lt (Nat.lt_succ_of_le hi')] at hp
  obtain rfl : p = p' := hp
  exact ⟨rfl, Nat.add_left_cancel h⟩

/-- Nothing is left to do for a way: it has been tried, or it has no instruction. -/
def Tried.Settles (tried : Tried) (program : Program) (text : Array Char) (w : Way) : Prop :=
  tried.Has text w.instr w.place ∨ program.code[w.instr]? = none

/-- What has been tried has not been accepted, and each way that it opens is settled or still on the stack. -/
structure Closed (program : Program) (text : Array Char) (tried : Tried) (ways : List Way) : Prop where
  size : tried.size = program.code.size * (text.size + 1)
  steps : ∀ {instr place i}, place ≤ text.size → tried.Has text instr place → program.code[instr]? = some i →
    i ≠ .accept ∧ ∀ slots, ∀ w ∈ waysFrom text ⟨instr, place, slots⟩ i,
      tried.Settles program text w ∨ ∃ w' ∈ ways, w'.instr = w.instr ∧ w'.place = w.place

/-- Where a way leads does not depend on what has been remembered. -/
theorem exists_waysFrom {w u : Way} {i : Instr} (hw : u ∈ waysFrom text w i) (slots : Slots) :
    ∃ v ∈ waysFrom text ⟨w.instr, w.place, slots⟩ i, v.instr = u.instr ∧ v.place = u.place := by
  cases i with
  | accept => cases hw
  | chars k next =>
    simp only [waysFrom] at hw ⊢
    split at hw
    · split at hw
      · rename_i hk
        obtain rfl := List.mem_singleton.1 hw
        rw [if_pos hk]
        exact ⟨_, List.mem_singleton_self _, rfl, rfl⟩
      · cases hw
    · cases hw
  | look l next =>
    simp only [waysFrom] at hw ⊢
    split at hw
    · rename_i hl
      obtain rfl := List.mem_singleton.1 hw
      rw [if_pos hl]
      exact ⟨_, List.mem_singleton_self _, rfl, rfl⟩
    · cases hw
  | save slot next =>
    obtain rfl := List.mem_singleton.1 hw
    exact ⟨_, List.mem_singleton_self _, rfl, rfl⟩
  | split preferred other =>
    simp only [waysFrom, List.mem_cons, List.not_mem_nil, or_false] at hw
    rcases hw with rfl | rfl
    · exact ⟨_, .head _, rfl, rfl⟩
    · exact ⟨_, .tail _ (.head _), rfl, rfl⟩

/-- Nothing is accepted from what has been tried once the stack is empty. -/
theorem Closed.not_accepts (h : Closed program text tried []) {steps instr : Nat} {a b : Spot} (ha : a.1 ≤ text.size)
    (hsettled : tried.Settles program text ⟨instr, a.1, a.2⟩) : ¬Accepts program.code text steps instr a b := by
  intro haccepts
  induction haccepts with
  | done haccept =>
    rcases hsettled with htried | hnone
    · exact (h.steps ha htried haccept).1 rfl
    · exact absurd (haccept.symm.trans hnone) nofun
  | @step steps instr i a b w hi hw _ ih =>
    rcases hsettled with htried | hnone
    · rcases (h.steps ha htried hi).2 a.2 w hw with hsettled | ⟨_, hmem, _⟩
      · exact ih (waysFrom_isWithin ⟨Nat.zero_le _, ha⟩ i w hw).2 hsettled
      · cases hmem
    · exact absurd (hi.symm.trans hnone) nofun

/-! ## Trying ways -/

/-- What is accepted in the end is accepted from a way on the stack. -/
theorem explore_eq_some {fuel : Nat} {b : Spot} (h : (explore program text fuel ways tried).1 = some b) :
    ∃ w ∈ ways, ∃ steps, Accepts program.code text steps w.instr (w.place, w.slots) b := by
  induction fuel generalizing ways tried with
  | zero => cases ways <;> cases h
  | succ fuel ih =>
    cases ways with
    | nil => cases h
    | cons w rest =>
      simp only [explore] at h
      split at h
      · obtain ⟨w', hw', haccepts⟩ := ih h
        exact ⟨w', .tail _ hw', haccepts⟩
      · split at h
        · rename_i haccept
          cases h
          exact ⟨w, .head _, 0, .done haccept⟩
        · rename_i i hi
          obtain ⟨w', hw', steps, haccepts⟩ := ih h
          rcases List.mem_append.1 hw' with hw' | hw'
          · exact ⟨w, .head _, steps + 1, .step hi hw' haccepts⟩
          · exact ⟨w', .tail _ hw', steps, haccepts⟩
        · obtain ⟨w', hw', haccepts⟩ := ih h
          exact ⟨w', .tail _ hw', haccepts⟩

/-- A way that is settled may be taken off the stack. -/
theorem Closed.tail {w : Way} (h : Closed program text tried (w :: rest)) (hw : tried.Settles program text w) :
    Closed program text tried rest where
  size := h.size
  steps hplace htried hi := by
    obtain ⟨hne, hways⟩ := h.steps hplace htried hi
    refine ⟨hne, fun slots u hu => ?_⟩
    rcases hways slots u hu with hsettled | ⟨w', hw', hinstr, hplace'⟩
    · exact .inl hsettled
    · rcases List.mem_cons.1 hw' with rfl | hw'
      · rw [Tried.Settles, hinstr, hplace'] at hw
        exact .inl hw
      · exact .inr ⟨w', hw', hinstr, hplace'⟩

/-- The number of a pair whose instruction there is. -/
theorem Closed.pair_lt {w : Way} {i : Instr} (h : Closed program text tried ways) (hi : program.code[w.instr]? = some i)
    (hplace : w.place ≤ text.size) : w.instr * (text.size + 1) + w.place < tried.size := by
  obtain ⟨hinstr, _⟩ := Array.getElem?_eq_some_iff.1 hi
  rw [h.size]
  calc w.instr * (text.size + 1) + w.place < (w.instr + 1) * (text.size + 1) := by rw [Nat.succ_mul]; omega
    _ ≤ program.code.size * (text.size + 1) := Nat.mul_le_mul_right _ hinstr

section

variable {w : Way} {i : Instr}

theorem has_set! {k : Nat} (hk : k < tried.size) {instr place : Nat} :
    Tried.Has (tried.set! k 1) text instr place ↔ instr * (text.size + 1) + place = k ∨ tried.Has text instr place := by
  rw [Tried.Has, Tried.get!_set! tried hk]
  split
  · rename_i h
    exact iff_of_true (by decide) (.inl h)
  · rename_i h
    exact (or_iff_right h).symm

/-- A way that is tried is taken off the stack, and those that it opens are put there. -/
theorem Closed.step (h : Closed program text tried (w :: rest)) (hi : program.code[w.instr]? = some i) (hne : i ≠ .accept)
    (hplace : w.place ≤ text.size) :
    Closed program text (tried.set! (w.instr * (text.size + 1) + w.place) 1) (waysFrom text w i ++ rest) := by
  have hpair := h.pair_lt hi hplace
  refine ⟨?_, fun {instr place i'} hplace' htried hi' => ?_⟩
  · obtain ⟨data⟩ := tried
    rw [← h.size]
    exact Array.size_setIfInBounds
  · rcases (has_set! hpair).1 htried with heq | htried
    · obtain ⟨rfl, rfl⟩ := pair_inj hplace' hplace heq
      obtain rfl : i = i' := Option.some.inj (hi.symm.trans hi')
      refine ⟨hne, fun slots u hu => ?_⟩
      obtain ⟨v, hv, hinstr, hplace''⟩ := exists_waysFrom hu w.slots
      exact .inr ⟨v, List.mem_append_left _ hv, hinstr, hplace''⟩
    · obtain ⟨hne', hways⟩ := h.steps hplace' htried hi'
      refine ⟨hne', fun slots u hu => ?_⟩
      rcases hways slots u hu with (hsettled | hnone) | ⟨w', hw', hinstr, hplace''⟩
      · exact .inl (.inl ((has_set! hpair).2 (.inr hsettled)))
      · exact .inl (.inr hnone)
      · rcases List.mem_cons.1 hw' with rfl | hw'
        · exact .inl (.inl ((has_set! hpair).2 (.inl (by rw [hinstr, hplace'']))))
        · exact .inr ⟨w', List.mem_append_right _ hw', hinstr, hplace''⟩

theorem length_waysFrom_le (text : Array Char) (w : Way) (i : Instr) : (waysFrom text w i).length ≤ 2 := by
  cases i with
  | chars k next =>
    simp only [waysFrom]
    split
    · split <;> simp
    · simp
  | look l next =>
    simp only [waysFrom]
    split <;> simp
  | _ => simp [waysFrom]

end

/-- If nothing is accepted and there was fuel for each pair, all ways on the stack are settled in the end. -/
theorem explore_eq_none {fuel : Nat} (h : explore program text fuel ways tried = (none, tried')) (hclosed : Closed program text tried ways)
    (hplaces : ∀ w ∈ ways, w.place ≤ text.size) (hfuel : ways.length + 2 * tried.left ≤ fuel) :
    Closed program text tried' [] ∧ (∀ instr place, tried.Has text instr place → tried'.Has text instr place) ∧
      ∀ w ∈ ways, tried'.Settles program text w := by
  induction fuel generalizing ways tried with
  | zero =>
    obtain rfl := List.length_eq_zero_iff.1 (show ways.length = 0 by omega)
    obtain rfl : tried = tried' := (Prod.mk.inj h).2
    exact ⟨hclosed, fun _ _ h => h, nofun⟩
  | succ fuel ih =>
    cases ways with
    | nil =>
      obtain rfl : tried = tried' := (Prod.mk.inj h).2
      exact ⟨hclosed, fun _ _ h => h, nofun⟩
    | cons w rest =>
      have hplace := hplaces w (.head _)
      have hrest : ∀ w ∈ rest, w.place ≤ text.size := fun w' hw' => hplaces w' (.tail _ hw')
      rw [List.length_cons] at hfuel
      simp only [explore] at h
      split at h
      · rename_i htried
        have hw : tried.Settles program text w := .inl htried
        obtain ⟨hclosed', hmono, hsettled⟩ := ih h (hclosed.tail hw) hrest (by omega)
        exact ⟨hclosed', hmono, List.forall_mem_cons.2 ⟨.inl (hmono _ _ htried), hsettled⟩⟩
      · rename_i hnew
        split at h
        · cases h
        · rename_i i hne hi
          have hpair := hclosed.pair_lt hi hplace
          have hleft := tried.left_set! hpair (Decidable.not_not.1 hnew)
          have hways := length_waysFrom_le text w i
          obtain ⟨hclosed', hmono, hsettled⟩ := ih h (hclosed.step hi (fun heq => hne (heq ▸ rfl)) hplace)
            (List.forall_mem_append.2 ⟨fun u hu => (waysFrom_isWithin ⟨Nat.zero_le _, hplace⟩ i u hu).2, hrest⟩)
            (by rw [List.length_append]; omega)
          have hsettled := (List.forall_mem_append.1 hsettled).2
          exact ⟨hclosed', fun instr place hhas => hmono instr place ((has_set! hpair).2 (.inr hhas)),
            List.forall_mem_cons.2 ⟨.inl (hmono _ _ ((has_set! hpair).2 (.inl rfl))), hsettled⟩⟩
        · rename_i hnone
          obtain ⟨hclosed', hmono, hsettled⟩ := ih h (hclosed.tail (.inr hnone)) hrest (by omega)
          exact ⟨hclosed', hmono, List.forall_mem_cons.2 ⟨.inr hnone, hsettled⟩⟩

/-! ## Trying places -/

/-- A program accepts from a place. -/
def Program.AcceptsFrom (program : Program) (text : Array Char) (start : Nat) (b : Spot) : Prop :=
  ∃ steps, Accepts program.code text steps program.entry (start, []) b

variable {fuel count start : Nat} {m : Match}

theorem closed_nothing (program : Program) (text : Array Char) :
    Closed program text ⟨Array.replicate (program.code.size * (text.size + 1)) 0⟩ [] where
  size := Array.size_replicate
  steps {instr place i} _ htried _ := by
    refine absurd ?_ htried
    show (Array.replicate (program.code.size * (text.size + 1)) (0 : UInt8))[_]! = 0
    rw [getElem!_def, Array.getElem?_replicate]
    split <;> rename_i h <;> split at h <;> cases h <;> rfl

theorem Tried.left_le (tried : Tried) : tried.left ≤ tried.size := Array.count_le_size

theorem Closed.push (h : Closed program text tried []) (ways : List Way) : Closed program text tried ways where
  size := h.size
  steps hplace htried hi := by
    obtain ⟨hne, hways⟩ := h.steps hplace htried hi
    exact ⟨hne, fun slots w hw => .inl ((hways slots w hw).resolve_right nofun)⟩

/-- What comes of trying one place. -/
theorem explore_start (hclosed : Closed program text tried [])
    (hfuel : 2 * (program.code.size * (text.size + 1)) + 2 ≤ fuel) (hstart : start ≤ text.size)
    (h : explore program text fuel [⟨program.entry, start, []⟩] tried = (none, tried')) :
    Closed program text tried' [] ∧ ∀ b, ¬program.AcceptsFrom text start b := by
  have hleft := Tried.left_le tried
  rw [hclosed.size] at hleft
  obtain ⟨hclosed', -, hsettled⟩ := explore_eq_none h (hclosed.push _) (List.forall_mem_singleton.2 hstart)
    (by rw [List.length_singleton]; omega)
  exact ⟨hclosed', fun b ⟨steps, haccepts⟩ => hclosed'.not_accepts hstart (hsettled _ (.head _)) haccepts⟩

theorem searchFrom_eq_none (hclosed : Closed program text tried []) (hfuel : 2 * (program.code.size * (text.size + 1)) + 2 ≤ fuel)
    (hcount : start + count ≤ text.size + 1) (h : searchFrom program text fuel count start tried = none) {i : Nat} (hi : start ≤ i)
    (hi' : i < start + count) (b : Spot) : ¬program.AcceptsFrom text i b := by
  induction count generalizing start tried with
  | zero => omega
  | succ count ih =>
    simp only [searchFrom] at h
    split at h
    · cases h
    · rename_i tried' hexplore
      obtain ⟨hclosed', hnone⟩ := explore_start hclosed hfuel (by omega) hexplore
      by_cases heq : start = i
      · exact heq ▸ hnone b
      · exact ih hclosed' (by omega) h (by omega) (by omega)

theorem searchFrom_eq_some (hclosed : Closed program text tried []) (hfuel : 2 * (program.code.size * (text.size + 1)) + 2 ≤ fuel)
    (hcount : start + count ≤ text.size + 1) (h : searchFrom program text fuel count start tried = some m) :
    program.AcceptsFrom text m.start (m.stop, m.slots) ∧ ∀ i, start ≤ i → i < m.start → ∀ b, ¬program.AcceptsFrom text i b := by
  induction count generalizing start tried with
  | zero => cases h
  | succ count ih =>
    simp only [searchFrom] at h
    split at h
    · rename_i stop slots _ hexplore
      cases h
      obtain ⟨w, hw, haccepts⟩ := explore_eq_some (congrArg Prod.fst hexplore)
      obtain rfl := List.mem_singleton.1 hw
      exact ⟨haccepts, fun i hi hi' => absurd hi (Nat.not_le_of_lt hi')⟩
    · rename_i tried' hexplore
      obtain ⟨hclosed', hnone⟩ := explore_start hclosed hfuel (by omega) hexplore
      obtain ⟨haccepts, hbefore⟩ := ih hclosed' (by omega) h
      refine ⟨haccepts, fun i hi hi' => ?_⟩
      by_cases heq : start = i
      · exact heq ▸ hnone
      · exact hbefore i (by omega) hi'

/-- A search that finds nothing has nothing to find. -/
theorem search?_eq_none (h : program.search? text start = none) {i : Nat} (hi : start ≤ i) (hi' : i ≤ text.size) (b : Spot) :
    ¬program.AcceptsFrom text i b := by
  unfold Program.search? at h
  split at h
  · omega
  · exact searchFrom_eq_none (closed_nothing program text) (Nat.le_refl _) (by omega) h hi (by omega) b

/-- A search finds the first place from which the program accepts. -/
theorem search?_eq_some (h : program.search? text start = some m) :
    program.AcceptsFrom text m.start (m.stop, m.slots) ∧ ∀ i, start ≤ i → i < m.start → ∀ b, ¬program.AcceptsFrom text i b := by
  unfold Program.search? at h
  split at h
  · cases h
  · exact searchFrom_eq_some (closed_nothing program text) (Nat.le_refl _) (by omega) h

end CellExpr.Pattern

namespace CellExpr

open CellExpr.Pattern

namespace Regex

/-! ## Regular expressions -/

theorem isSome_read? (r : Regex) : (Pattern.read? r.source.toList r.ignoreCase).isSome = true := by
  have h := r.compiled
  unfold Pattern.compile? at h
  exact Option.isSome_of_mem (Option.bind_eq_some_iff.1 h).choose_spec.1

/-- The tree of a regular expression. -/
def tree (r : Regex) : Node := (Pattern.read? r.source.toList r.ignoreCase).get r.isSome_read?

theorem read?_eq (r : Regex) : Pattern.read? r.source.toList r.ignoreCase = some r.tree := (Option.some_get _).symm

theorem compile?_tree (r : Regex) : r.tree.compile? = some r.program := by
  have h := r.compiled
  rwa [Pattern.compile?, read?_eq] at h

/-- The tree is what the source is read as. -/
theorem tree_eq_of_read? {r : Regex} {node : Node} (h : Pattern.read? r.source.toList r.ignoreCase = some node) : r.tree = node :=
  Option.some.inj (r.read?_eq.symm.trans h)

/-- A regular expression matches a text from a place to a spot. -/
def MatchesFrom (r : Regex) (s : List Char) (start : Nat) (b : Spot) : Prop := r.tree.Matches s.toArray (start, []) b

theorem acceptsFrom_iff {r : Regex} {s : List Char} {start : Nat} {b : Spot} :
    r.program.AcceptsFrom s.toArray start b ↔ r.MatchesFrom s start b := accepts_iff_matches r.compile?_tree

variable {r : Regex} {s : List Char} {start : Nat} {m : Match}

/-- A search that finds something finds the leftmost place from which there is a match. -/
theorem search?_eq_some_tree (h : r.program.search? s.toArray start = some m) :
    r.MatchesFrom s m.start (m.stop, m.slots) ∧ ∀ i, start ≤ i → i < m.start → ∀ b, ¬r.MatchesFrom s i b := by
  obtain ⟨haccepts, hbefore⟩ := search?_eq_some h
  exact ⟨acceptsFrom_iff.1 haccepts, fun i hi hi' b hb => hbefore i hi hi' b (acceptsFrom_iff.2 hb)⟩

/-- A search that finds nothing has no match to find. -/
theorem search?_eq_none_tree (h : r.program.search? s.toArray start = none) {i : Nat} (hi : start ≤ i) (hi' : i ≤ s.length) (b : Spot) :
    ¬r.MatchesFrom s i b := fun hb => search?_eq_none h hi (by rwa [List.size_toArray]) b (acceptsFrom_iff.2 hb)

/-! ## All matches -/

theorem findAll_of_none (h : r.firstMatch? s = none) : r.findAll s = [] := by
  rw [firstMatch?] at h
  rw [findAll, Program.allMatches, Pattern.matchesFrom, h]

/-- Nothing has been found before the first match, so that it is not passed over. -/
theorem findAll_of_some (h : r.firstMatch? s = some m) :
    r.findAll s = m :: Pattern.matchesFrom r.program s.toArray (2 * s.length + 1) m.stop (some m.stop) := by
  rw [firstMatch?] at h
  rw [findAll, Program.allMatches, Pattern.matchesFrom, h]
  exact if_neg fun hlast => Option.some_ne_none _ hlast.2.symm

/-- The first match is the first one of all matches. -/
theorem head?_findAll (r : Regex) (s : List Char) : (r.findAll s).head? = r.firstMatch? s := by
  cases h : r.firstMatch? s with
  | none => rw [findAll_of_none h, List.head?_nil]
  | some m => rw [findAll_of_some h, List.head?_cons]

end Regex

end CellExpr
