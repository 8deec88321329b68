import CellExpr.Proofs.Pattern.Anchored
import CellExpr.Proofs.Pattern.Literals

/-!
# What a literal pattern finds

A pattern for a literal text matches where the text stands (`matchesFrom_literal_iff`). It finds the leftmost occurrences that do not
overlap (`findAll_literal`); the empty text is found at each place (`findAll_empty`). As a whole it matches
no text but the literal one (`eq_of_matchesWhole_literal`).
-/

namespace CellExpr

open CellExpr.Pattern CellExpr.Text Relation

namespace Pattern

variable {c d : Char} {p s : List Char} {a b : Spot}

/-! ## Trees -/

theorem has_single : (CharClass.single c).has d = true ↔ d = c := by
  have hhas : (CharClass.single c).has d = if d.toNat < c.toNat then false else if d.toNat ≤ c.toNat then true else false := rfl
  rw [hhas]
  constructor
  · intro h
    refine Char.toNat_inj.1 ?_
    split at h
    · cases h
    · split at h
      · omega
      · cases h
  · rintro rfl
    rw [if_neg (Nat.lt_irrefl _), if_pos (Nat.le_refl _)]

theorem cons_prefix_drop_iff {i : Nat} : c :: p <+: s.drop i ↔ s[i]? = some c ∧ p <+: s.drop (i + 1) := by
  cases hdrop : s.drop i with
  | nil =>
    have hnone : s[i]? = none := List.getElem?_eq_none_iff.2 (List.drop_eq_nil_iff.1 hdrop)
    rw [hnone, List.prefix_nil]
    exact iff_of_false (List.cons_ne_nil _ _) nofun
  | cons x rest =>
    have hsome : s[i]? = some x := by rw [← List.head?_drop, hdrop, List.head?_cons]
    have hrest : s.drop (i + 1) = rest := by rw [← List.drop_drop, hdrop, List.drop_succ_cons, List.drop_zero]
    rw [List.cons_prefix_cons, hsome, hrest, Option.some.injEq, eq_comm]

theorem matches_letters (p s : List Char) (a b : Spot) :
    Node.MatchesAll s.toArray (p.map letterNode) a b ↔ p <+: s.drop a.1 ∧ b = (a.1 + p.length, a.2) := by
  induction p generalizing a with
  | nil => exact ⟨fun h => ⟨List.nil_prefix, h.symm⟩, fun h => h.2.symm⟩
  | cons c p ih =>
    have hletter : (letterNode c).Matches s.toArray a = fun m => s[a.1]? = some c ∧ m = (a.1 + 1, a.2) := by
      refine funext fun m => propext (and_congr_left fun _ => ?_)
      simp only [List.getElem?_toArray, has_single, exists_eq_right]
    show Comp ((letterNode c).Matches s.toArray) (Node.MatchesAll s.toArray (p.map letterNode)) a b ↔ _
    rw [Comp, hletter, cons_prefix_drop_iff, List.length_cons, and_assoc]
    constructor
    · rintro ⟨m, ⟨hc, rfl⟩, hrest⟩
      obtain ⟨hp, rfl⟩ := (ih _).1 hrest
      exact ⟨hc, hp, Prod.ext (Nat.add_right_comm _ _ _ ▸ rfl) rfl⟩
    · rintro ⟨hc, hp, rfl⟩
      exact ⟨(a.1 + 1, a.2), ⟨hc, rfl⟩, (ih _).2 ⟨hp, Prod.ext (Nat.add_right_comm _ _ _ ▸ rfl) rfl⟩⟩

/-- The tree of a literal text matches where the text stands. -/
theorem matches_literalNode : (literalNode p).Matches s.toArray a b ↔ p <+: s.drop a.1 ∧ b = (a.1 + p.length, a.2) := by
  have hrow : (literalNode p).Matches s.toArray = Node.MatchesAll s.toArray (p.map letterNode) := Node.matches_row _
  rw [hrow, matches_letters]

/-- The match of a literal text at a place. -/
def literalMatch (p : List Char) (place : Nat) : Match := ⟨place, place + p.length, []⟩

end Pattern

/-! ## Searches -/

namespace Regex

variable {r : Regex} {p s : List Char} {start i : Nat} {b : Spot}

theorem matchesFrom_literal_iff (h : r.tree = literalNode p) :
    r.MatchesFrom s i b ↔ p <+: s.drop i ∧ b = (i + p.length, []) := by
  rw [MatchesFrom, h, matches_literalNode]

/-- A search for a literal text finds the first place at which it stands. -/
theorem search?_literal (h : r.tree = literalNode p) (s : List Char) (start : Nat) :
    (∃ i, IsLeast {q | start ≤ q ∧ StandsAt p s q} i ∧ r.program.search? s.toArray start = some (literalMatch p i)) ∨
      (∀ i, start ≤ i → ¬StandsAt p s i) ∧ r.program.search? s.toArray start = none := by
  cases hfound : r.program.search? s.toArray start with
  | none =>
    refine .inr ⟨fun i hi hstands => search?_eq_none_tree hfound hi hstands.1 (i + p.length, []) ?_, rfl⟩
    exact (matchesFrom_literal_iff h).2 ⟨hstands.2, rfl⟩
  | some m =>
    obtain ⟨i, stop, slots⟩ := m
    obtain ⟨hmatch, hbefore⟩ := search?_eq_some_tree hfound
    obtain ⟨hstands, hspot⟩ := (matchesFrom_literal_iff h).1 hmatch
    obtain ⟨rfl, rfl⟩ : stop = i + p.length ∧ slots = [] := Prod.mk.inj hspot
    obtain ⟨hstart, hstop, hlength⟩ := search?_isWithin hfound
    rw [List.size_toArray] at hlength
    refine .inl ⟨i, ⟨⟨hstart, Nat.le_trans hstop hlength, hstands⟩, fun q hq => Nat.le_of_not_lt fun hlt => ?_⟩, rfl⟩
    exact hbefore q hq.1 hlt _ ((matchesFrom_literal_iff h).2 ⟨hq.2.2, rfl⟩)

theorem search?_of_isLeast (h : r.tree = literalNode p) (hi : IsLeast {q | start ≤ q ∧ StandsAt p s q} i) :
    r.program.search? s.toArray start = some (literalMatch p i) := by
  rcases search?_literal h s start with ⟨j, hj, hfound⟩ | ⟨hnone, -⟩
  · rw [hfound, hj.unique hi]
  · exact absurd hi.1.2 (hnone i hi.1.1)

theorem search?_of_none (h : r.tree = literalNode p) (hnone : ∀ i, start ≤ i → ¬StandsAt p s i) :
    r.program.search? s.toArray start = none := by
  rcases search?_literal h s start with ⟨i, hi, -⟩ | ⟨-, hfound⟩
  · exact absurd hi.1.2 (hnone i hi.1.1)
  · exact hfound

/-! ## All matches -/

theorem matchesFrom_literal (h : r.tree = literalNode p) (hp : p ≠ []) {places : List Nat} (hplaces : Occurrences p s start places)
    {fuel : Nat} (hfuel : s.length + 1 ≤ fuel + start) (last : Option Nat) :
    Pattern.matchesFrom r.program s.toArray fuel start last = places.map (literalMatch p) := by
  induction hplaces generalizing fuel last with
  | none hnone =>
    cases fuel with
    | zero => rfl
    | succ fuel => rw [Pattern.matchesFrom, search?_of_none h hnone, List.map_nil]
  | @next start i places hi hrest ih =>
    have hpos := List.length_pos_iff.2 hp
    have hroom := hi.1.2.le
    have hstart := hi.1.1
    obtain ⟨fuel, rfl⟩ := Nat.exists_eq_succ_of_ne_zero (show fuel ≠ 0 by omega)
    have hlong : ¬(literalMatch p i).start = (literalMatch p i).stop := show ¬i = i + p.length by omega
    rw [Pattern.matchesFrom, search?_of_isLeast h hi]
    dsimp only
    rw [if_neg fun hempty => hlong hempty.1, List.map_cons, List.cons.injEq]
    exact ⟨rfl, ih (by omega) _⟩

/-- The matches of a literal text are its leftmost occurrences. -/
theorem findAll_literal (h : r.tree = literalNode p) (hp : p ≠ []) {places : List Nat} (hplaces : Occurrences p s 0 places) :
    r.findAll s = places.map (literalMatch p) :=
  matchesFrom_literal h hp hplaces (by rw [List.size_toArray]; omega) none

theorem isLeast_standsAt_nil (hstart : start ≤ s.length) : IsLeast {q | start ≤ q ∧ StandsAt [] s q} start :=
  ⟨⟨Nat.le_refl start, hstart, List.nil_prefix⟩, fun _ hq => hq.1⟩

/-- After an empty match the search goes on one place further. -/
theorem matchesFrom_empty (h : r.tree = literalNode []) {count fuel : Nat} (hcount : start + count = s.length) (hfuel : count ≤ fuel) :
    Pattern.matchesFrom r.program s.toArray fuel start (some start) = (List.range' (start + 1) count).map (literalMatch []) := by
  induction count generalizing fuel start with
  | zero =>
    cases fuel with
    | zero => rfl
    | succ fuel =>
      have hnone : ∀ i, start + 1 ≤ i → ¬StandsAt [] s i := fun i hi hstands => by
        have := hstands.1
        omega
      rw [Pattern.matchesFrom, search?_of_isLeast h (isLeast_standsAt_nil (by omega))]
      dsimp only
      rw [if_pos ⟨rfl, rfl⟩, search?_of_none h hnone]
      rfl
  | succ count ih =>
    obtain ⟨fuel, rfl⟩ := Nat.exists_eq_succ_of_ne_zero (show fuel ≠ 0 by omega)
    rw [Pattern.matchesFrom, search?_of_isLeast h (isLeast_standsAt_nil (by omega))]
    dsimp only
    rw [if_pos ⟨rfl, rfl⟩, search?_of_isLeast h (isLeast_standsAt_nil (by omega)), List.range'_succ, List.map_cons, List.cons.injEq]
    exact ⟨rfl, @ih (start + 1) fuel (by omega) (by omega)⟩

/-- The empty text is found at each place. -/
theorem findAll_empty (h : r.tree = literalNode []) (s : List Char) :
    r.findAll s = (List.range (s.length + 1)).map (literalMatch []) := by
  have hfirst : r.firstMatch? s = some (literalMatch [] 0) := search?_of_isLeast h (isLeast_standsAt_nil (Nat.zero_le _))
  rw [findAll_of_some hfirst, List.range_eq_range', List.range'_succ, List.map_cons, List.cons.injEq]
  exact ⟨rfl, matchesFrom_empty h (Nat.zero_add _) (by omega)⟩

/-! ## Literal texts -/

section

variable {text : String}

theorem tree_ofLiteral (h : ofLiteral text = .ok r) : r.tree = literalNode text.toList :=
  tree_of_build h (by rw [String.toList_ofList]; exact read?_escape _)

/-- There is a regular expression for a literal text just if this has at most 327,673 bytes. -/
theorem exists_ofLiteral_iff : (∃ r, ofLiteral text = .ok r) ↔ byteLength text.toList ≤ 327673 := by
  rw [ofLiteral, exists_build_iff, String.toList_ofList, read?_escape, ← fits_literalNode_iff]
  exact ⟨fun ⟨_, hnode, hfits⟩ => Option.some.inj hnode ▸ hfits, fun hfits => ⟨_, rfl, hfits⟩⟩

/-- The regular expression for a literal text has a counterpart for whole texts. -/
theorem exists_anchored_ofLiteral (h : ofLiteral text = .ok r) : ∃ whole, r.anchored = .ok whole ∧ whole.tree = r.tree.anchored := by
  obtain ⟨hsource, hcase⟩ := build_eq_ok_iff.1 h
  have hread : read? (anchoredSource r.source.toList) r.ignoreCase = some (literalNode text.toList).anchored := by
    rw [hsource, hcase, String.toList_ofList]
    exact read?_anchored_escape _
  have hfits : (literalNode text.toList).anchored.fits = true :=
    fits_anchored_literalNode ((fits_literalNode_iff _).2 (exists_ofLiteral_iff.1 ⟨r, h⟩))
  obtain ⟨whole, hwhole⟩ := exists_anchored_of_read? hread hfits
  refine ⟨whole, hwhole, ?_⟩
  rw [tree_ofLiteral h]
  exact Option.some.inj ((read?_of_anchored hwhole).symm.trans hread)

/-- A literal text matches itself as a whole. -/
theorem matchesWhole_literal (h : r.tree = literalNode p) : r.MatchesFrom p 0 (p.length, []) :=
  (matchesFrom_literal_iff h).2 ⟨List.prefix_refl p, Prod.ext (Nat.zero_add _).symm rfl⟩

/-- It matches no other text as a whole. -/
theorem eq_of_matchesWhole_literal {slots : Slots} (h : r.tree = literalNode p) (hmatch : r.MatchesFrom s 0 (s.length, slots)) :
    s = p := by
  obtain ⟨hbegins, hspot⟩ := (matchesFrom_literal_iff h).1 hmatch
  exact (hbegins.eq_of_length (by rw [List.drop_zero, (Prod.mk.inj hspot).1, Nat.zero_add])).symm

end

end Regex

end CellExpr
