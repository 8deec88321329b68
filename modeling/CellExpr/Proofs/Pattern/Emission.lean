import CellExpr.Pattern.Search
import Mathlib.Logic.Relation

/-!
# What a tree matches and its program accepts

A tree leads from a place in the text to a place further on, and remembers where its groups begin and end (`Node.Matches`). A row
matches what its parts match one after the other (`matches_row`) and has their groups (`groups_row`), however it is made flat.

A program accepts a way if it can come from it to the end (`Accepts`). The instructions of a tree lead from their entry to the
instruction after them just as the tree matches (`emit_emits`), so that a program accepts from a place on what its tree matches there
(`accepts_iff_matches`).
-/

namespace CellExpr.Pattern

open Relation

/-- A place in a text and the places remembered on the way there, the latest first. -/
abbrev Spot := Nat × Slots

/-- A way between spots that is gone so many times. -/
def Turns (way : Spot → Spot → Prop) : (count : Nat) → Spot → Spot → Prop
  | 0 => Eq
  | count + 1 => Comp way (Turns way count)

namespace Node

/-- What a tree matches in a text: it leads from one spot to another. A loop takes at least the least number of its turns, also where
the greatest is below it. -/
def Matches (text : Array Char) : Node → Spot → Spot → Prop
  | empty => Eq
  | chars k => fun a b => (∃ c, text[a.1]? = some c ∧ k.has c = true) ∧ b = (a.1 + 1, a.2)
  | look l => fun a b => l.holds text a.1 = true ∧ b = a
  | group index _ body => fun a b =>
    ∃ slots, body.Matches text (a.1, (2 * index, a.1) :: a.2) (b.1, slots) ∧ b.2 = (2 * index + 1, b.1) :: slots
  | loop body least most _ => fun a b =>
    ∃ count, least ≤ count ∧ (∀ m, most = some m → count ≤ max least m) ∧ Turns (body.Matches text) count a b
  | seq first second => Comp (first.Matches text) (second.Matches text)
  | alt first second => fun a b => first.Matches text a b ∨ second.Matches text a b

/-- What trees match one after the other. -/
def MatchesAll (text : Array Char) : List Node → Spot → Spot → Prop
  | [] => Eq
  | node :: rest => Comp (node.Matches text) (MatchesAll text rest)

variable {text : Array Char}

/-! ## Rows -/

theorem matchesAll_append (nodes rest : List Node) :
    MatchesAll text (nodes ++ rest) = Comp (MatchesAll text nodes) (MatchesAll text rest) := by
  induction nodes with
  | nil => exact eq_comp.symm
  | cons node nodes ih => rw [List.cons_append, MatchesAll, ih, ← comp_assoc, MatchesAll]

theorem matchesAll_factorsOnto (node : Node) (rest : List Node) :
    MatchesAll text (node.factorsOnto rest) = Comp (node.Matches text) (MatchesAll text rest) := by
  induction node generalizing rest with
  | empty => exact eq_comp.symm
  | seq first second ihFirst ihSecond => rw [factorsOnto, ihFirst, ihSecond, ← comp_assoc, Matches]
  | _ => rfl

theorem matchesAll_flatMap_factors (nodes : List Node) : MatchesAll text (nodes.flatMap factors) = MatchesAll text nodes := by
  induction nodes with
  | nil => rfl
  | cons node nodes ih =>
    have hfactors : MatchesAll text node.factors = node.Matches text := (matchesAll_factorsOnto node []).trans comp_eq
    rw [List.flatMap_cons, matchesAll_append, ih, hfactors, MatchesAll]

theorem matches_foldl_seq (node : Node) (nodes : List Node) :
    (nodes.foldl seq node).Matches text = Comp (node.Matches text) (MatchesAll text nodes) := by
  induction nodes generalizing node with
  | nil => exact comp_eq.symm
  | cons next nodes ih => rw [List.foldl_cons, ih, Matches, comp_assoc, MatchesAll]

/-- A row matches what its parts match one after the other. -/
theorem matches_row (nodes : List Node) : (row nodes).Matches text = MatchesAll text nodes := by
  rw [← matchesAll_flatMap_factors, row]
  cases nodes.flatMap factors with
  | nil => rfl
  | cons node rest => exact matches_foldl_seq node rest

/-! ## Groups of rows -/

theorem groups_factorsOnto (node : Node) (rest : List Node) :
    (node.factorsOnto rest).flatMap groups = node.groups ++ rest.flatMap groups := by
  induction node generalizing rest with
  | empty => rfl
  | seq first second ihFirst ihSecond => rw [factorsOnto, ihFirst, ihSecond, groups, List.append_assoc]
  | _ => rfl

theorem groups_flatMap_factors (nodes : List Node) : (nodes.flatMap factors).flatMap groups = nodes.flatMap groups := by
  induction nodes with
  | nil => rfl
  | cons node nodes ih =>
    have hfactors : node.factors.flatMap groups = node.groups := (groups_factorsOnto node []).trans (List.append_nil _)
    rw [List.flatMap_cons, List.flatMap_append, ih, hfactors, List.flatMap_cons]

theorem groups_foldl_seq (node : Node) (nodes : List Node) : (nodes.foldl seq node).groups = node.groups ++ nodes.flatMap groups := by
  induction nodes generalizing node with
  | nil => exact (List.append_nil _).symm
  | cons next nodes ih => rw [List.foldl_cons, ih, groups, List.append_assoc, List.flatMap_cons]

/-- A row has the groups of its parts. -/
theorem groups_row (nodes : List Node) : (row nodes).groups = nodes.flatMap groups := by
  rw [← groups_flatMap_factors, row]
  cases nodes.flatMap factors with
  | nil => rfl
  | cons node rest => exact groups_foldl_seq node rest

end Node

end CellExpr.Pattern

namespace CellExpr.Pattern

open Relation

variable {text : Array Char} {code : Code} {way other : Spot → Spot → Prop} {a b c : Spot} {entry next middle place : Nat}

/-! ## Accepting -/

/-- Starting with an instruction at a spot, code can come to its end at another spot in so many steps. -/
inductive Accepts (code : Code) (text : Array Char) : (steps : Nat) → (instr : Nat) → Spot → Spot → Prop
  | done {instr : Nat} {a : Spot} (h : code[instr]? = some .accept) : Accepts code text 0 instr a a
  | step {steps instr : Nat} {i : Instr} {a b : Spot} {w : Way} (hi : code[instr]? = some i)
      (hw : w ∈ waysFrom text ⟨instr, a.1, a.2⟩ i) (rest : Accepts code text steps w.instr (w.place, w.slots) b) :
      Accepts code text (steps + 1) instr a b

/-- All that an instruction other than the end can do is to open its ways. -/
theorem Accepts.cases_of_ne {i : Instr} {steps : Nat} (h : Accepts code text steps place a c) (hi : code[place]? = some i)
    (hne : i ≠ .accept) : ∃ m < steps, ∃ w ∈ waysFrom text ⟨place, a.1, a.2⟩ i, Accepts code text m w.instr (w.place, w.slots) c := by
  cases h with
  | done h =>
    rw [hi, Option.some.injEq] at h
    exact absurd h hne
  | @step m _ _ _ _ w hi' hw rest =>
    rw [hi, Option.some.injEq] at hi'
    subst hi'
    exact ⟨m, Nat.lt_succ_self m, w, hw, rest⟩

/-- An instruction that chooses between two others, either of which may be preferred. -/
def Forks (code : Code) (place x y : Nat) : Prop := code[place]? = some (.split x y) ∨ code[place]? = some (.split y x)

theorem forks_turn (greedy : Bool) {x y : Nat} (h : code[place]? = some (.turn greedy x y)) : Forks code place x y := by
  cases greedy with
  | true => exact .inl h
  | false => exact .inr h

theorem Forks.sound {steps x y : Nat} (hi : Forks code place x y) (h : Accepts code text steps place a c) :
    ∃ m < steps, Accepts code text m x a c ∨ Accepts code text m y a c := by
  rcases hi with hi | hi <;>
    obtain ⟨m, hm, w, hw, rest⟩ := h.cases_of_ne hi nofun <;>
    rw [waysFrom, List.mem_cons, List.mem_singleton] at hw <;>
    rcases hw with rfl | rfl
  · exact ⟨m, hm, .inl rest⟩
  · exact ⟨m, hm, .inr rest⟩
  · exact ⟨m, hm, .inr rest⟩
  · exact ⟨m, hm, .inl rest⟩

theorem Forks.complete {steps x y : Nat} (hi : Forks code place x y)
    (h : Accepts code text steps x a c ∨ Accepts code text steps y a c) : Accepts code text (steps + 1) place a c := by
  rcases hi with hi | hi <;> rcases h with h | h
  · exact .step hi (.head _) h
  · exact .step hi (.tail _ (.head _)) h
  · exact .step hi (.tail _ (.head _)) h
  · exact .step hi (.head _) h

/-- Code from an entry to an instruction after it leads from one spot to another just as a way does. -/
structure Realizes (code : Code) (text : Array Char) (way : Spot → Spot → Prop) (entry next : Nat) : Prop where
  sound : ∀ {steps a c}, Accepts code text steps entry a c → ∃ b, way a b ∧ ∃ m ≤ steps, Accepts code text m next b c
  complete : ∀ {steps a b c}, way a b → Accepts code text steps next b c → ∃ m, Accepts code text m entry a c

namespace Realizes

theorem refl (code : Code) (text : Array Char) (next : Nat) : Realizes code text Eq next next where
  sound h := ⟨_, rfl, _, Nat.le_refl _, h⟩
  complete := by
    rintro steps a b c rfl h
    exact ⟨steps, h⟩

theorem congr (h : Realizes code text way entry next) (hway : ∀ a b, way a b ↔ other a b) : Realizes code text other entry next :=
  (funext₂ fun a b => propext (hway a b) : way = other) ▸ h

theorem comp (h : Realizes code text way entry middle) (h' : Realizes code text other middle next) :
    Realizes code text (Comp way other) entry next where
  sound hentry := by
    obtain ⟨b, hb, m, hm, hmiddle⟩ := h.sound hentry
    obtain ⟨b', hb', m', hm', hnext⟩ := h'.sound hmiddle
    exact ⟨b', ⟨b, hb, hb'⟩, m', Nat.le_trans hm' hm, hnext⟩
  complete := by
    rintro steps a c d ⟨b, hb, hb'⟩ hnext
    obtain ⟨m, hmiddle⟩ := h'.complete hb' hnext
    exact h.complete hb hmiddle

/-- An instruction that opens at most one way, under a condition. -/
theorem instr {i : Instr} (condition : Spot → Prop) (target : Spot → Spot) (hi : code[place]? = some i) (hne : i ≠ .accept)
    (hways : ∀ a w, w ∈ waysFrom text ⟨place, a.1, a.2⟩ i ↔ condition a ∧ w = ⟨next, (target a).1, (target a).2⟩) :
    Realizes code text (fun a b => condition a ∧ b = target a) place next where
  sound h := by
    obtain ⟨m, hm, w, hw, rest⟩ := h.cases_of_ne hi hne
    obtain ⟨hcondition, rfl⟩ := (hways _ w).1 hw
    exact ⟨_, ⟨hcondition, rfl⟩, m, Nat.le_of_lt hm, rest⟩
  complete := by
    rintro steps a b c ⟨hcondition, rfl⟩ hnext
    exact ⟨steps + 1, .step hi ((hways _ _).2 ⟨hcondition, rfl⟩) hnext⟩

theorem chars {k : CharClass} (hi : code[place]? = some (.chars k next)) :
    Realizes code text ((Node.chars k).Matches text) place next := by
  refine instr _ (fun a => (a.1 + 1, a.2)) hi nofun fun a w => ?_
  cases h : text[a.1]? with
  | none => simp only [waysFrom, h, List.not_mem_nil, reduceCtorEq, false_and, exists_false]
  | some c => by_cases hk : k.has c <;> simp [waysFrom, h, hk]

theorem look {l : Look} (hi : code[place]? = some (.look l next)) : Realizes code text ((Node.look l).Matches text) place next := by
  refine instr _ id hi nofun fun a w => ?_
  by_cases h : l.holds text a.1 <;> simp [waysFrom, h]

theorem save {slot : Nat} (hi : code[place]? = some (.save slot next)) :
    Realizes code text (fun a b => b = (a.1, (slot, a.1) :: a.2)) place next := by
  refine (instr (fun _ => True) (fun a => (a.1, (slot, a.1) :: a.2)) hi nofun fun a w => ?_).congr
    fun a b => and_iff_right trivial
  rw [waysFrom, List.mem_singleton, true_and]

/-- A choice between two instructions. -/
theorem fork {x y : Nat} (hi : Forks code place x y) (hx : Realizes code text way x next) (hy : Realizes code text other y next) :
    Realizes code text (fun a b => way a b ∨ other a b) place next where
  sound h := by
    obtain ⟨m, hm, h | h⟩ := hi.sound h
    · obtain ⟨b, hb, m', hm', hnext⟩ := hx.sound h
      exact ⟨b, .inl hb, m', by omega, hnext⟩
    · obtain ⟨b, hb, m', hm', hnext⟩ := hy.sound h
      exact ⟨b, .inr hb, m', by omega, hnext⟩
  complete hab hnext := by
    rcases hab with hab | hab
    · obtain ⟨m, hm⟩ := hx.complete hab hnext
      exact ⟨m + 1, hi.complete (.inl hm)⟩
    · obtain ⟨m, hm⟩ := hy.complete hab hnext
      exact ⟨m + 1, hi.complete (.inr hm)⟩

end Realizes

/-! ## Turns -/

theorem turns_one : Turns way 1 = way := comp_eq

theorem turns_succ' (way : Spot → Spot → Prop) (count : Nat) : Turns way (count + 1) = Comp (Turns way count) way := by
  induction count with
  | zero => exact turns_one.trans eq_comp.symm
  | succ count ih => exact (congrArg (Comp way) ih).trans comp_assoc.symm

theorem turns_add (way : Spot → Spot → Prop) (m n : Nat) : Turns way (m + n) = Comp (Turns way m) (Turns way n) := by
  induction m with
  | zero => rw [Nat.zero_add]; exact eq_comp.symm
  | succ m ih => rw [Nat.succ_add]; exact (congrArg (Comp way) ih).trans comp_assoc.symm

/-- At most so many turns. -/
def UpTo (way : Spot → Spot → Prop) (most : Nat) (a b : Spot) : Prop := ∃ count ≤ most, Turns way count a b

theorem upTo_zero (way : Spot → Spot → Prop) (a b : Spot) : UpTo way 0 a b ↔ a = b := by
  simp only [UpTo, Nat.le_zero, exists_eq_left, Turns]

theorem upTo_succ (way : Spot → Spot → Prop) (most : Nat) (a b : Spot) :
    UpTo way (most + 1) a b ↔ Comp way (UpTo way most) a b ∨ a = b := by
  constructor
  · rintro ⟨count, hcount, h⟩
    cases count with
    | zero => exact .inr h
    | succ count =>
      obtain ⟨c, hc, h⟩ := h
      exact .inl ⟨c, hc, count, Nat.le_of_succ_le_succ hcount, h⟩
  · rintro (⟨c, hc, count, hcount, h⟩ | h)
    · exact ⟨count + 1, Nat.succ_le_succ hcount, c, hc, h⟩
    · exact ⟨0, Nat.zero_le _, h⟩

/-- Any number of turns. -/
def Repeated (way : Spot → Spot → Prop) (a b : Spot) : Prop := ∃ count, Turns way count a b

theorem repeated_iff (way : Spot → Spot → Prop) (a b : Spot) : Repeated way a b ↔ Comp way (Repeated way) a b ∨ a = b := by
  constructor
  · rintro ⟨count, h⟩
    cases count with
    | zero => exact .inr h
    | succ count =>
      obtain ⟨c, hc, h⟩ := h
      exact .inl ⟨c, hc, count, h⟩
  · rintro (⟨c, hc, count, h⟩ | h)
    · exact ⟨count + 1, c, hc, h⟩
    · exact ⟨0, h⟩

/-- An instruction that goes on with a body, which comes back to it, or leaves the loop. The induction is on the steps left: a turn
takes at least the step from the instruction to the body. -/
theorem Realizes.repeated (hi : Forks code place entry next) (hbody : Realizes code text way entry place) :
    Realizes code text (Repeated way) place next where
  sound {steps a c} h := by
    induction steps using Nat.strongRecOn generalizing a with
    | ind steps ih =>
      obtain ⟨m, hm, h | h⟩ := hi.sound h
      · obtain ⟨b, hb, m', hm', hagain⟩ := hbody.sound h
        obtain ⟨d, hd, m'', hm'', hnext⟩ := ih m' (by omega) hagain
        exact ⟨d, (repeated_iff way a d).2 (.inl ⟨b, hb, hd⟩), m'', by omega, hnext⟩
      · exact ⟨a, ⟨0, rfl⟩, m, Nat.le_of_lt hm, h⟩
  complete {steps a b c} h hnext := by
    obtain ⟨count, h⟩ := h
    induction count generalizing a with
    | zero =>
      obtain rfl : a = b := h
      exact ⟨steps + 1, hi.complete (.inr hnext)⟩
    | succ count ih =>
      obtain ⟨d, hd, h⟩ := h
      obtain ⟨m, hagain⟩ := ih h
      obtain ⟨m', hentry⟩ := hbody.complete hd hagain
      exact ⟨m' + 1, hi.complete (.inl hentry)⟩

/-! ## Putting instructions down -/

/-- Code that goes on with other code. -/
def Code.Extends (before after : Code) : Prop := before.size ≤ after.size ∧ ∀ k < before.size, after[k]? = before[k]?

/-- Code that has all that has been put after some code. -/
def Code.Has (code before after : Code) : Prop := ∀ k, before.size ≤ k → k < after.size → code[k]? = after[k]?

section

variable {before after last : Code}

theorem Code.Extends.refl (before : Code) : Code.Extends before before := ⟨Nat.le_refl _, fun _ _ => rfl⟩

theorem Code.Extends.trans (h : Code.Extends before after) (h' : Code.Extends after last) : Code.Extends before last :=
  ⟨Nat.le_trans h.1 h'.1, fun k hk => (h'.2 k (Nat.lt_of_lt_of_le hk h.1)).trans (h.2 k hk)⟩

theorem Code.Has.first (h : Code.Has code before last) (hlast : Code.Extends after last) : Code.Has code before after :=
  fun k hk hk' => (h k hk (Nat.lt_of_lt_of_le hk' hlast.1)).trans (hlast.2 k hk')

theorem Code.Has.second (h : Code.Has code before last) (hafter : Code.Extends before after) : Code.Has code after last :=
  fun k hk hk' => h k (Nat.le_trans hafter.1 hk) hk'

theorem extends_push (before : Code) (i : Instr) : Code.Extends before (before.push i) :=
  ⟨by rw [Array.size_push]; exact Nat.le_succ _, fun k hk => Array.getElem?_push_lt hk ▸ (Array.getElem?_eq_getElem hk).symm⟩

/-- Code that has an instruction that has been put down. -/
theorem Code.Has.instr {i : Instr} (h : Code.Has code before (before.push i)) : code[before.size]? = some i :=
  (h _ (Nat.le_refl _) (by rw [Array.size_push]; exact Nat.lt_succ_self _)).trans Array.getElem?_push_size

end

/-- What puts down instructions that lead from one spot to another just as a way does. -/
structure Emits (text : Array Char) (piece : Nat → Code → Nat × Code) (way : Spot → Spot → Prop) : Prop where
  extends_code : ∀ next before, Code.Extends before (piece next before).2
  realizes : ∀ {next code before}, Code.Has code before (piece next before).2 → Realizes code text way (piece next before).1 next

section

variable {piece : Nat → Code → Nat × Code}

theorem Emits.copies (h : Emits text piece way) (count : Nat) : Emits text (copies piece count) (Turns way count) := by
  induction count with
  | zero => exact ⟨fun next before => .refl before, fun _ => .refl _ _ _⟩
  | succ count ih =>
    refine ⟨fun next before => (h.extends_code next before).trans (ih.extends_code _ _), fun {next code before} hcode => ?_⟩
    have hpiece := h.realizes (hcode.first (ih.extends_code _ _))
    have hcopies := ih.realizes (hcode.second (h.extends_code next before))
    rw [turns_succ']
    exact hcopies.comp hpiece

theorem optionalCopies_extends (h : Emits text piece way) (greedy : Bool) (leave count next : Nat) (before : Code) :
    Code.Extends before (optionalCopies greedy piece leave count next before).2 := by
  induction count generalizing next before with
  | zero => exact .refl before
  | succ count ih => exact ((h.extends_code next before).trans (extends_push _ _)).trans (ih _ _)

/-- Copies that may be left are so many turns at most. Those that have been put down already may be left for the same instruction. -/
theorem optionalCopies_realizes (h : Emits text piece way) {greedy : Bool} {leave count most next : Nat} {before : Code}
    (hcode : Code.Has code before (optionalCopies greedy piece leave count next before).2)
    (hnext : Realizes code text (UpTo way most) next leave) :
    Realizes code text (UpTo way (most + count)) (optionalCopies greedy piece leave count next before).1 leave := by
  induction count generalizing next before most with
  | zero => exact hnext
  | succ count ih =>
    have hpush := extends_push (piece next before).2 (.turn greedy (piece next before).1 leave)
    have hfirst := hcode.first (optionalCopies_extends h greedy leave count _ _)
    have hpiece := h.realizes (hfirst.first hpush)
    have hturn := (hfirst.second (h.extends_code next before)).instr
    have hcopy := ((hpiece.comp hnext).fork (forks_turn greedy hturn) (.refl code text leave)).congr fun a b => (upTo_succ way most a b).symm
    rw [← Nat.add_assoc, Nat.add_right_comm]
    exact ih (hcode.second ((h.extends_code next before).trans hpush)) hcopy

end

/-! ## Trees -/

theorem upTo_between (way : Spot → Spot → Prop) (least most : Nat) (a b : Spot) :
    Comp (Turns way least) (UpTo way (most - least)) a b ↔ ∃ count, least ≤ count ∧ count ≤ max least most ∧ Turns way count a b := by
  constructor
  · rintro ⟨c, hc, count, hcount, h⟩
    exact ⟨least + count, Nat.le_add_right _ _, by omega, turns_add way least count ▸ ⟨c, hc, h⟩⟩
  · rintro ⟨count, hleast, hmost, h⟩
    rw [← Nat.add_sub_cancel' hleast, turns_add] at h
    obtain ⟨c, hc, h⟩ := h
    exact ⟨c, hc, count - least, by omega, h⟩

theorem repeated_from (way : Spot → Spot → Prop) (least : Nat) (a b : Spot) :
    Comp (Turns way least) (Repeated way) a b ↔ ∃ count, least ≤ count ∧ Turns way count a b := by
  constructor
  · rintro ⟨c, hc, count, h⟩
    exact ⟨least + count, Nat.le_add_right _ _, turns_add way least count ▸ ⟨c, hc, h⟩⟩
  · rintro ⟨count, hleast, h⟩
    rw [← Nat.add_sub_cancel' hleast, turns_add] at h
    obtain ⟨c, hc, h⟩ := h
    exact ⟨c, hc, count - least, h⟩

/-- A loop with a greatest number of turns: copies that have to be taken before copies that may be left. -/
theorem emits_loop_some {body : Node} (h : Emits text body.emit (body.Matches text)) (least most : Nat) (greedy : Bool) :
    Emits text (Node.loop body least (some most) greedy).emit ((Node.loop body least (some most) greedy).Matches text) := by
  have hcopies := h.copies least
  refine ⟨fun next before => ?_, fun {next code before} hcode => ?_⟩
  · exact (optionalCopies_extends h greedy next (most - least) next before).trans (hcopies.extends_code _ _)
  · have hoptional := optionalCopies_realizes h (hcode.first (hcopies.extends_code _ _))
      ((Realizes.refl code text next).congr fun a b => (upTo_zero (body.Matches text) a b).symm)
    have hleast := hcopies.realizes (hcode.second (optionalCopies_extends h greedy next (most - least) next before))
    rw [Nat.zero_add] at hoptional
    refine (hleast.comp hoptional).congr fun a b => (upTo_between _ _ _ a b).trans (exists_congr fun count => ?_)
    exact and_congr_right fun _ => and_congr_left fun _ => ⟨fun h m hm => Option.some.inj hm ▸ h, fun h => h most rfl⟩

theorem matches_loop_none (body : Node) (least : Nat) (greedy : Bool) (a b : Spot) :
    (Node.loop body least none greedy).Matches text a b ↔ ∃ count, least ≤ count ∧ Turns (body.Matches text) count a b :=
  exists_congr fun _ => and_congr_right fun _ => and_iff_right nofun

/-- The instruction of a loop without a bound, put down before its body and set once the entry of the body is known. -/
def loopCode (body : Node) (greedy : Bool) (next : Nat) (before : Code) : Nat × Code :=
  let emitted := body.emit before.size (before.push (.split next next))
  (emitted.1, emitted.2.set! before.size (.turn greedy emitted.1 next))

theorem loopCode_extends {body : Node} (h : Emits text body.emit (body.Matches text)) (greedy : Bool) (next : Nat) (before : Code) :
    Code.Extends before (loopCode body greedy next before).2 := by
  have hbody := (extends_push before (.split next next)).trans (h.extends_code before.size _)
  refine ⟨?_, fun k hk => ?_⟩
  · rw [loopCode, Array.set!_eq_setIfInBounds, Array.size_setIfInBounds]
    exact hbody.1
  · rw [loopCode, Array.set!_eq_setIfInBounds, Array.getElem?_setIfInBounds_ne (Nat.ne_of_gt hk)]
    exact hbody.2 k hk

/-- The body comes back to the instruction of the loop, which is a fork. -/
theorem loopCode_realizes {body : Node} (h : Emits text body.emit (body.Matches text)) {greedy : Bool} {next : Nat} {before : Code}
    (hcode : Code.Has code before (loopCode body greedy next before).2) :
    Realizes code text (body.Matches text) (loopCode body greedy next before).1 before.size ∧
      Forks code before.size (loopCode body greedy next before).1 next := by
  have hpush := extends_push before (.split next next)
  have hsize : before.size < (body.emit before.size (before.push (.split next next))).2.size := by
    have := (h.extends_code before.size (before.push (.split next next))).1
    rw [Array.size_push] at this
    exact this
  constructor
  · refine h.realizes fun k hk hk' => ?_
    rw [Array.size_push] at hk
    rw [hcode k (Nat.le_of_succ_le hk) (by rwa [loopCode, Array.set!_eq_setIfInBounds, Array.size_setIfInBounds]), loopCode,
      Array.set!_eq_setIfInBounds, Array.getElem?_setIfInBounds_ne (Nat.ne_of_lt hk)]
  · refine forks_turn greedy ((hcode before.size (Nat.le_refl _) ?_).trans ?_)
    · rwa [loopCode, Array.set!_eq_setIfInBounds, Array.size_setIfInBounds]
    · rw [loopCode, Array.set!_eq_setIfInBounds, Array.getElem?_setIfInBounds_self_of_lt hsize]

/-- A loop without a bound: copies that have to be taken before the body, which comes back to the loop. -/
theorem emits_loop_none {body : Node} (h : Emits text body.emit (body.Matches text)) (least : Nat) (greedy : Bool) :
    Emits text (Node.loop body least none greedy).emit ((Node.loop body least none greedy).Matches text) := by
  have hextends := loopCode_extends h greedy
  cases least with
  | zero =>
    have hmatches : ∀ a b, Repeated (body.Matches text) a b ↔ (Node.loop body 0 none greedy).Matches text a b := fun a b =>
      (exists_congr fun _ => (and_iff_right (Nat.zero_le _)).symm).trans (matches_loop_none body 0 greedy a b).symm
    by_cases htakes : body.takesText = true
    · have hemit : ∀ next before, (Node.loop body 0 none greedy).emit next before = (before.size, (loopCode body greedy next before).2) :=
        fun next before => by simp only [Node.emit, append, htakes, if_true]; rfl
      refine ⟨fun next before => ?_, fun {next code before} hcode => ?_⟩
      · rw [hemit]
        exact hextends next before
      · rw [hemit] at hcode ⊢
        obtain ⟨hbody, hfork⟩ := loopCode_realizes h hcode
        exact (hbody.repeated hfork).congr hmatches
    · have hemit : ∀ next before, (Node.loop body 0 none greedy).emit next before =
          append (loopCode body greedy next before).2 (.turn greedy (loopCode body greedy next before).1 next) :=
        fun next before => by simp only [Node.emit, append, htakes, if_true]; rfl
      refine ⟨fun next before => ?_, fun {next code before} hcode => ?_⟩
      · rw [hemit]
        exact (hextends next before).trans (extends_push _ _)
      · rw [hemit] at hcode ⊢
        obtain ⟨hbody, hfork⟩ := loopCode_realizes h (hcode.first (extends_push _ _))
        have hturn := (hcode.second (hextends next before)).instr
        exact ((hbody.comp (hbody.repeated hfork)).fork (forks_turn greedy hturn) (.refl code text next)).congr fun a b =>
          (repeated_iff _ a b).symm.trans (hmatches a b)
  | succ least =>
    have hcopies := h.copies least
    refine ⟨fun next before => (hextends next before).trans (hcopies.extends_code _ _), fun {next code before} hcode => ?_⟩
    obtain ⟨hbody, hfork⟩ := loopCode_realizes h (hcode.first (hcopies.extends_code _ _))
    have hleast := hcopies.realizes (hcode.second (hextends next before))
    have hway := (hleast.comp hbody).comp (hbody.repeated hfork)
    rw [← turns_succ'] at hway
    exact hway.congr fun a b => (repeated_from _ _ a b).trans (matches_loop_none body (least + 1) greedy a b).symm

/-- The instructions of a tree lead from one spot to another just as the tree matches. -/
theorem emit_emits (text : Array Char) (node : Node) : Emits text node.emit (node.Matches text) := by
  induction node with
  | empty => exact ⟨fun next before => .refl before, fun _ => .refl _ _ _⟩
  | chars k => exact ⟨fun next before => extends_push before _, fun hcode => .chars hcode.instr⟩
  | look l => exact ⟨fun next before => extends_push before _, fun hcode => .look hcode.instr⟩
  | group index name body ih =>
    refine ⟨fun next before => ((extends_push before _).trans (ih.extends_code _ _)).trans (extends_push _ _),
      fun {next code before} hcode => ?_⟩
    have hclose := extends_push before (.save (2 * index + 1) next)
    have hbody := ih.extends_code before.size (before.push (.save (2 * index + 1) next))
    have hfirst := hcode.first (extends_push _ _)
    refine ((Realizes.save (hcode.second (hclose.trans hbody)).instr).comp
      ((ih.realizes (hfirst.second hclose)).comp (.save (hfirst.first hbody).instr))).congr fun a b => ?_
    constructor
    · rintro ⟨_, rfl, c, hc, rfl⟩
      exact ⟨c.2, hc, rfl⟩
    · rintro ⟨slots, hbody, hslots⟩
      exact ⟨_, rfl, (b.1, slots), hbody, Prod.ext rfl hslots⟩
  | loop body least most greedy ih =>
    cases most with
    | none => exact emits_loop_none ih least greedy
    | some most => exact emits_loop_some ih least most greedy
  | seq first second ihFirst ihSecond =>
    refine ⟨fun next before => (ihSecond.extends_code next before).trans (ihFirst.extends_code _ _), fun {next code before} hcode => ?_⟩
    exact (ihFirst.realizes (hcode.second (ihSecond.extends_code next before))).comp
      (ihSecond.realizes (hcode.first (ihFirst.extends_code _ _)))
  | alt first second ihFirst ihSecond =>
    have hboth := fun next before => (ihSecond.extends_code next before).trans (ihFirst.extends_code next _)
    refine ⟨fun next before => (hboth next before).trans (extends_push _ _), fun {next code before} hcode => ?_⟩
    have hbranches := hcode.first (extends_push _ _)
    exact (ihFirst.realizes (hbranches.second (ihSecond.extends_code next before))).fork
      (.inl (hcode.second (hboth next before)).instr) (ihSecond.realizes (hbranches.first (ihFirst.extends_code _ _)))

/-- A program accepts from a place on just what its tree matches there. -/
theorem accepts_iff_matches {node : Node} {program : Program} (h : node.compile? = some program) {start : Nat} :
    (∃ steps, Accepts program.code text steps program.entry (start, []) b) ↔ node.Matches text (start, []) b := by
  unfold Node.compile? at h
  split at h
  · obtain rfl := Option.some.inj h
    have hemits := emit_emits text node
    have hprogram := hemits.realizes (fun k _ _ => rfl : Code.Has (node.emit 0 #[.accept]).2 #[.accept] (node.emit 0 #[.accept]).2)
    have haccept : (node.emit 0 #[.accept]).2[0]? = some .accept := (hemits.extends_code 0 #[.accept]).2 0 (Nat.succ_pos 0)
    constructor
    · rintro ⟨steps, hsteps⟩
      obtain ⟨c, hc, m, -, hdone⟩ := hprogram.sound hsteps
      cases hdone with
      | done => exact hc
      | step hi hw =>
        rw [haccept, Option.some.injEq] at hi
        subst hi
        cases hw
    · exact fun hmatches => hprogram.complete hmatches (.done haccept)
  · cases h

end CellExpr.Pattern
