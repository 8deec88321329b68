import CellExpr.Proofs.Pattern.Exploration
import CellExpr.Proofs.Pattern.Reading
import CellExpr.Proofs.Text.Occurrences
import CellExpr.Text.Bytes

/-!
# Patterns for literal texts

A literal text stands for a row of single characters (`read?_escape`), also between the start and the end of the text.

The automata of a literal text have a state for each byte of the text and a few more, so that there is room for them just if the text has
at most 327,673 bytes (`fits_literalNode_iff`). Between the start and the end of the text they take no more room.
-/

namespace CellExpr.Pattern

open Reader CellExpr.Text

variable {c : Char} {r p : List Char} {count fuel : Nat} {names : List String} {done items : List Part}

/-! ## Reading -/

/-- The tree of a literal text. -/
def literalNode (p : List Char) : Node := Node.row (p.map fun c => .chars (.single c))

/-- The part that a literal character is. -/
def literalPart (c : Char) : Part := ⟨.chars (.single c), 0, false⟩

/-- How a literal character is written. -/
def escaped (c : Char) : List Char := if isMeta c then ['\\', c] else [c]

theorem isMeta_iff : isMeta c = true ↔
    c ∈ ['\\', '.', '+', '*', '?', '(', ')', '|', '[', ']', '\x7b', '\x7d', '^', '$', '#', '&', '-', '~'] := List.contains_iff_mem

/-- A character with a meaning of its own stands for itself after a backslash. -/
theorem run_readSimple_backslash (hc : isMeta c = true) :
    readSimple.run ⟨'\\' :: c :: r, startFlags false, count, names⟩ = some (.chars (.single c), ⟨r, startFlags false, count, names⟩) := by
  rw [isMeta_iff] at hc
  simp only [List.mem_cons, List.not_mem_nil, or_false] at hc
  rcases hc with rfl | rfl | rfl | rfl | rfl | rfl | rfl | rfl | rfl | rfl | rfl | rfl | rfl | rfl | rfl | rfl | rfl | rfl <;> rfl

/-- Any other character stands for itself. -/
theorem run_readSimple_plain (hc : isMeta c = false) :
    readSimple.run ⟨c :: r, startFlags false, count, names⟩ = some (.chars (.single c), ⟨r, startFlags false, count, names⟩) := by
  have hne : ∀ d, isMeta d = true → c ≠ d := fun d hd heq => by
    rw [heq, hd] at hc
    cases hc
  rw [readSimple, run_bind, run_flags, Option.bind_some, run_bind, run_peek rfl, Option.bind_some]
  dsimp only
  split
  · exact absurd rfl (hne '\\' rfl)
  · exact absurd rfl (hne '.' rfl)
  · exact absurd rfl (hne '^' rfl)
  · exact absurd rfl (hne '$' rfl)
  · rfl

theorem run_readBranches_escaped :
    (readBranches (fuel + 1) done items).run ⟨escaped c ++ r, startFlags false, count, names⟩ =
      (readBranches fuel done (literalPart c :: items)).run ⟨r, startFlags false, count, names⟩ := by
  rw [escaped]
  cases hc : isMeta c with
  | true =>
    rw [if_pos rfl, List.cons_append, List.singleton_append, run_readBranches_simple rfl (by decide), run_readSimple_backslash hc]
    rfl
  | false =>
    have hsimple : IsSimple c := fun hmem => by
      have hmeta : ∀ d ∈ [')', '|', '(', '[', '?', '*', '+', '\x7b'], isMeta d = true := List.all_eq_true.1 rfl
      rw [hmeta c hmem] at hc
      cases hc
    rw [if_neg Bool.false_ne_true, List.singleton_append, run_readBranches_simple rfl hsimple, run_readSimple_plain hc]
    rfl

theorem escape_cons (c : Char) (p : List Char) : Regex.escape (c :: p) = escaped c ++ Regex.escape p := List.flatMap_cons

theorem length_le_escape (p : List Char) : p.length ≤ (Regex.escape p).length := by
  induction p with
  | nil => exact Nat.le_refl _
  | cons c p ih =>
    have hc : 1 ≤ (escaped c).length := by
      rw [escaped]
      split <;> exact Nat.succ_le_succ (Nat.zero_le _)
    rw [escape_cons, List.length_append, List.length_cons]
    omega

/-- A literal text is read as the parts that its characters are. -/
theorem run_readBranches_escape (p : List Char) (items : List Part) :
    (readBranches (fuel + p.length) done items).run ⟨Regex.escape p ++ r, startFlags false, count, names⟩ =
      (readBranches fuel done ((p.map literalPart).reverse ++ items)).run ⟨r, startFlags false, count, names⟩ := by
  induction p generalizing items with
  | nil => rfl
  | cons c p ih =>
    rw [escape_cons, List.append_assoc, List.length_cons, ← Nat.add_assoc, run_readBranches_escaped, ih, List.map_cons, List.reverse_cons,
      List.append_assoc, List.singleton_append]

/-- The parts of a literal text in a row are nested at most one level deep. -/
theorem row_literalParts (p : List Char) :
    ∃ depth ≤ 1, Part.row (p.map literalPart) = ⟨literalNode p, depth, false⟩ := by
  match p with
  | [] => exact ⟨0, Nat.zero_le 1, rfl⟩
  | [c] => exact ⟨0, Nat.zero_le 1, rfl⟩
  | c :: d :: p =>
    have hdepth : ∀ parts : List Part, (∀ q ∈ parts, q.depth = 0) → parts.foldl (fun d q => max d q.depth) 0 = 0 := by
      intro parts hparts
      induction parts with
      | nil => rfl
      | cons q parts ih =>
        rw [List.foldl_cons, hparts q (.head _)]
        exact ih fun q' hq' => hparts q' (.tail _ hq')
    have hzero := hdepth ((c :: d :: p).map literalPart) fun q hq => by
      obtain ⟨e, -, rfl⟩ := List.mem_map.1 hq
      rfl
    refine ⟨1, Nat.le_refl 1, ?_⟩
    have hnodes : ((c :: d :: p).map literalPart).map Part.node = (c :: d :: p).map fun c => .chars (.single c) := List.map_map
    show (⟨Node.row (((c :: d :: p).map literalPart).map Part.node),
      ((c :: d :: p).map literalPart).foldl (fun d q => max d q.depth) 0 + 1, false⟩ : Part) = _
    rw [hnodes, hzero, literalNode]

/-- A literal text between two others is read up to what ends a branch. -/
theorem exists_run_readBranches_escape (p : List Char) (hfuel : p.length < fuel) (hr : r = [] ∨ r = [')', '$']) :
    ∃ depth ≤ 1, (readBranches fuel [] []).run ⟨Regex.escape p ++ r, startFlags false, 0, []⟩ =
      some (⟨literalNode p, depth, false⟩, ⟨r, startFlags false, 0, []⟩) := by
  obtain ⟨depth, hdepth, hrow⟩ := row_literalParts p
  obtain ⟨fuel, rfl⟩ := Nat.exists_eq_add_of_lt hfuel
  refine ⟨depth, hdepth, ?_⟩
  rw [show p.length + fuel + 1 = fuel + 1 + p.length by omega, run_readBranches_escape, List.append_nil]
  rcases hr with rfl | rfl
  · rw [run_readBranches_nil rfl, close_nil, List.reverse_reverse, hrow]
  · rw [run_readBranches_closed rfl, close_nil, List.reverse_reverse, hrow]

theorem read?_escape (p : List Char) : read? (Regex.escape p) false = some (literalNode p) := by
  obtain ⟨depth, hdepth, hrun⟩ := exists_run_readBranches_escape p (Nat.lt_succ_of_le (length_le_escape p)) (.inl rfl)
  rw [List.append_nil] at hrun
  exact read?_eq_some_iff.2 ⟨_, hrun, rfl, Nat.le_trans hdepth (show 1 ≤ maxDepth by decide), rfl⟩

theorem read?_anchored_escape (p : List Char) : read? (anchoredSource (Regex.escape p)) false = some (literalNode p).anchored := by
  have hlength := length_le_escape p
  obtain ⟨depth, hdepth, hrun⟩ := @exists_run_readBranches_escape [')', '$'] ((Regex.escape p).length + 5) p (by omega) (.inr rfl)
  have hanchored := run_readBranches_anchored (by omega) hrun
  have hfuel : (anchoredSource (Regex.escape p)).length + 1 = (Regex.escape p).length + 5 + 2 := by
    simp only [anchoredSource, List.length_cons, List.length_append, List.length_nil]
  refine read?_eq_some_iff.2 ⟨(⟨(literalNode p).anchored, depth + 2, false⟩, ⟨[], startFlags false, 0, []⟩), ?_, rfl,
    Nat.le_trans (Nat.add_le_add_right hdepth 2) (show 3 ≤ maxDepth by decide), rfl⟩
  rw [readPart?, hfuel]
  exact hanchored

end CellExpr.Pattern

namespace CellExpr.Pattern

open CellExpr.Text

variable {α β : Type} {direction : Direction} {c : Char} {p : List Char}

/-! ## Bytes of a character -/

/-- A single number is spelled in one way. -/
theorem exists_spell_self (mark count n : Nat) : ∃ row, spell mark count n n = [row] ∧ row.length = count + 1 := by
  induction count generalizing mark n with
  | zero => exact ⟨[(mark + n, mark + n)], rfl, rfl⟩
  | succ count ih =>
    obtain ⟨row, hrow, hlength⟩ := ih continuationMark (n % Nat.pow 64 (count + 1))
    refine ⟨(mark + n / Nat.pow 64 (count + 1), mark + n / Nat.pow 64 (count + 1)) :: row, ?_, congrArg (· + 1) hlength⟩
    simp only [spell, if_true]
    rw [hrow]
    rfl

theorem length_utf8Bytes (c : Char) : (utf8Bytes c.toNat).length = c.utf8Size := by
  have hvalid : c.toNat < 0xD800 ∨ 0xDFFF < c.toNat ∧ c.toNat < 0x110000 := c.valid
  have hsize : c.utf8Size = if c.toNat ≤ 0x7F then 1 else if c.toNat ≤ 0x7FF then 2 else if c.toNat ≤ 0xFFFF then 3 else 4 := rfl
  have hstretch : ∀ first last mark count, first ≤ c.toNat → c.toNat ≤ last →
      (if max first c.toNat ≤ min last c.toNat then spell mark count (max first c.toNat) (min last c.toNat) else []).flatten.length =
        count + 1 := by
    intro first last mark count hfirst hlast
    obtain ⟨row, hrow, hlength⟩ := exists_spell_self mark count c.toNat
    rw [Nat.max_eq_right hfirst, Nat.min_eq_right hlast, if_pos (Nat.le_refl _), hrow, List.flatten_singleton, hlength]
  have hother : ∀ first last mark count, c.toNat < first ∨ last < c.toNat →
      (if max first c.toNat ≤ min last c.toNat then spell mark count (max first c.toNat) (min last c.toNat) else []).flatten.length = 0 := by
    intro first last mark count h
    rw [if_neg (by omega)]
    rfl
  rw [utf8Bytes, List.length_map, intervalRows, utf8Stretches, hsize]
  simp only [List.flatMap_cons, List.flatMap_nil, List.flatten_append, List.length_append, List.flatten_nil, List.length_nil, lastCode]
  by_cases h1 : c.toNat ≤ 0x7F
  · rw [if_pos h1, hstretch _ _ _ _ (Nat.zero_le _) h1, hother 0x80 _ _ _ (by omega), hother 0x800 _ _ _ (by omega),
      hother 0xE000 _ _ _ (by omega), hother 0x10000 _ _ _ (by omega)]
  rw [if_neg h1, hother 0 _ _ _ (by omega)]
  by_cases h2 : c.toNat ≤ 0x7FF
  · rw [if_pos h2, hstretch _ _ _ _ (by omega) h2, hother 0x800 _ _ _ (by omega), hother 0xE000 _ _ _ (by omega),
      hother 0x10000 _ _ _ (by omega)]
  rw [if_neg h2, hother 0x80 _ _ _ (by omega)]
  by_cases h3 : c.toNat ≤ 0xFFFF
  · rw [if_pos h3, hother 0x10000 _ _ _ (by omega)]
    rcases hvalid with hlow | ⟨hhigh, -⟩
    · rw [hstretch _ _ _ _ (by omega) (by omega), hother 0xE000 _ _ _ (by omega)]
    · rw [hother 0x800 _ _ _ (by omega), hstretch _ _ _ _ (by omega) h3]
  · rw [if_neg h3, hother 0x800 _ _ _ (by omega), hother 0xE000 _ _ _ (by omega), hstretch _ _ _ _ (by omega) (by omega)]

/-! ## Laying out -/

theorem Footprint.bytes_add (a b : Footprint) : (a + b).bytes = a.bytes + b.bytes := by
  show stateBytes * (a.states + b.states) + (a.outgoing + b.outgoing) = stateBytes * a.states + a.outgoing +
    (stateBytes * b.states + b.outgoing)
  rw [Nat.mul_add]
  omega

theorem Footprint.add_assoc (a b c : Footprint) : a + b + c = a + (b + c) :=
  congrArg₂ Footprint.mk (Nat.add_assoc _ _ _) (Nat.add_assoc _ _ _)

/-- A part of a layout succeeds just if some room is left for it, and takes up this room. What it gives has a property. -/
def Lays (part : Laying α) (p : α → Prop) (room : Footprint) : Prop :=
  ∀ before : Footprint, before.bytes ≤ maxBytes →
    ((before + room).bytes ≤ maxBytes → ∃ a, p a ∧ part.run before = some (a, before + room)) ∧
      (maxBytes < (before + room).bytes → part.run before = none)

namespace Lays

variable {room room' : Footprint} {part : Laying α} {q : α → Prop} {q' : β → Prop}

theorem pure {a : α} (ha : q a) : Lays (pure a) q ⟨0, 0⟩ := fun _ hbefore =>
  ⟨fun _ => ⟨a, ha, rfl⟩, fun h => absurd hbefore (Nat.not_le_of_lt h)⟩

theorem addStates (states outgoing : Nat) : Lays (addStates states outgoing) (fun _ => True) ⟨states, outgoing⟩ := by
  intro before _
  have hrun : (Pattern.addStates states outgoing).run before =
      (if maxBytes < (before + ⟨states, outgoing⟩ : Footprint).bytes then (do
        (failure : Laying Unit)
        set (before + ⟨states, outgoing⟩ : Footprint)
        return before.states)
      else (do
        set (before + ⟨states, outgoing⟩ : Footprint)
        return before.states) : Laying Nat).run before := rfl
  rw [hrun]
  refine ⟨fun h => ⟨before.states, trivial, ?_⟩, fun h => ?_⟩
  · rw [if_neg (Nat.not_lt_of_le h)]
    rfl
  · rw [if_pos h]
    rfl

theorem bind {next : α → Laying β} (h : Lays part q room) (hnext : ∀ a, q a → Lays (next a) q' room') :
    Lays (part >>= next) q' (room + room') := by
  intro before hbefore
  obtain ⟨hfits, hfull⟩ := h before hbefore
  have hrun : (part >>= next).run before = (part.run before).bind fun r => (next r.1).run r.2 := StateT.run_bind part next before
  rw [hrun, ← Footprint.add_assoc]
  by_cases hroom : (before + room).bytes ≤ maxBytes
  · obtain ⟨a, ha, hpart⟩ := hfits hroom
    rw [hpart]
    exact hnext a ha (before + room) hroom
  · rw [hfull (Nat.lt_of_not_le hroom)]
    refine ⟨fun h => absurd ?_ hroom, fun _ => rfl⟩
    rw [Footprint.bytes_add (before + room)] at h
    exact Nat.le_trans (Nat.le_add_right _ _) h

theorem congr (h : Lays part q room) (hroom : room = room') : Lays part q room' := hroom ▸ h

theorem thenReturn (h : Lays part q room) (b : β) : Lays (part >>= fun _ => Pure.pure b) (· = b) room :=
  h.bind fun _ _ => @pure _ (· = b) _ rfl

/-- A layout that starts from nothing succeeds just if there is room for it. -/
theorem isSome_iff (h : Lays part q room) : (part.run {}).isSome = true ↔ room.bytes ≤ maxBytes := by
  have hzero : ({} + room : Footprint) = room := congrArg₂ Footprint.mk (Nat.zero_add _) (Nat.zero_add _)
  obtain ⟨hfits, hfull⟩ := h {} (Nat.zero_le _)
  rw [hzero] at hfits hfull
  constructor
  · intro hsome
    by_contra hroom
    rw [hfull (Nat.lt_of_not_le hroom)] at hsome
    cases hsome
  · intro hroom
    obtain ⟨a, -, hrun⟩ := hfits hroom
    rw [hrun]
    rfl

end Lays

/-! ## Rows of single states -/

/-- A tree is laid out as so many states in a row, the last one of which is no fork. -/
def TakesStates (direction : Direction) (node : Node) (states : Nat) : Prop :=
  Lays (node.lay direction .alone) (· = false) ⟨states, 0⟩

theorem lays_leave : Lays (leave false) (fun _ => True) ⟨0, 0⟩ := (Lays.addStates 0 0).bind fun _ _ => .pure trivial

theorem takesStates_literal (direction : Direction) (c : Char) : TakesStates direction (.chars (.single c)) c.utf8Size := by
  have hsingle : (CharClass.single c).single? = some c.toNat := if_pos rfl
  have hlay : (Node.chars (.single c)).lay direction .alone = (do
      let _ ← addStates (utf8Bytes c.toNat).length 0
      return false) := by
    rw [Node.lay, hsingle]
    rfl
  rw [TakesStates, hlay, length_utf8Bytes]
  exact (Lays.addStates _ _).thenReturn false

theorem takesStates_look (direction : Direction) (l : Look) : TakesStates direction (.look l) 1 := (Lays.addStates 1 0).thenReturn false

/-- Two parts in a row, the first of which does not end in a fork. -/
theorem lays_row {first second : Laying Bool} {m n : Nat} (h : Lays first (· = false) ⟨m, 0⟩) (h' : Lays second (· = false) ⟨n, 0⟩) :
    Lays (do leave (← first); second) (· = false) ⟨m + n, 0⟩ := by
  have hsecond : ∀ fork, fork = false → Lays (do leave fork; second) (· = false) (⟨0, 0⟩ + ⟨n, 0⟩) := fun fork hfork =>
    hfork ▸ lays_leave.bind fun _ _ => h'
  refine (h.bind hsecond).congr ?_
  exact congrArg₂ Footprint.mk (congrArg (m + ·) (Nat.zero_add n)) rfl

theorem takesStates_seq {first second : Node} {m n : Nat} (h : TakesStates direction first m) (h' : TakesStates direction second n) :
    TakesStates direction (.seq first second) (m + n) := by
  have hfinish : ∀ part : Laying Bool, (do Standing.alone.finish (← part)) = part := fun part => bind_pure part
  cases direction with
  | forward =>
    rw [TakesStates, Node.lay]
    rw [hfinish]
    exact lays_row h h'
  | backward =>
    rw [TakesStates, Node.lay]
    rw [hfinish, Nat.add_comm]
    exact lays_row h' h

/-! ## Automata -/

/-- The room of an automaton whose tree takes so many states in a row. -/
def automatonRoom (direction : Direction) (anchored : Bool) (states : Nat) : Footprint :=
  (if anchored then ⟨1, 0⟩ else ⟨3, arrowBytes + 2 * linkBytes⟩) + ⟨states + (match direction with | .forward => 3 | .backward => 1), 0⟩

theorem lays_automaton_forward {node : Node} {n : Nat} (h : TakesStates .forward node n) :
    Lays (node.layAutomaton .forward) (fun _ => True) (automatonRoom .forward (node.startsWith .textStart) n) := by
  have hend : ∀ fork, fork = false → Lays (do leave fork; let _ ← addStates 2 0) (fun _ => True) (⟨0, 0⟩ + ⟨2, 0⟩) := fun fork hfork =>
    hfork ▸ lays_leave.bind fun _ _ => (Lays.addStates 2 0).bind fun _ _ => .pure trivial
  have hinner := (Lays.addStates 1 0).bind fun _ _ => h.bind hend
  have hroom : (⟨1, 0⟩ + (⟨n, 0⟩ + (⟨0, 0⟩ + ⟨2, 0⟩)) : Footprint) = ⟨n + 3, 0⟩ :=
    congrArg₂ Footprint.mk (show 1 + (n + (0 + 2)) = n + 3 by omega) rfl
  rw [Node.layAutomaton, automatonRoom]
  cases node.startsWith .textStart with
  | true => exact (Lays.addStates 1 0).bind fun _ _ => hinner.congr hroom
  | false => exact (Lays.addStates 3 _).bind fun _ _ => hinner.congr hroom

theorem lays_automaton_backward {node : Node} {n : Nat} (h : TakesStates .backward node n) :
    Lays (node.layAutomaton .backward) (fun _ => True) (automatonRoom .backward (node.endsWith .textEnd) n) := by
  have hend : ∀ fork, fork = false → Lays (do leave fork; let _ ← addStates 1 0) (fun _ => True) (⟨0, 0⟩ + ⟨1, 0⟩) := fun fork hfork =>
    hfork ▸ lays_leave.bind fun _ _ => (Lays.addStates 1 0).bind fun _ _ => .pure trivial
  have hroom : (⟨n, 0⟩ + (⟨0, 0⟩ + ⟨1, 0⟩) : Footprint) = ⟨n + 1, 0⟩ := congrArg₂ Footprint.mk (show n + (0 + 1) = n + 1 by omega) rfl
  rw [Node.layAutomaton, automatonRoom]
  cases node.endsWith .textEnd with
  | true => exact (Lays.addStates 1 0).bind fun _ _ => (h.bind hend).congr hroom
  | false => exact (Lays.addStates 3 _).bind fun _ _ => (h.bind hend).congr hroom

theorem fits_iff {node : Node} {n : Nat} (h : ∀ direction, TakesStates direction node n) : node.fits = true ↔
    (automatonRoom .forward (node.startsWith .textStart) n).bytes ≤ maxBytes ∧
      (automatonRoom .backward (node.endsWith .textEnd) n).bytes ≤ maxBytes := by
  rw [Node.fits, Bool.and_eq_true, (lays_automaton_forward (h _)).isSome_iff, (lays_automaton_backward (h _)).isSome_iff]

/-! ## Literal texts -/

/-- The tree of a literal character. -/
def letterNode (c : Char) : Node := .chars (.single c)

theorem factors_letterNodes (p : List Char) : (p.map letterNode).flatMap Node.factors = p.map letterNode := by
  induction p with
  | nil => rfl
  | cons c p ih => exact congrArg (letterNode c :: ·) ih

theorem literalNode_cons (c : Char) (p : List Char) : literalNode (c :: p) = (p.map letterNode).foldl .seq (letterNode c) := by
  show Node.row ((c :: p).map letterNode) = _
  rw [Node.row, factors_letterNodes]
  rfl

theorem factorsOnto_foldl_seq (node : Node) (nodes rest : List Node) :
    (nodes.foldl .seq node).factorsOnto rest = node.factorsOnto (nodes.foldr Node.factorsOnto rest) := by
  induction nodes generalizing node with
  | nil => rfl
  | cons next nodes ih => exact ih (.seq node next)

theorem factors_literalNode (p : List Char) : (literalNode p).factors = p.map letterNode := by
  have hletters : ∀ q : List Char, (q.map letterNode).foldr Node.factorsOnto [] = q.map letterNode := by
    intro q
    induction q with
    | nil => rfl
    | cons c q ih => exact congrArg (letterNode c :: ·) ih
  cases p with
  | nil => rfl
  | cons c p =>
    rw [literalNode_cons, Node.factors, factorsOnto_foldl_seq, hletters]
    rfl

theorem anchored_literalNode (p : List Char) :
    (literalNode p).anchored = .seq ((p.map letterNode).foldl .seq (.look .textStart)) (.look .textEnd) := by
  have hrow : (literalNode p).anchored = ((literalNode p).factors ++ [Node.look .textEnd]).foldl .seq (.look .textStart) := rfl
  rw [hrow, factors_literalNode, List.foldl_append]
  rfl

theorem startsWith_foldl_seq {l : Look} {node : Node} {nodes : List Node} (h : node.startsWith l = true) :
    (nodes.foldl .seq node).startsWith l = true := by
  induction nodes generalizing node with
  | nil => exact h
  | cons next nodes ih => exact ih (by rw [Node.startsWith, h, Bool.true_or])

/-- A literal text is not bound to an edge of the text. -/
theorem startsWith_literalNode (l : Look) (p : List Char) : (literalNode p).startsWith l = false := by
  have hfold : ∀ (q : List Char) (node : Node), node.startsWith l = false → ((q.map letterNode).foldl .seq node).startsWith l = false := by
    intro q
    induction q with
    | nil => exact fun node h => h
    | cons c q ih => exact fun node h => ih _ (by rw [Node.startsWith, h]; rfl)
  cases p with
  | nil => rfl
  | cons c p => exact literalNode_cons c p ▸ hfold p _ rfl

theorem endsWith_literalNode (l : Look) (p : List Char) : (literalNode p).endsWith l = false := by
  have hfold : ∀ (q : List Char) (node : Node), node.endsWith l = false → ((q.map letterNode).foldl .seq node).endsWith l = false := by
    intro q
    induction q with
    | nil => exact fun node h => h
    | cons c q ih => exact fun node h => ih _ (by rw [Node.endsWith]; rfl)
  cases p with
  | nil => rfl
  | cons c p => exact literalNode_cons c p ▸ hfold p _ rfl

/-- Characters in a row after a tree take a state for each of their bytes. -/
theorem takesStates_letters {node : Node} {m : Nat} (h : TakesStates direction node m) (p : List Char) :
    TakesStates direction ((p.map letterNode).foldl .seq node) (m + byteLength p) := by
  induction p generalizing node m with
  | nil => exact h
  | cons c p ih =>
    rw [byteLength, ← Nat.add_assoc]
    exact ih (takesStates_seq h (takesStates_literal direction c))

/-- There is room for a literal text just if it has at most 327,673 bytes. -/
theorem fits_literalNode_iff (p : List Char) : (literalNode p).fits = true ↔ byteLength p ≤ 327673 := by
  cases p with
  | nil => exact iff_of_true (by decide) (Nat.zero_le _)
  | cons c p =>
    have htakes : ∀ direction, TakesStates direction (literalNode (c :: p)) (byteLength (c :: p)) := fun direction =>
      literalNode_cons c p ▸ takesStates_letters (takesStates_literal direction c) p
    rw [fits_iff htakes, startsWith_literalNode, endsWith_literalNode]
    show stateBytes * (3 + (byteLength (c :: p) + 3)) + (arrowBytes + 2 * linkBytes + 0) ≤ 10 * 1048576 ∧
      stateBytes * (3 + (byteLength (c :: p) + 1)) + (arrowBytes + 2 * linkBytes + 0) ≤ 10 * 1048576 ↔ _
    rw [stateBytes, arrowBytes, linkBytes]
    omega

/-- There is room for a literal text between the start and the end of the text if there is for the text alone. -/
theorem fits_anchored_literalNode {p : List Char} (h : (literalNode p).fits = true) : (literalNode p).anchored.fits = true := by
  rw [fits_literalNode_iff] at h
  have htakes : ∀ direction, TakesStates direction (literalNode p).anchored (1 + byteLength p + 1) := fun direction =>
    anchored_literalNode p ▸ takesStates_seq (takesStates_letters (takesStates_look direction _) p) (takesStates_look direction _)
  have hstart : (literalNode p).anchored.startsWith .textStart = true := by
    rw [anchored_literalNode, Node.startsWith, startsWith_foldl_seq rfl, Bool.true_or]
  have hend : (literalNode p).anchored.endsWith .textEnd = true := by
    rw [anchored_literalNode, Node.endsWith]
    rfl
  rw [fits_iff htakes, hstart, hend]
  show stateBytes * (1 + (1 + byteLength p + 1 + 3)) + 0 ≤ 10 * 1048576 ∧ stateBytes * (1 + (1 + byteLength p + 1 + 1)) + 0 ≤ 10 * 1048576
  rw [stateBytes]
  omega

end CellExpr.Pattern
