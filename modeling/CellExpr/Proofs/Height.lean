import CellExpr.Proofs.Writing.Printing
import CellExpr.Proofs.Writing.Tokens

/-!
# The height of trees

How high the tree of an accepted text can be. The levels that may be open at once bound how often a path in the tree turns away
from the first part of an expression (`nesting_le_of_parse`). A chain of operators or of suffixes opens no level however long
it is, so the height itself is bounded by the text alone (`height_unbounded`).
-/

namespace CellExpr

open TokenReader

namespace Expr

/-! ## Height and nesting -/

mutual

/-- The number of expressions on the longest path in a tree. -/
def height : Expr → Nat
  | literal _ | var _ => 1
  | field base _ => base.height + 1
  | index base position => max base.height position.height + 1
  | array items => heights items + 1
  | call _ args => heights args + 1
  | control _ args none => heights args + 1
  | control _ args (some ⟨_, body⟩) => max (heights args) body.height + 1
  | unary _ operand => operand.height + 1
  | binary _ left right => max left.height right.height + 1
  | conditional condition yes no => max condition.height (max yes.height no.height) + 1

/-- The height of the highest of some trees. -/
def heights : List Expr → Nat
  | [] => 0
  | e :: rest => max e.height (heights rest)

end

mutual

/-- The height of a tree without the steps to the first part of an expression: from an operator to its left operand, from a
field or a position to what has it, and from a call or a control form to its first argument. -/
def nesting : Expr → Nat
  | literal _ | var _ => 1
  | field base _ => base.nesting
  | index base position => max base.nesting (position.nesting + 1)
  | array items => nestings items + 1
  | call _ args => argumentNesting args
  | control _ args none => argumentNesting args
  | control _ args (some ⟨_, body⟩) => max (argumentNesting args) (body.nesting + 1)
  | unary _ operand => operand.nesting + 1
  | binary _ left right => max left.nesting (right.nesting + 1)
  | conditional condition yes no => max condition.nesting (max yes.nesting no.nesting) + 1

/-- The nesting of a call with arguments, of which the first is not counted as a step. -/
def argumentNesting : List Expr → Nat
  | [] => 1
  | first :: rest => max first.nesting (nestings rest + 1)

/-- The greatest nesting of some trees. -/
def nestings : List Expr → Nat
  | [] => 0
  | e :: rest => max e.nesting (nestings rest)

end

variable {bound : Nat} {es : List Expr} {e : Expr}

theorem heights_le_iff : heights es ≤ bound ↔ ∀ e ∈ es, e.height ≤ bound := by
  induction es with
  | nil => simp [heights]
  | cons e es ih => rw [heights, Nat.max_le, ih, List.forall_mem_cons]

theorem nestings_le_iff : nestings es ≤ bound ↔ ∀ e ∈ es, e.nesting ≤ bound := by
  induction es with
  | nil => simp [nestings]
  | cons e es ih => rw [nestings, Nat.max_le, ih, List.forall_mem_cons]

end Expr

open CellExpr.Expr

variable {p : Phrase} {n bound : Nat} {ts : List TokenKind} {name : String} {args : List Expr} {e : Expr}

/-! ## What calls add -/

/-- A call is one step higher than its arguments at most. -/
theorem CallOf.height_le (h : CallOf name args e) (hargs : ∀ a ∈ args, a.height ≤ bound) : e.height ≤ bound + 1 := by
  cases h with
  | function => exact Nat.succ_le_succ (heights_le_iff.2 hargs)
  | choice => exact Nat.succ_le_succ (heights_le_iff.2 hargs)
  | binding form before params body after =>
    refine Nat.succ_le_succ (Nat.max_le.2 ⟨heights_le_iff.2 fun a ha => hargs a ?_, hargs body (by simp)⟩)
    rcases List.mem_append.1 ha with ha | ha <;> simp [ha]

/-- A call nests one step more than its arguments after the first one, and no more than the first one. -/
theorem CallOf.nesting_le {first : Expr} {rest : List Expr} (h : CallOf name (first :: rest) e)
    (hfirst : first.nesting ≤ bound + 1) (hrest : ∀ a ∈ rest, a.nesting ≤ bound) : e.nesting ≤ bound + 1 := by
  generalize hargs : first :: rest = args at h
  cases h with
  | function =>
    subst hargs
    exact Nat.max_le.2 ⟨hfirst, Nat.succ_le_succ (nestings_le_iff.2 hrest)⟩
  | choice =>
    obtain ⟨rfl, rfl⟩ := List.cons.inj hargs
    exact Nat.max_le.2 ⟨hfirst, Nat.succ_le_succ (nestings_le_iff.2 hrest)⟩
  | binding form before params body after hbefore =>
    have hpos : 0 < before.length := by
      rw [hbefore]
      cases form <;> decide
    obtain ⟨first', before, rfl⟩ := List.exists_cons_of_length_pos hpos
    obtain ⟨rfl, rfl⟩ := List.cons.inj hargs
    refine Nat.max_le.2 ⟨Nat.max_le.2 ⟨hfirst, Nat.succ_le_succ (nestings_le_iff.2 fun a ha => hrest a ?_)⟩, ?_⟩
    · rcases List.mem_append.1 ha with ha | ha <;> simp [ha]
    · exact Nat.succ_le_succ (hrest body (by simp))

/-- A call by name nests one step more than its arguments at most. -/
theorem CallOf.nesting_le_of_all (h : CallOf name args e) (hargs : ∀ a ∈ args, a.nesting ≤ bound) :
    e.nesting ≤ bound + 1 := by
  cases args with
  | cons first rest =>
    exact h.nesting_le (Nat.le_succ_of_le (hargs first List.mem_cons_self)) fun a ha => hargs a (List.mem_cons_of_mem _ ha)
  | nil =>
    generalize hargs : ([] : List Expr) = args at h
    cases h with
    | function =>
      subst hargs
      exact Nat.succ_pos bound
    | choice => cases hargs
    | binding form before => simp at hargs

/-! ## Bounds -/

/-- Arguments whose trees are no higher than they are long are lower than the list of them in brackets. -/
theorem Arguments.height_lt {args : Arguments} (opening closing : Mark)
    (h : ∀ a ∈ args, a.2.height ≤ a.1.length) : ∀ e ∈ args.trees, e.height + 2 ≤ (enclosed opening closing args.phrases).length := by
  intro e he
  obtain ⟨a, ha, rfl⟩ := List.mem_map.1 he
  have hlength : a.1.length ≤ (separated args.phrases).length := length_le_of_mem_separated (List.mem_map_of_mem ha)
  have := h a ha
  rw [length_enclosed]
  omega

/-- The tree of a phrase is no higher than the phrase is long. -/
theorem Derives.height_le (h : Derives p n ts e) : e.height ≤ ts.length := by
  induction h with
  | plain _ ih | tighter _ _ ih | operand _ ih | unsigned _ ih | bare _ ih => exact ih
  | conditional | chain | signed | field | index | group =>
    simp only [height, List.length_append, List.length_cons, List.length_nil]
    omega
  | @method _ ts base _ name args _ _ hcall ih ihargs =>
    rw [List.length_append, List.length_cons, List.length_cons, ← Nat.add_assoc]
    refine hcall.height_le fun e he => ?_
    rcases List.mem_cons.1 he with rfl | he
    · exact Nat.le_trans ih (Nat.le_add_right _ _)
    · have := Arguments.height_lt .openParen .closeParen ihargs e he
      exact Nat.le_trans (by omega) (Nat.le_add_left _ _)
  | call name args _ hcall ih =>
    rw [List.length_cons]
    refine hcall.height_le fun e he => ?_
    have := Arguments.height_lt .openParen .closeParen ih e he
    omega
  | choice args _ hcall ih =>
    rw [List.length_cons]
    refine hcall.height_le fun e he => ?_
    have := Arguments.height_lt .openParen .closeParen ih e he
    omega
  | array items _ ih =>
    rw [height, length_enclosed]
    refine Nat.succ_le_succ (heights_le_iff.2 fun e he => ?_)
    have := Arguments.height_lt .openBracket .closeBracket ih e he
    rw [length_enclosed] at this
    omega
  | _ => exact Nat.le_refl 1

/-- How much a phrase nests with so many levels. Each level adds one step into it, one for each of the six rungs and one into
brackets. -/
def Phrase.nestingBound : Phrase → Nat → Nat
  | expr, n => 8 * n
  | rung k, n => 8 * n + 7 - k
  | _, n => 8 * n + 1

/-- The tree of a phrase nests as far as the levels allow. -/
theorem Derives.nesting_le (h : Derives p n ts e) : e.nesting ≤ p.nestingBound n := by
  have htrees : ∀ {args : Arguments} {n : Nat}, (∀ a ∈ args, a.2.nesting ≤ 8 * n) → ∀ e ∈ args.trees, e.nesting ≤ 8 * n := by
    intro args n hargs e he
    obtain ⟨a, ha, rfl⟩ := List.mem_map.1 he
    exact hargs a ha
  induction h with
  | method name args _ _ hcall ih ihargs => exact hcall.nesting_le ih (htrees ihargs)
  | call name args _ hcall ih => exact hcall.nesting_le_of_all (htrees ih)
  | choice args _ hcall ih => exact hcall.nesting_le_of_all (htrees ih)
  | array items _ ih => exact Nat.succ_le_succ (nestings_le_iff.2 (htrees ih))
  | chain op _ _ ihl ihr =>
    have := op.rank_lt
    simp only [Phrase.nestingBound, BinaryOp.rungs, nesting] at *
    omega
  | _ =>
    simp only [Phrase.nestingBound, BinaryOp.rungs, nesting] at *
    omega

/-! ## Trees of any height -/

namespace Expr

/-- A sum of one more variables than it says, joined from the left. -/
def sumOf : Nat → Expr
  | 0 => .var "a"
  | n + 1 => .binary .add (sumOf n) (.var "a")

theorem height_sumOf (n : Nat) : (sumOf n).height = n + 1 := by
  induction n with
  | zero => rfl
  | succ n ih =>
    simp only [sumOf, height, ih]
    omega

theorem depth_sumOf (n : Nat) : (sumOf n).depth = 0 := by
  induction n with
  | zero => rfl
  | succ n ih =>
    have htight : ¬(sumOf n).tightness < BinaryOp.add.rank + 1 := by
      cases n <;> simp [sumOf, tightness, BinaryOp.rank]
    have hvar : ¬(Expr.var "a").tightness < BinaryOp.add.rank + 2 := by decide
    simp only [sumOf, depth, groupedDepth, if_neg htight, if_neg hvar, ih, Nat.max_self]

theorem formed_sumOf (n : Nat) : (sumOf n).Formed TokenKind.HasSpelling := by
  have hvar : (Expr.var "a").Formed TokenKind.HasSpelling := .var "a" ⟨⟨_, _, rfl, by decide +kernel⟩, rfl⟩
  induction n with
  | zero => exact hvar
  | succ n ih => exact .binary .add ih hvar

/-- A sum without a blank character in it is read as such. -/
theorem parse_sumOf (n : Nat) : Expr.parse ((sumOf n).print fun _ => []) = .ok (sumOf n) := by
  have hderives := (written_of_formed (formed_sumOf n)).expr maxNesting (by rw [depth_sumOf]; decide)
  exact parse_written hderives (ok_of_mem_words (fun _ => trivial) hasSpelling_word (formed_sumOf n)) fun _ => nofun

/-- No bound on the height holds for all accepted texts: a sum is as high as it has terms. -/
theorem height_unbounded :
    ¬∃ bound, ∀ (text : String) (e : Expr), Expr.parse text = .ok e → e.height ≤ bound := by
  rintro ⟨bound, h⟩
  have hle := h _ _ (parse_sumOf bound)
  rw [height_sumOf] at hle
  exact Nat.not_succ_le_self bound hle

end Expr

/-! ## Accepted texts -/

/-- The tree of an accepted text has no more than eight steps for each level that may be open, apart from steps to the first
part of an expression, and it is no higher than the text is long. -/
theorem nesting_le_of_parse {text : String} (h : Expr.parse text = .ok e) :
    e.nesting ≤ 8 * maxNesting ∧ e.height ≤ text.toList.length := by
  obtain ⟨ts, hderives, _, hlength⟩ := derives_of_parse h
  exact ⟨hderives.nesting_le, Nat.le_trans hderives.height_le hlength⟩

/-- In `a+a+a` the sum before the last sign is no step. -/
theorem nesting_le_of_parse_sum :
    Expr.parse "a+a+a" = .ok (Expr.sumOf 2) ∧ (Expr.sumOf 2).nesting ≤ 8 * maxNesting ∧ (Expr.sumOf 2).height ≤ 5 := by
  have htext : (Expr.sumOf 2).print (fun _ => []) = "a+a+a" := by decide +kernel
  have hparse : Expr.parse "a+a+a" = .ok (Expr.sumOf 2) := htext ▸ Expr.parse_sumOf 2
  exact ⟨hparse, nesting_le_of_parse hparse⟩

end CellExpr
