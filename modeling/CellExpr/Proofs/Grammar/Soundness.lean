import CellExpr.Proofs.Grammar.Calls
import CellExpr.Proofs.Grammar.Reading

/-!
# What readers read

Each reader of a part of an expression reads a phrase of the grammar and gives its tree (`level_sound`). Chains of operators
and of suffixes are read by loops, whose invariant is that what has been read so far is a phrase of the same sort.
-/

namespace CellExpr

namespace TokenReader

/-- A reader is sound for a sort of phrases: what it reads is a phrase of that sort with the tree it gives. -/
def SoundFor (p : Phrase) (n : Nat) (r : TokenReader Expr) : Prop :=
  ∀ v e w, r.run v = .ok (e, w) → ∃ ts, v.Passes ts w ∧ Derives p n ts e

/-! ## Operators -/

/-- The operators that a mark stands for on a rung. -/
theorem rank_mark_of_levels {k : Nat} {ops : Operators} {m : Mark} {op : BinaryOp} (hk : levels[k]? = some ops)
    (h : ops m = some op) : op.rank = k ∧ op.mark = m := by
  match k with
  | 0 | 1 | 2 | 3 | 4 | 5 =>
    obtain rfl := Option.some.inj hk
    dsimp only at h
    split at h <;> cases h <;> exact ⟨rfl, rfl⟩
  | k + 6 => cases hk

/-- A rung has the operators of its rank. -/
theorem levels_mark {op : BinaryOp} {ops : Operators} (hk : levels[op.rank]? = some ops) : ops op.mark = some op := by
  cases op <;> (obtain rfl := Option.some.inj hk; rfl)

/-- The reader of a rung and of those below it. -/
def rungReader (fuel : Nat) (unary : TokenReader Expr) (k : Nat) : TokenReader Expr :=
  (levels.drop k).foldr (chain fuel) unary

/-- A rung is read as a chain of the next one. -/
theorem rungReader_of_lt (fuel : Nat) (unary : TokenReader Expr) {k : Nat} (hk : k < BinaryOp.rungs) :
    ∃ ops, levels[k]? = some ops ∧ rungReader fuel unary k = chain fuel ops (rungReader fuel unary (k + 1)) := by
  refine ⟨levels[k], List.getElem?_eq_getElem hk, ?_⟩
  unfold rungReader
  rw [List.drop_eq_getElem_cons hk]
  rfl

variable {n k : Nat} {v w : TokenView} {e : Expr}

/-- A chain that goes on from an operand reads further operands of its rung. -/
theorem chainFrom_sound {ops : Operators} {operand : TokenReader Expr} (hk : levels[k]? = some ops)
    (hr : SoundFor (.rung (k + 1)) n operand) {fuel : Nat} {left : Expr} {ls : List TokenKind}
    (hleft : Derives (.rung k) n ls left) (h : (chainFrom ops operand fuel left).run v = .ok (e, w)) :
    ∃ ts, v.Passes ts w ∧ Derives (.rung k) n (ls ++ ts) e := by
  induction fuel generalizing left ls v with
  | zero =>
    obtain ⟨rfl, rfl⟩ := run_pure_eq_ok.1 h
    exact ⟨[], .refl w, by rwa [List.append_nil]⟩
  | succ fuel ih =>
    rw [chainFrom, run_peek_bind] at h
    split at h
    · rename_i m hm
      split at h
      · rename_i op hop
        obtain ⟨_, u, hu, h⟩ := run_bind_eq_ok.1 h
        obtain ⟨right, u', hright, h⟩ := run_bind_eq_ok.1 h
        obtain ⟨rs, hrs, hright⟩ := hr u right u' hright
        obtain ⟨rfl, rfl⟩ := rank_mark_of_levels hk hop
        obtain ⟨ts, hts, he⟩ := ih (.chain op hleft hright) h
        have hmark := TokenView.Passes.single hm nofun (run_discard_bump_eq_ok.1 hu)
        exact ⟨.mark op.mark :: rs ++ ts, (hmark.append hrs).append hts, by simpa using he⟩
      · obtain ⟨rfl, rfl⟩ := run_pure_eq_ok.1 h
        exact ⟨[], .refl w, by rwa [List.append_nil]⟩
    · obtain ⟨rfl, rfl⟩ := run_pure_eq_ok.1 h
      exact ⟨[], .refl w, by rwa [List.append_nil]⟩

/-- Each rung reads phrases of that rung. The induction goes up from the operands. -/
theorem rungReader_sound {fuel : Nat} {unary : TokenReader Expr} (hu : SoundFor .unary n unary) (j : Nat)
    (hj : j ≤ BinaryOp.rungs) : SoundFor (.rung (BinaryOp.rungs - j)) n (rungReader fuel unary (BinaryOp.rungs - j)) := by
  induction j with
  | zero =>
    intro v e w h
    obtain ⟨ts, hts, he⟩ := hu v e w h
    exact ⟨ts, hts, .operand he⟩
  | succ j ih =>
    intro v e w h
    obtain ⟨k, hk⟩ : ∃ k, k = BinaryOp.rungs - (j + 1) := ⟨_, rfl⟩
    have hnext : BinaryOp.rungs - j = k + 1 := by omega
    have hlt : k < BinaryOp.rungs := by omega
    rw [← hk] at h ⊢
    have ih := ih (by omega)
    rw [hnext] at ih
    obtain ⟨ops, hops, heq⟩ := rungReader_of_lt fuel unary hlt
    rw [heq, chain] at h
    obtain ⟨left, u, hleft, h⟩ := run_bind_eq_ok.1 h
    obtain ⟨ls, hls, hleft⟩ := ih v left u hleft
    obtain ⟨ts, hts, he⟩ := chainFrom_sound hops ih (.tighter hlt hleft) h
    exact ⟨ls ++ ts, hls.append hts, he⟩

theorem binary_sound {fuel : Nat} {unary : TokenReader Expr} (hu : SoundFor .unary n unary) :
    SoundFor (.rung 0) n (binary fuel unary) :=
  rungReader_sound hu BinaryOp.rungs (Nat.le_refl _)

theorem conditional_sound {fuel : Nat} {expr unary : TokenReader Expr} (he : SoundFor .expr n expr)
    (hu : SoundFor .unary n unary) : SoundFor .expr (n + 1) (conditional fuel expr unary) := by
  intro v e w h
  rw [conditional] at h
  obtain ⟨c, u, hread, h⟩ := run_bind_eq_ok.1 h
  obtain ⟨cs, hcs, hc⟩ := binary_sound hu v c u hread
  by_cases hq : u.current.kind = .mark .question
  · rw [run_sees_bind_of_eq hq, if_pos rfl] at h
    obtain ⟨_, u1, hu1, h⟩ := run_bind_eq_ok.1 h
    obtain ⟨yes, u2, hyes, h⟩ := run_bind_eq_ok.1 h
    obtain ⟨_, u3, hu3, h⟩ := run_bind_eq_ok.1 h
    obtain ⟨no, u4, hno, h⟩ := run_bind_eq_ok.1 h
    obtain ⟨rfl, rfl⟩ := run_pure_eq_ok.1 h
    obtain ⟨ys, hys, hyes⟩ := he u1 yes u2 hyes
    obtain ⟨ns, hns, hno⟩ := he u3 no _ hno
    obtain ⟨hcolon, hu3⟩ := run_expect_eq_ok.1 hu3
    have hquestion := TokenView.Passes.single hq nofun (run_discard_bump_eq_ok.1 hu1)
    have hcolon := TokenView.Passes.single hcolon nofun hu3
    refine ⟨_, hcs.append (hquestion.append (hys.append (hcolon.append hns))), ?_⟩
    simpa using Derives.conditional hc hyes hno
  · rw [run_sees_bind_of_ne hq] at h
    obtain ⟨rfl, rfl⟩ := run_pure_eq_ok.1 h
    exact ⟨cs, hcs, .plain hc⟩

/-! ## Lists of arguments -/

/-- Phrases with commas between them and the closing mark are read as a list of their trees. -/
theorem itemsFrom_sound {expr : TokenReader Expr} (he : SoundFor .expr n expr) {close : Mark} {fault : SyntaxFault}
    {fuel : Nat} {es : List Expr} (h : (itemsFrom expr close fault fuel).run v = .ok (es, w)) :
    ∃ args : Arguments, args ≠ [] ∧ args.trees = es ∧ (∀ a ∈ args, Derives .expr n a.1 a.2) ∧
      v.Passes (separated args.phrases ++ [.mark close]) w := by
  induction fuel generalizing v es with
  | zero => exact absurd h run_fail_ne_ok
  | succ fuel ih =>
    rw [itemsFrom] at h
    obtain ⟨item, u, hitem, h⟩ := run_bind_eq_ok.1 h
    obtain ⟨ts, hts, hitem⟩ := he v item u hitem
    by_cases hcomma : u.current.kind = .mark .comma
    · rw [run_sees_bind_of_eq hcomma, if_pos rfl] at h
      obtain ⟨_, u1, hu1, h⟩ := run_bind_eq_ok.1 h
      obtain ⟨rest, u2, hrest, h⟩ := run_bind_eq_ok.1 h
      obtain ⟨rfl, rfl⟩ := run_pure_eq_ok.1 h
      obtain ⟨args, hne, rfl, hargs, hpasses⟩ := ih hrest
      obtain ⟨a, rest, rfl⟩ := List.exists_cons_of_ne_nil hne
      have hcomma := TokenView.Passes.single hcomma nofun (run_discard_bump_eq_ok.1 hu1)
      refine ⟨(ts, item) :: a :: rest, nofun, rfl, ?_, ?_⟩
      · simpa using ⟨hitem, by simpa using hargs⟩
      · simpa [Arguments.phrases, separated] using hts.append (hcomma.append hpasses)
    · rw [run_sees_bind_of_ne hcomma] at h
      by_cases hclose : u.current.kind = .mark close
      · rw [if_neg nofun, run_sees_bind_of_eq hclose, if_pos rfl] at h
        obtain ⟨_, u1, hu1, h⟩ := run_bind_eq_ok.1 h
        obtain ⟨rfl, rfl⟩ := run_pure_eq_ok.1 h
        have hclose := TokenView.Passes.single hclose nofun (run_discard_bump_eq_ok.1 hu1)
        exact ⟨[(ts, item)], nofun, rfl, by simpa using hitem, hts.append hclose⟩
      · rw [if_neg nofun, run_sees_bind_of_ne hclose] at h
        exact absurd h run_fail_ne_ok

theorem items_sound {expr : TokenReader Expr} (he : SoundFor .expr n expr) {close : Mark} {fault : SyntaxFault}
    {fuel : Nat} {es : List Expr} (h : (items fuel expr close fault).run v = .ok (es, w)) :
    ∃ args : Arguments, args.trees = es ∧ (∀ a ∈ args, Derives .expr n a.1 a.2) ∧
      v.Passes (separated args.phrases ++ [.mark close]) w := by
  rw [items] at h
  by_cases hclose : v.current.kind = .mark close
  · rw [run_sees_bind_of_eq hclose, if_pos rfl] at h
    obtain ⟨_, u1, hu1, h⟩ := run_bind_eq_ok.1 h
    obtain ⟨rfl, rfl⟩ := run_pure_eq_ok.1 h
    exact ⟨[], rfl, nofun, TokenView.Passes.single hclose nofun (run_discard_bump_eq_ok.1 hu1)⟩
  · rw [run_sees_bind_of_ne hclose] at h
    obtain ⟨args, _, htrees, hargs, hpasses⟩ := itemsFrom_sound he h
    exact ⟨args, htrees, hargs, hpasses⟩

theorem arguments_sound {expr : TokenReader Expr} (he : SoundFor .expr n expr) {fuel : Nat} {es : List Expr}
    (h : (arguments fuel expr).run v = .ok (es, w)) :
    ∃ args : Arguments, args.trees = es ∧ (∀ a ∈ args, Derives .expr n a.1 a.2) ∧
      v.Passes (enclosed .openParen .closeParen args.phrases) w := by
  rw [arguments] at h
  obtain ⟨_, u, hu, h⟩ := run_bind_eq_ok.1 h
  obtain ⟨hopen, hu⟩ := run_expect_eq_ok.1 hu
  obtain ⟨args, htrees, hargs, hpasses⟩ := items_sound he h
  exact ⟨args, htrees, hargs, (TokenView.Passes.single hopen nofun hu).append hpasses⟩

/-! ## Operands -/

/-- A regular expression is read from its source. -/
theorem regexOf_eq_ok_iff {source : String} {ignoreCase : Bool} {position : Nat} {r : Regex} :
    regexOf source ignoreCase position = .ok r ↔ r.source = source ∧ r.ignoreCase = ignoreCase := by
  rw [← Regex.build_eq_ok_iff, regexOf]
  cases Regex.build source ignoreCase with
  | error f => constructor <;> intro h <;> cases h
  | ok r' => constructor <;> intro h <;> cases h <;> rfl

theorem literal_sound {l : Literal} {k : TokenKind} (hk : v.current.kind = k) (hf : k ≠ .finish)
    (hl : Derives .atom n [k] (.literal l)) (h : (literal l).run v = .ok (e, w)) :
    ∃ ts, v.Passes ts w ∧ Derives .atom n ts e := by
  rw [literal] at h
  obtain ⟨_, u, hu, h⟩ := run_bind_eq_ok.1 h
  obtain ⟨rfl, rfl⟩ := run_pure_eq_ok.1 h
  exact ⟨[k], .single hk hf (run_discard_bump_eq_ok.1 hu), hl⟩

/-- A call is read from its name on. -/
theorem call_sound {expr : TokenReader Expr} (he : SoundFor .expr n expr) {fuel position : Nat} {name : String}
    (h : (do callOf name (← arguments fuel expr) position : TokenReader Expr).run v = .ok (e, w)) :
    ∃ args : Arguments, (∀ a ∈ args, Derives .expr n a.1 a.2) ∧ CallOf name args.trees e ∧
      v.Passes (enclosed .openParen .closeParen args.phrases) w := by
  obtain ⟨es, u, hes, h⟩ := run_bind_eq_ok.1 h
  obtain ⟨hcall, rfl⟩ := run_lift_eq_ok.1 h
  obtain ⟨args, rfl, hargs, hpasses⟩ := arguments_sound he hes
  exact ⟨args, hargs, callOf_eq_ok_iff.1 hcall, hpasses⟩

theorem atom_sound {expr : TokenReader Expr} (he : SoundFor .expr n expr) {fuel : Nat} :
    SoundFor .atom n (atom fuel expr) := by
  intro v e w h
  rw [atom, run_peek_bind] at h
  split at h
  · rename_i x hk
    exact literal_sound hk nofun (.number x) h
  · rename_i s hk
    exact literal_sound hk nofun (.string s) h
  · rename_i source ignoreCase hk
    obtain ⟨view, u, hview, h⟩ := run_bind_eq_ok.1 h
    cases hview
    obtain ⟨r, u', hlift, hliteral⟩ := run_bind_eq_ok.1 h
    obtain ⟨hr, rfl⟩ := run_lift_eq_ok.1 hlift
    obtain ⟨rfl, rfl⟩ := regexOf_eq_ok_iff.1 hr
    exact literal_sound hk nofun (.regex r) hliteral
  · rename_i hk
    exact literal_sound hk nofun (.boolean Bool.true) h
  · rename_i hk
    exact literal_sound hk nofun (.boolean Bool.false) h
  · rename_i hk
    exact literal_sound hk nofun .null h
  · rename_i hk
    obtain ⟨t, u, hu, h⟩ := run_bind_eq_ok.1 h
    by_cases hopen : u.current.kind = .mark .openParen
    · rw [run_sees_bind_of_eq hopen, if_pos rfl] at h
      obtain ⟨args, hargs, hcall, hpasses⟩ := call_sound he h
      exact ⟨_, .append (.single hk nofun (run_bump_eq_ok.1 hu).2) hpasses, .choice args hargs hcall⟩
    · rw [run_sees_bind_of_ne hopen] at h
      exact absurd h run_fail_ne_ok
  · rename_i name hk
    obtain ⟨t, u, hu, h⟩ := run_bind_eq_ok.1 h
    have hname := TokenView.Passes.single hk nofun (run_bump_eq_ok.1 hu).2
    by_cases hopen : u.current.kind = .mark .openParen
    · rw [run_sees_bind_of_eq hopen, if_pos rfl] at h
      obtain ⟨args, hargs, hcall, hpasses⟩ := call_sound he h
      exact ⟨_, hname.append hpasses, .call name args hargs hcall⟩
    · rw [run_sees_bind_of_ne hopen] at h
      obtain ⟨rfl, rfl⟩ := run_pure_eq_ok.1 h
      exact ⟨_, hname, .var name⟩
  · rename_i hk
    obtain ⟨_, u, hu, h⟩ := run_bind_eq_ok.1 h
    obtain ⟨inner, u', hinner, h⟩ := run_bind_eq_ok.1 h
    obtain ⟨_, u'', hclose, h⟩ := run_bind_eq_ok.1 h
    obtain ⟨rfl, rfl⟩ := run_pure_eq_ok.1 h
    obtain ⟨ts, hts, hinner⟩ := he u e u' hinner
    obtain ⟨hclose, hend⟩ := run_expect_eq_ok.1 hclose
    have hopen := TokenView.Passes.single hk nofun (run_discard_bump_eq_ok.1 hu)
    exact ⟨_, hopen.append (hts.append (.single hclose nofun hend)), .group hinner⟩
  · rename_i hk
    obtain ⟨_, u, hu, h⟩ := run_bind_eq_ok.1 h
    obtain ⟨es, u', hes, h⟩ := run_bind_eq_ok.1 h
    obtain ⟨rfl, rfl⟩ := run_pure_eq_ok.1 h
    obtain ⟨items, rfl, hitems, hpasses⟩ := items_sound he hes
    exact ⟨_, .append (.single hk nofun (run_discard_bump_eq_ok.1 hu)) hpasses, .array items hitems⟩
  · exact absurd h run_fail_ne_ok
  · exact absurd h run_fail_ne_ok

/-- What follows an operand is read as further suffixes of it. -/
theorem suffixesFrom_sound {expr : TokenReader Expr} (he : SoundFor .expr n expr) {fuel count : Nat} {base : Expr}
    {bs : List TokenKind} (hbase : Derives .suffixed n bs base)
    (h : (suffixesFrom fuel expr count base).run v = .ok (e, w)) :
    ∃ ts, v.Passes ts w ∧ Derives .suffixed n (bs ++ ts) e := by
  induction count generalizing base bs v with
  | zero =>
    obtain ⟨rfl, rfl⟩ := run_pure_eq_ok.1 h
    exact ⟨[], .refl w, by rwa [List.append_nil]⟩
  | succ count ih =>
    rw [suffixesFrom] at h
    by_cases hdot : v.current.kind = .mark .dot
    · rw [run_sees_bind_of_eq hdot, if_pos rfl] at h
      obtain ⟨_, u, hu, h⟩ := run_bind_eq_ok.1 h
      have hdot := TokenView.Passes.single hdot nofun (run_discard_bump_eq_ok.1 hu)
      rw [run_peek_bind] at h
      split at h
      · rename_i name hk
        obtain ⟨t, u1, hu1, h⟩ := run_bind_eq_ok.1 h
        have hname := hdot.append (.single hk nofun (run_bump_eq_ok.1 hu1).2)
        by_cases hopen : u1.current.kind = .mark .openParen
        · rw [run_sees_bind_of_eq hopen, if_pos rfl] at h
          obtain ⟨es, u2, hes, h⟩ := run_bind_eq_ok.1 h
          obtain ⟨called, u3, hlift, htail⟩ := run_bind_eq_ok.1 h
          obtain ⟨hcall, rfl⟩ := run_lift_eq_ok.1 hlift
          obtain ⟨args, rfl, hargs, hpasses⟩ := arguments_sound he hes
          obtain ⟨ts, hts, htree⟩ := ih (.method name args hbase hargs (callOf_eq_ok_iff.1 hcall)) htail
          exact ⟨_, (hname.append hpasses).append hts, by simpa using htree⟩
        · rw [run_sees_bind_of_ne hopen] at h
          obtain ⟨ts, hts, htree⟩ := ih (.field name hbase) h
          exact ⟨_, hname.append hts, by simpa using htree⟩
      · exact absurd h run_fail_ne_ok
    · rw [run_sees_bind_of_ne hdot, if_neg nofun] at h
      by_cases hopen : v.current.kind = .mark .openBracket
      · rw [run_sees_bind_of_eq hopen, if_pos rfl] at h
        obtain ⟨_, u, hu, h⟩ := run_bind_eq_ok.1 h
        obtain ⟨position, u1, hposition, h⟩ := run_bind_eq_ok.1 h
        obtain ⟨_, u2, hclose, h⟩ := run_bind_eq_ok.1 h
        obtain ⟨ps, hps, hposition⟩ := he u position u1 hposition
        obtain ⟨hclose, hend⟩ := run_expect_eq_ok.1 hclose
        obtain ⟨ts, hts, htree⟩ := ih (.index hbase hposition) h
        have hopen := TokenView.Passes.single hopen nofun (run_discard_bump_eq_ok.1 hu)
        have hclose := TokenView.Passes.single hclose nofun hend
        exact ⟨_, ((hopen.append hps).append hclose).append hts, by simpa using htree⟩
      · rw [run_sees_bind_of_ne hopen] at h
        obtain ⟨rfl, rfl⟩ := run_pure_eq_ok.1 h
        exact ⟨[], .refl w, by rwa [List.append_nil]⟩

theorem suffixed_sound {expr : TokenReader Expr} (he : SoundFor .expr n expr) {fuel : Nat} :
    SoundFor .suffixed n (suffixed fuel expr) := by
  intro v e w h
  rw [suffixed] at h
  obtain ⟨base, u, hbase, h⟩ := run_bind_eq_ok.1 h
  obtain ⟨bs, hbs, hbase⟩ := atom_sound he v base u hbase
  obtain ⟨ts, hts, htree⟩ := suffixesFrom_sound he (.bare hbase) h
  exact ⟨bs ++ ts, hbs.append hts, htree⟩

/-! ## Levels -/

/-- The kind of a token that is an operator before an operand. -/
theorem unaryOp?_eq_some {k : TokenKind} {op : UnaryOp} (h : unaryOp? k = some op) : k = .mark op.mark := by
  unfold unaryOp? at h
  split at h <;> cases h <;> rfl

/-- An operand with operators before it is read as such, if the operators after the first one are. -/
theorem unaryWith_sound {inner expr : TokenReader Expr} {fuel : Nat} (he : SoundFor .expr n expr)
    (hi : ∀ v e w, inner.run v = .ok (e, w) → ∃ m ts, n = m + 1 ∧ v.Passes ts w ∧ Derives .unary m ts e) :
    SoundFor .unary n (unaryWith fuel inner expr) := by
  intro v e w h
  rw [unaryWith, run_peek_bind] at h
  split at h
  · rename_i op hop
    obtain ⟨_, u, hu, h⟩ := run_bind_eq_ok.1 h
    obtain ⟨operand, u', hoperand, h⟩ := run_bind_eq_ok.1 h
    obtain ⟨rfl, rfl⟩ := run_pure_eq_ok.1 h
    obtain ⟨m, ts, rfl, hts, hoperand⟩ := hi u operand _ hoperand
    have hmark := TokenView.Passes.single (unaryOp?_eq_some hop) nofun (run_discard_bump_eq_ok.1 hu)
    exact ⟨_, hmark.append hts, .signed op hoperand⟩
  · obtain ⟨ts, hts, htree⟩ := suffixed_sound he v e w h
    exact ⟨ts, hts, .unsigned htree⟩

/-- With so many levels that may be opened, expressions and operands are read as the grammar has them with that number of
levels. -/
theorem level_sound (fuel n : Nat) :
    SoundFor .expr n (level fuel n).expr ∧ SoundFor .unary n (level fuel n).unary := by
  induction n with
  | zero =>
    have he : SoundFor .expr 0 (fail .tooDeep) := fun v e w h => absurd h run_fail_ne_ok
    exact ⟨he, unaryWith_sound he fun v e w h => absurd h run_fail_ne_ok⟩
  | succ n ih =>
    have he : SoundFor .expr (n + 1) (level fuel (n + 1)).expr := conditional_sound ih.1 ih.2
    refine ⟨he, unaryWith_sound he fun v e w h => ?_⟩
    obtain ⟨ts, hts, htree⟩ := ih.2 v e w h
    exact ⟨n, ts, rfl, hts, htree⟩

/-- A whole text is read as an expression that ends with it. -/
theorem whole_sound {fuel : Nat} (h : (whole fuel).run v = .ok (e, w)) :
    ∃ ts, v.Passes ts w ∧ w.current.kind = .finish ∧ Derives .expr maxNesting ts e := by
  rw [whole] at h
  obtain ⟨tree, u, htree, h⟩ := run_bind_eq_ok.1 h
  obtain ⟨ts, hts, hderives⟩ := (level_sound fuel maxNesting).1 v tree u htree
  rw [run_peek_bind] at h
  split at h
  · rename_i hfinish
    obtain ⟨rfl, rfl⟩ := run_pure_eq_ok.1 h
    exact ⟨ts, hts, hfinish, hderives⟩
  · exact absurd h run_fail_ne_ok

end TokenReader

end CellExpr
