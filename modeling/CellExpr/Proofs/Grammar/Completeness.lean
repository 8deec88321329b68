import CellExpr.Proofs.Grammar.Soundness

/-!
# What is read in full

Every phrase of the grammar is read to its end, and its tree is given, if the token after it does not hold on to it
(`Derives.read`). The loops read their phrases from the left, while a derivation has the last operator or suffix at its root:
the invariant is that a reader in front of a phrase goes on as its loop does after the phrase.
-/

namespace CellExpr

/-! ## Where phrases end -/

/-- How tightly a mark holds on to the operand before it. -/
def Mark.grip : Mark → Option Nat
  | question => some 0
  | either => some 1
  | both => some 2
  | equal | notEqual => some 3
  | greater | less | greaterEqual | lessEqual => some 4
  | plus | minus => some 5
  | star | slash | percent => some 6
  | dot | openBracket => some 7
  | openParen => some 8
  | _ => none

theorem BinaryOp.mark_grip (op : BinaryOp) : op.mark.grip = some (op.rank + 1) := by
  cases op <;> rfl

namespace Phrase

/-- How tightly a phrase is held together. -/
def tightness : Phrase → Nat
  | expr => 0
  | rung k => min k BinaryOp.rungs + 1
  | unary | suffixed => 7
  | atom => 8

/-- The phrases that stand between the operators or suffixes of a phrase. -/
def part : Phrase → Phrase
  | rung k => rung (k + 1)
  | suffixed => atom
  | p => p

theorem tightness_le_part (p : Phrase) : p.tightness ≤ p.part.tightness := by
  cases p <;> simp only [tightness, part] <;> omega

/-- Whether a phrase ends in front of a token, which does not hold on to it. -/
def EndsAt (p : Phrase) (k : TokenKind) : Prop := ∀ m g, k = .mark m → m.grip = some g → g < p.tightness

variable {p q : Phrase} {k : TokenKind} {m : Mark} {g : Nat}

theorem EndsAt.mono (h : p.EndsAt k) (hle : p.tightness ≤ q.tightness) : q.EndsAt k :=
  fun m g hm hg => Nat.lt_of_lt_of_le (h m g hm hg) hle

theorem EndsAt.part (h : p.EndsAt k) : p.part.EndsAt k := h.mono p.tightness_le_part

theorem endsAt_mark (hg : m.grip = some g) (hlt : g < p.tightness) : p.EndsAt (.mark m) := by
  intro m' g' hm hg'
  obtain rfl := TokenKind.mark.inj hm
  obtain rfl := Option.some.inj (hg.symm.trans hg')
  exact hlt

/-- Every phrase ends in front of a mark that holds on to nothing. -/
theorem endsAt_of_grip_eq_none (hg : m.grip = none) : p.EndsAt (.mark m) := by
  intro m' g' hm hg'
  obtain rfl := TokenKind.mark.inj hm
  cases hg.symm.trans hg'

theorem EndsAt.ne (h : p.EndsAt k) (hg : m.grip = some g) (hle : p.tightness ≤ g) : k ≠ .mark m :=
  fun hk => absurd (h m g hk hg) (Nat.not_lt.2 hle)

theorem endsAt_finish : p.EndsAt .finish := nofun

end Phrase

namespace TokenReader

/-! ## Readers of phrases -/

/-- The reader of a sort of phrases. -/
def reader (fuel : Nat) (l : Level) : Phrase → TokenReader Expr
  | .expr => l.expr
  | .rung k => rungReader fuel l.unary k
  | .unary => l.unary
  | .suffixed => suffixed fuel l.expr
  | .atom => atom fuel l.expr

/-- What the reader of a sort of phrases does after it has read a tree and as many operators or suffixes in it as `count`
says. -/
def resume (fuel : Nat) (l : Level) (count : Nat) (e : Expr) : Phrase → TokenReader Expr
  | .rung k =>
    match levels[k]? with
    | some ops => chainFrom ops (rungReader fuel l.unary (k + 1)) (fuel - count) e
    | none => return e
  | .suffixed => suffixesFrom fuel l.expr (fuel - count) e
  | _ => return e

/-- A phrase is read up to its end, and there its reader goes on with its tree. -/
def ReadsOn (p : Phrase) (n : Nat) (ts : List TokenKind) (e : Expr) : Prop :=
  ∃ count, count ≤ ts.length ∧ ∀ (fuel : Nat) (v w : TokenView), ts.length ≤ fuel → v.Passes ts w →
    p.part.EndsAt w.current.kind →
      (reader fuel (level fuel n) p).run v = (resume fuel (level fuel n) count e p).run w

/-- A phrase is read to its end and no further. -/
def Reads (p : Phrase) (n : Nat) (ts : List TokenKind) (e : Expr) : Prop :=
  ∀ (fuel : Nat) (v w : TokenView), ts.length ≤ fuel → v.Passes ts w → p.EndsAt w.current.kind →
    (reader fuel (level fuel n) p).run v = .ok (e, w)

variable {p : Phrase} {n k fuel : Nat} {ts : List TokenKind} {e : Expr} {v w : TokenView}

/-- A chain stops in front of a token that is none of its operators. -/
theorem chainFrom_stops {ops : Operators} {operand : TokenReader Expr} (hk : levels[k]? = some ops)
    (h : (Phrase.rung k).EndsAt w.current.kind) : (chainFrom ops operand fuel e).run w = .ok (e, w) := by
  cases fuel with
  | zero => rfl
  | succ fuel =>
    rw [chainFrom, run_peek_bind]
    split
    · rename_i m hm
      split
      · rename_i op hop
        obtain ⟨rfl, rfl⟩ := rank_mark_of_levels hk hop
        refine absurd hm (h.ne op.mark_grip ?_)
        have := op.rank_lt
        simp only [Phrase.tightness]
        omega
      · rfl
    · rfl

theorem suffixesFrom_stops {expr : TokenReader Expr} {count : Nat} (h : Phrase.suffixed.EndsAt w.current.kind) :
    (suffixesFrom fuel expr count e).run w = .ok (e, w) := by
  cases count with
  | zero => rfl
  | succ count =>
    have hdot : w.current.kind ≠ .mark .dot := h.ne rfl (Nat.le_refl _)
    have hopen : w.current.kind ≠ .mark .openBracket := h.ne rfl (Nat.le_refl _)
    rw [suffixesFrom, run_sees_bind_of_ne hdot, if_neg Bool.false_ne_true, run_sees_bind_of_ne hopen]
    rfl

theorem resume_stops {l : Level} {count : Nat} (h : p.EndsAt w.current.kind) :
    (resume fuel l count e p).run w = .ok (e, w) := by
  cases p with
  | rung k =>
    rw [resume]
    split
    · rename_i ops hops
      exact chainFrom_stops hops h
    · rfl
  | suffixed => exact suffixesFrom_stops h
  | _ => rfl

theorem ReadsOn.reads (h : ReadsOn p n ts e) : Reads p n ts e := by
  obtain ⟨count, _, hrun⟩ := h
  intro fuel v w hfuel hpasses hends
  rw [hrun fuel v w hfuel hpasses hends.part]
  exact resume_stops hends

/-- Where nothing can follow within a phrase, reading it to its end is all there is to do. -/
theorem Reads.readsOn (h : Reads p n ts e) (hp : ∀ fuel l, resume fuel l 0 e p = pure e) (hpart : p.part = p) :
    ReadsOn p n ts e := by
  refine ⟨0, Nat.zero_le _, fun fuel v w hfuel hpasses hends => ?_⟩
  rw [hpart] at hends
  rw [h fuel v w hfuel hpasses hends, hp]
  rfl

/-! ## Lists of arguments -/

/-- A phrase begins with no mark that no expression can begin with. -/
theorem ne_of_begins {m : Mark} {k : TokenKind} (hk : p.begins k = true) (hm : (TokenKind.mark m).beginsExpr = false) :
    k ≠ .mark m := by
  rintro rfl
  have : (TokenKind.mark m).beginsExpr = true := by
    cases p <;> first | exact hk | exact TokenKind.beginsExpr_of_beginsAtom hk
  rw [hm] at this
  cases this

/-- Phrases with commas between them and a closing mark, the first of them at hand, are read as the list of their trees. -/
theorem itemsFrom_reads {close : Mark} {fault : SyntaxFault} (hgrip : close.grip = none) (hcomma : close ≠ .comma)
    (ts : List TokenKind) (e : Expr) (args : Arguments) {count : Nat} (hargs : ∀ a ∈ (ts, e) :: args, Reads .expr n a.1 a.2)
    (hfuel : (separated (Arguments.phrases ((ts, e) :: args))).length ≤ fuel) (hcount : args.length < count)
    (hpasses : v.Passes (separated (Arguments.phrases ((ts, e) :: args)) ++ [.mark close]) w) :
    (itemsFrom (level fuel n).expr close fault count).run v = .ok (e :: args.trees, w) := by
  induction args generalizing ts e count v with
  | nil =>
    obtain ⟨count, rfl⟩ : ∃ m, count = m + 1 := ⟨count - 1, by omega⟩
    obtain ⟨u, hts, hclose⟩ := TokenView.Passes.split hpasses
    obtain ⟨hmark, w', hpull, hrest⟩ := hclose.uncons
    cases hrest
    have hends : Phrase.expr.EndsAt u.current.kind := hmark ▸ Phrase.endsAt_of_grip_eq_none hgrip
    have hread : (level fuel n).expr.run v = .ok (e, u) := hargs (ts, e) List.mem_cons_self fuel v u hfuel hts hends
    rw [itemsFrom, run_bind_of_ok hread, run_sees_bind_of_ne (by rw [hmark]; simpa using hcomma),
      if_neg Bool.false_ne_true, run_sees_bind_of_eq hmark, if_pos rfl, run_discard_bump_bind hpull]
    rfl
  | cons a args ih =>
    obtain ⟨count, rfl⟩ : ∃ m, count = m + 1 := ⟨count - 1, by omega⟩
    obtain ⟨us, e'⟩ := a
    have heq : separated (Arguments.phrases ((ts, e) :: (us, e') :: args)) =
        ts ++ .mark .comma :: separated (Arguments.phrases ((us, e') :: args)) := rfl
    rw [heq, List.length_append, List.length_cons] at hfuel
    rw [heq, List.append_assoc, List.cons_append] at hpasses
    obtain ⟨u, hts, hcomma'⟩ := TokenView.Passes.split hpasses
    obtain ⟨hmark, u', hpull, hrest⟩ := hcomma'.uncons
    have hends : Phrase.expr.EndsAt u.current.kind := hmark ▸ Phrase.endsAt_of_grip_eq_none rfl
    have hread : (level fuel n).expr.run v = .ok (e, u) :=
      hargs (ts, e) List.mem_cons_self fuel v u (by dsimp only; omega) hts hends
    have htail := ih us e' (fun a ha => hargs a (List.mem_cons_of_mem _ ha)) (by omega) (by simpa using hcount) hrest
    rw [itemsFrom, run_bind_of_ok hread, run_sees_bind_of_eq hmark, if_pos rfl, run_discard_bump_bind hpull,
      run_bind_of_ok htail]
    rfl

/-- A list of phrases has at least as many tokens as phrases. -/
theorem length_le_separated {args : Arguments} (hargs : ∀ a ∈ args, a.1 ≠ []) :
    args.length ≤ (separated args.phrases).length := by
  induction args with
  | nil => exact Nat.zero_le _
  | cons a args ih =>
    have ha := List.length_pos_iff.2 (hargs a List.mem_cons_self)
    have ih := ih fun b hb => hargs b (List.mem_cons_of_mem _ hb)
    cases args with
    | nil => exact ha
    | cons b args =>
      simp only [Arguments.phrases, List.map_cons, separated, List.length_append, List.length_cons] at ih ⊢
      omega

/-- A list of phrases up to a closing mark is read as the list of their trees. -/
theorem items_reads {close : Mark} {fault : SyntaxFault} (hgrip : close.grip = none)
    (hbegins : (TokenKind.mark close).beginsExpr = false) (hcomma : close ≠ .comma) {args : Arguments}
    (hargs : ∀ a ∈ args, Derives .expr n a.1 a.2) (hreads : ∀ a ∈ args, Reads .expr n a.1 a.2)
    (hfuel : (separated args.phrases).length ≤ fuel) (hpasses : v.Passes (separated args.phrases ++ [.mark close]) w) :
    (items fuel (level fuel n).expr close fault).run v = .ok (args.trees, w) := by
  cases args with
  | nil =>
    obtain ⟨hmark, w', hpull, hrest⟩ := TokenView.Passes.uncons hpasses
    cases hrest
    rw [items, run_sees_bind_of_eq hmark, if_pos rfl, run_discard_bump_bind hpull]
    rfl
  | cons a args =>
    obtain ⟨k, rest, hts, hk⟩ := (hargs a List.mem_cons_self).head
    have hne : v.current.kind ≠ .mark close := by
      have hcons : ∃ tail, separated (Arguments.phrases (a :: args)) ++ [.mark close] = k :: tail := by
        cases args <;> exact ⟨_, by simp only [Arguments.phrases, List.map_cons, separated, hts]; rfl⟩
      obtain ⟨tail, htail⟩ := hcons
      rw [htail] at hpasses
      rw [hpasses.current]
      exact ne_of_begins hk hbegins
    have hcount := length_le_separated fun b hb hnil => by
      obtain ⟨_, _, hcons, _⟩ := (hargs b hb).head
      cases hnil.symm.trans hcons
    rw [items, run_sees_bind_of_ne hne]
    exact itemsFrom_reads hgrip hcomma a.1 a.2 args hreads hfuel (by simp only [List.length_cons] at hcount; omega) hpasses

theorem length_enclosed (opening closing : Mark) (phrases : List (List TokenKind)) :
    (enclosed opening closing phrases).length = (separated phrases).length + 2 := by
  simp [enclosed]

/-- Arguments in parentheses are read as the list of their trees. -/
theorem arguments_reads {args : Arguments} (hargs : ∀ a ∈ args, Derives .expr n a.1 a.2)
    (hreads : ∀ a ∈ args, Reads .expr n a.1 a.2) (hfuel : (enclosed .openParen .closeParen args.phrases).length ≤ fuel)
    (hpasses : v.Passes (enclosed .openParen .closeParen args.phrases) w) :
    (arguments fuel (level fuel n).expr).run v = .ok (args.trees, w) := by
  rw [length_enclosed] at hfuel
  obtain ⟨hmark, u, hpull, hrest⟩ := TokenView.Passes.uncons hpasses
  rw [arguments, run_expect_bind hmark hpull]
  exact items_reads rfl rfl (by decide) hargs hreads (by omega) hrest

/-! ## Operands -/

/-- The name in front of a call is read, and its arguments after it. -/
theorem call_reads {name : String} {position : Nat} {args : Arguments} (hargs : ∀ a ∈ args, Derives .expr n a.1 a.2)
    (hreads : ∀ a ∈ args, Reads .expr n a.1 a.2) (hfuel : (enclosed .openParen .closeParen args.phrases).length ≤ fuel)
    (hpasses : v.Passes (enclosed .openParen .closeParen args.phrases) w) (hcall : CallOf name args.trees e) :
    (do callOf name (← arguments fuel (level fuel n).expr) position : TokenReader Expr).run v = .ok (e, w) := by
  rw [run_bind_of_ok (arguments_reads hargs hreads hfuel hpasses)]
  exact run_lift_eq_ok.2 ⟨callOf_eq_ok_iff.2 hcall, rfl⟩

/-- A literal is read by passing its token. -/
theorem literal_reads {l : Literal} {k : TokenKind} (hpasses : v.Passes [k] w) :
    (literal l).run v = .ok (.literal l, w) := by
  obtain ⟨_, u, hpull, hrest⟩ := hpasses.uncons
  cases hrest
  rw [literal, run_discard_bump_bind hpull]
  rfl

theorem regex_reads (r : Regex) : Reads .atom n [.regex r.source r.ignoreCase] (.literal (.regex r)) := by
  intro fuel v w _ hpasses _
  have hregex : regexOf r.source r.ignoreCase v.current.position = .ok r := regexOf_eq_ok_iff.2 ⟨rfl, rfl⟩
  rw [reader, atom, run_peek_bind, hpasses.current]
  dsimp only
  rw [run_bind_of_ok (a := v) (u := v) rfl, run_bind_of_ok (run_lift_eq_ok.2 ⟨hregex, rfl⟩)]
  exact literal_reads hpasses

theorem var_reads (name : String) : Reads .atom n [.name name] (.var name) := by
  intro fuel v w _ hpasses hends
  obtain ⟨_, u, hpull, hrest⟩ := hpasses.uncons
  cases hrest
  rw [reader, atom, run_peek_bind, hpasses.current]
  dsimp only
  rw [run_bump_bind hpull, run_sees_bind_of_ne (hends.ne (g := 8) rfl (Nat.le_refl _))]
  rfl

theorem namedCall_reads {name : String} {args : Arguments} (hargs : ∀ a ∈ args, Derives .expr n a.1 a.2)
    (hreads : ∀ a ∈ args, Reads .expr n a.1 a.2) (hcall : CallOf name args.trees e) :
    Reads .atom n (.name name :: enclosed .openParen .closeParen args.phrases) e := by
  intro fuel v w hfuel hpasses _
  obtain ⟨hname, u, hpull, hrest⟩ := hpasses.uncons
  rw [reader, atom, run_peek_bind, hname]
  dsimp only
  rw [run_bump_bind hpull, run_sees_bind_of_eq hrest.current, if_pos rfl]
  exact call_reads hargs hreads (by simp only [List.length_cons] at hfuel; omega) hrest hcall

theorem choice_reads {args : Arguments} (hargs : ∀ a ∈ args, Derives .expr n a.1 a.2)
    (hreads : ∀ a ∈ args, Reads .expr n a.1 a.2) (hcall : CallOf ControlForm.if.name args.trees e) :
    Reads .atom n (.keyword .if :: enclosed .openParen .closeParen args.phrases) e := by
  intro fuel v w hfuel hpasses _
  obtain ⟨hname, u, hpull, hrest⟩ := hpasses.uncons
  rw [reader, atom, run_peek_bind, hname]
  dsimp only
  rw [run_bump_bind hpull, run_sees_bind_of_eq hrest.current, if_pos rfl]
  exact call_reads hargs hreads (by simp only [List.length_cons] at hfuel; omega) hrest hcall

theorem group_reads (h : Reads .expr n ts e) : Reads .atom n (.mark .openParen :: ts ++ [.mark .closeParen]) e := by
  intro fuel v w hfuel hpasses _
  obtain ⟨hopen, u, hpull, hrest⟩ := TokenView.Passes.uncons hpasses
  obtain ⟨u', hts, hlast⟩ := hrest.split
  obtain ⟨hclose, w', hpull', hend⟩ := hlast.uncons
  cases hend
  have hinner : (level fuel n).expr.run u = .ok (e, u') :=
    h fuel u u' (by simp at hfuel; omega) hts (hclose ▸ Phrase.endsAt_of_grip_eq_none rfl)
  rw [reader, atom, run_peek_bind, hopen]
  dsimp only
  rw [run_discard_bump_bind hpull, run_bind_of_ok hinner, run_expect_bind hclose hpull']
  rfl

theorem array_reads {args : Arguments} (hargs : ∀ a ∈ args, Derives .expr n a.1 a.2)
    (hreads : ∀ a ∈ args, Reads .expr n a.1 a.2) :
    Reads .atom n (enclosed .openBracket .closeBracket args.phrases) (.array args.trees) := by
  intro fuel v w hfuel hpasses _
  rw [length_enclosed] at hfuel
  obtain ⟨hopen, u, hpull, hrest⟩ := TokenView.Passes.uncons hpasses
  rw [reader, atom, run_peek_bind, hopen]
  dsimp only
  rw [run_discard_bump_bind hpull, run_bind_of_ok (items_reads rfl rfl (by decide) hargs hreads (by omega) hrest)]
  rfl

/-! ## What follows an operand -/

/-- A suffix is read by one more round of the loop that reads suffixes. -/
theorem ReadsOn.suffix {ss : List TokenKind} {e' : Expr} (h : ReadsOn .suffixed n ts e) (hne : 0 < ss.length)
    (hbegins : ∀ k rest, ss = k :: rest → Phrase.atom.EndsAt k)
    (hround : ∀ (fuel count : Nat) (u w : TokenView), ss.length ≤ fuel → u.Passes ss w → Phrase.atom.EndsAt w.current.kind →
      (suffixesFrom fuel (level fuel n).expr (count + 1) e).run u =
        (suffixesFrom fuel (level fuel n).expr count e').run w) :
    ReadsOn .suffixed n (ts ++ ss) e' := by
  obtain ⟨count, hcount, hrun⟩ := h
  refine ⟨count + 1, by rw [List.length_append]; omega, fun fuel v w hfuel hpasses hends => ?_⟩
  rw [List.length_append] at hfuel
  obtain ⟨u, hts, hss⟩ := hpasses.split
  have hu : Phrase.atom.EndsAt u.current.kind := by
    obtain ⟨k, rest, rfl⟩ := List.exists_cons_of_length_pos hne
    rw [hss.current]
    exact hbegins k rest rfl
  obtain ⟨left, hleft⟩ : ∃ left, fuel - count = left + 1 := ⟨fuel - count - 1, by omega⟩
  have hleft' : fuel - (count + 1) = left := by omega
  rw [hrun fuel v u (by omega) hts hu, resume, resume, hleft, hleft']
  exact hround fuel left u w (by omega) hss hends

theorem field_readsOn (name : String) (h : ReadsOn .suffixed n ts e) :
    ReadsOn .suffixed n (ts ++ [.mark .dot, .name name]) (.field e name) := by
  refine h.suffix Nat.two_pos (fun k rest hk => ?_) fun fuel count u w _ hpasses hends => ?_
  · obtain rfl := (List.cons.inj hk).1
    exact Phrase.endsAt_mark rfl (Nat.lt_succ_self _)
  · obtain ⟨hdot, u', hpull, hrest⟩ := hpasses.uncons
    obtain ⟨hname, w', hpull', hend⟩ := hrest.uncons
    cases hend
    rw [suffixesFrom, run_sees_bind_of_eq hdot, if_pos rfl, run_discard_bump_bind hpull, run_peek_bind, hname]
    dsimp only
    rw [run_bump_bind hpull', run_sees_bind_of_ne (hends.ne (g := 8) rfl (Nat.le_refl _))]
    rfl

theorem method_readsOn {base : Expr} (name : String) (args : Arguments) (h : ReadsOn .suffixed n ts base)
    (hargs : ∀ a ∈ args, Derives .expr n a.1 a.2) (hreads : ∀ a ∈ args, Reads .expr n a.1 a.2)
    (hcall : CallOf name (base :: args.trees) e) :
    ReadsOn .suffixed n (ts ++ .mark .dot :: .name name :: enclosed .openParen .closeParen args.phrases) e := by
  refine h.suffix (Nat.succ_pos _) (fun k rest hk => ?_) fun fuel count u w hfuel hpasses _ => ?_
  · obtain rfl := (List.cons.inj hk).1
    exact Phrase.endsAt_mark rfl (Nat.lt_succ_self _)
  · simp only [List.length_cons] at hfuel
    obtain ⟨hdot, u', hpull, hrest⟩ := hpasses.uncons
    obtain ⟨hname, u'', hpull', hrest⟩ := hrest.uncons
    have hread : (arguments fuel (level fuel n).expr).run u'' = .ok (args.trees, w) :=
      arguments_reads hargs hreads (by omega) hrest
    have hlift : (monadLift (callOf name (base :: args.trees) u'.current.position) : TokenReader Expr).run w =
        .ok (e, w) := run_lift_eq_ok.2 ⟨callOf_eq_ok_iff.2 hcall, rfl⟩
    rw [suffixesFrom, run_sees_bind_of_eq hdot, if_pos rfl, run_discard_bump_bind hpull, run_peek_bind, hname]
    dsimp only
    rw [run_bump_bind hpull', run_sees_bind_of_eq hrest.current, if_pos rfl, run_bind_of_ok hread, run_bind_of_ok hlift]

theorem index_readsOn {base : Expr} (h : ReadsOn .suffixed n ts base) {ps : List TokenKind} {position : Expr}
    (hp : Reads .expr n ps position) :
    ReadsOn .suffixed n (ts ++ .mark .openBracket :: ps ++ [.mark .closeBracket]) (.index base position) := by
  rw [List.append_assoc]
  refine h.suffix (Nat.succ_pos _) (fun k rest hk => ?_) fun fuel count u w hfuel hpasses _ => ?_
  · obtain rfl := (List.cons.inj hk).1
    exact Phrase.endsAt_mark rfl (Nat.lt_succ_self _)
  · rw [List.cons_append, List.length_cons, List.length_append] at hfuel
    obtain ⟨hopen, u1, hpull, hrest⟩ := TokenView.Passes.uncons hpasses
    obtain ⟨u2, hps, hlast⟩ := hrest.split
    obtain ⟨hclose, w', hpull', hend⟩ := hlast.uncons
    cases hend
    have hread : (level fuel n).expr.run u1 = .ok (position, u2) :=
      hp fuel u1 u2 (by omega) hps (hclose ▸ Phrase.endsAt_of_grip_eq_none rfl)
    rw [suffixesFrom, run_sees_bind_of_ne (by simp [hopen]), if_neg Bool.false_ne_true, run_sees_bind_of_eq hopen,
      if_pos rfl, run_discard_bump_bind hpull, run_bind_of_ok hread, run_expect_bind hclose hpull']

/-! ## Operators -/

/-- A further operand is read by one more round of the loop that reads a chain. -/
theorem chain_readsOn {ls rs : List TokenKind} {l r : Expr} (op : BinaryOp) (hl : ReadsOn (.rung op.rank) n ls l)
    (hr : Reads (.rung (op.rank + 1)) n rs r) :
    ReadsOn (.rung op.rank) n (ls ++ .mark op.mark :: rs) (.binary op l r) := by
  obtain ⟨count, hcount, hrun⟩ := hl
  have hrank := op.rank_lt
  obtain ⟨ops, hops, _⟩ := rungReader_of_lt 0 (level 0 0).unary hrank
  refine ⟨count + 1, by simp only [List.length_append, List.length_cons]; omega, fun fuel v w hfuel hpasses hends => ?_⟩
  simp only [List.length_append, List.length_cons] at hfuel
  obtain ⟨u, hls, hrest⟩ := hpasses.split
  obtain ⟨hmark, u', hpull, hrs⟩ := hrest.uncons
  have hu : (Phrase.rung op.rank).part.EndsAt u.current.kind := by
    rw [hmark]
    refine Phrase.endsAt_mark op.mark_grip ?_
    simp only [Phrase.tightness, Phrase.part]
    omega
  obtain ⟨left, hleft⟩ : ∃ left, fuel - count = left + 1 := ⟨fuel - count - 1, by omega⟩
  have hleft' : fuel - (count + 1) = left := by omega
  have hright : (rungReader fuel (level fuel n).unary (op.rank + 1)).run u' = .ok (r, w) :=
    hr fuel u' w (by omega) hrs hends
  simp only [hrun fuel v u (by omega) hls hu, resume, hops, hleft, hleft']
  rw [chainFrom, run_peek_bind, hmark]
  simp only [levels_mark hops]
  rw [run_discard_bump_bind hpull, run_bind_of_ok hright]

/-- A rung is entered through its first operand. -/
theorem tighter_readsOn (hk : k < BinaryOp.rungs) (h : Reads (.rung (k + 1)) n ts e) : ReadsOn (.rung k) n ts e := by
  refine ⟨0, Nat.zero_le _, fun fuel v w hfuel hpasses hends => ?_⟩
  have hfirst : (rungReader fuel (level fuel n).unary (k + 1)).run v = .ok (e, w) := h fuel v w hfuel hpasses hends
  obtain ⟨ops, hops, heq⟩ := rungReader_of_lt fuel (level fuel n).unary hk
  simp only [reader, heq, resume, hops, Nat.sub_zero]
  rw [chain, run_bind_of_ok hfirst]

/-- Below the last rung there are only operands with operators before them. -/
theorem operand_readsOn (h : Reads .unary n ts e) : ReadsOn (.rung BinaryOp.rungs) n ts e :=
  ⟨0, Nat.zero_le _, fun fuel v w hfuel hpasses hends => h fuel v w hfuel hpasses (hends.mono (Nat.le_refl _))⟩

theorem signed_reads (op : UnaryOp) (h : Reads .unary n ts e) : Reads .unary (n + 1) (.mark op.mark :: ts) (.unary op e) := by
  intro fuel v w hfuel hpasses hends
  rw [List.length_cons] at hfuel
  obtain ⟨hmark, u, hpull, hrest⟩ := hpasses.uncons
  have hinner : (level fuel n).unary.run u = .ok (e, w) := h fuel u w (by omega) hrest hends
  have hop : unaryOp? (.mark op.mark) = some op := by cases op <;> rfl
  rw [reader, level, unaryWith, run_peek_bind, hmark, hop]
  dsimp only
  rw [run_discard_bump_bind hpull, run_bind_of_ok hinner]
  rfl

/-- At every level the reader of operands looks for operators first. -/
theorem level_unary (fuel n : Nat) : ∃ inner, (level fuel n).unary = unaryWith fuel inner (level fuel n).expr := by
  cases n <;> exact ⟨_, rfl⟩

theorem unsigned_reads (hd : Derives .suffixed n ts e) (h : Reads .suffixed n ts e) : Reads .unary n ts e := by
  intro fuel v w hfuel hpasses hends
  obtain ⟨k, rest, rfl, hk⟩ := hd.head
  have hop : unaryOp? k = none := by
    unfold unaryOp?
    split
    · cases hk
    · cases hk
    · rfl
  obtain ⟨inner, hlevel⟩ := level_unary fuel n
  rw [reader, hlevel, unaryWith, run_peek_bind, hpasses.current, hop]
  exact h fuel v w hfuel hpasses hends

/-! ## Expressions -/

theorem plain_reads (h : Reads (.rung 0) n ts e) : Reads .expr (n + 1) ts e := by
  intro fuel v w hfuel hpasses hends
  have hread : (binary fuel (level fuel n).unary).run v = .ok (e, w) :=
    h fuel v w hfuel hpasses (hends.mono (Nat.zero_le _))
  rw [reader, level, conditional, run_bind_of_ok hread, run_sees_bind_of_ne (hends.ne (g := 0) rfl (Nat.le_refl _))]
  rfl

theorem conditional_reads {cs ys ns : List TokenKind} {c y no : Expr} (hc : Reads (.rung 0) n cs c)
    (hy : Reads .expr n ys y) (hn : Reads .expr n ns no) :
    Reads .expr (n + 1) (cs ++ .mark .question :: ys ++ .mark .colon :: ns) (.conditional c y no) := by
  intro fuel v w hfuel hpasses hends
  rw [List.append_assoc] at hpasses
  simp only [List.length_append, List.length_cons] at hfuel
  obtain ⟨u1, hcs, hrest⟩ := hpasses.split
  obtain ⟨hquestion, u2, hpull, hrest⟩ := TokenView.Passes.uncons hrest
  obtain ⟨u3, hys, hrest⟩ := hrest.split
  obtain ⟨hcolon, u4, hpull', hns⟩ := hrest.uncons
  have hcondition : (binary fuel (level fuel n).unary).run v = .ok (c, u1) :=
    hc fuel v u1 (by omega) hcs (hquestion ▸ Phrase.endsAt_mark rfl (Nat.zero_lt_succ _))
  have hyes : (level fuel n).expr.run u2 = .ok (y, u3) :=
    hy fuel u2 u3 (by omega) hys (hcolon ▸ Phrase.endsAt_of_grip_eq_none rfl)
  have hno : (level fuel n).expr.run u4 = .ok (no, w) := hn fuel u4 w (by omega) hns hends
  rw [reader, level, conditional, run_bind_of_ok hcondition, run_sees_bind_of_eq hquestion, if_pos rfl,
    run_discard_bump_bind hpull, run_bind_of_ok hyes, run_expect_bind hcolon hpull', run_bind_of_ok hno]
  rfl

/-! ## All phrases -/

/-- Where a phrase is derived, its reader reads it up to its end and goes on with its tree. -/
theorem readsOn_of_derives (h : Derives p n ts e) : ReadsOn p n ts e := by
  induction h with
  | plain _ ih => exact (plain_reads ih.reads).readsOn (fun _ _ => rfl) rfl
  | conditional _ _ _ ihc ihy ihn =>
    exact (conditional_reads ihc.reads ihy.reads ihn.reads).readsOn (fun _ _ => rfl) rfl
  | tighter hk _ ih => exact tighter_readsOn hk ih.reads
  | chain op _ _ ihl ihr => exact chain_readsOn op ihl ihr.reads
  | operand _ ih => exact operand_readsOn ih.reads
  | signed op _ ih => exact (signed_reads op ih.reads).readsOn (fun _ _ => rfl) rfl
  | unsigned hd ih => exact (unsigned_reads hd ih.reads).readsOn (fun _ _ => rfl) rfl
  | bare _ ih =>
    refine ⟨0, Nat.zero_le _, fun fuel v w hfuel hpasses hends => ?_⟩
    exact run_bind_of_ok (ih.reads fuel v w hfuel hpasses hends)
  | field name _ ih => exact field_readsOn name ih
  | method name args _ hargs hcall ih ihargs =>
    exact method_readsOn name args ih hargs (fun a ha => (ihargs a ha).reads) hcall
  | index _ _ ih ihp => exact index_readsOn ih ihp.reads
  | number x | string s | null =>
    refine Reads.readsOn (fun fuel v w _ hpasses _ => ?_) (fun _ _ => rfl) rfl
    rw [reader, atom, run_peek_bind, hpasses.current]
    exact literal_reads hpasses
  | boolean b =>
    refine Reads.readsOn (fun fuel v w _ hpasses _ => ?_) (fun _ _ => rfl) rfl
    rw [reader, atom, run_peek_bind, hpasses.current]
    cases b <;> exact literal_reads hpasses
  | regex r => exact (regex_reads r).readsOn (fun _ _ => rfl) rfl
  | var name => exact (var_reads name).readsOn (fun _ _ => rfl) rfl
  | call name args hargs hcall ih =>
    exact (namedCall_reads hargs (fun a ha => (ih a ha).reads) hcall).readsOn (fun _ _ => rfl) rfl
  | choice args hargs hcall ih =>
    exact (choice_reads hargs (fun a ha => (ih a ha).reads) hcall).readsOn (fun _ _ => rfl) rfl
  | group _ ih => exact (group_reads ih.reads).readsOn (fun _ _ => rfl) rfl
  | array items hitems ih => exact (array_reads hitems fun a ha => (ih a ha).reads).readsOn (fun _ _ => rfl) rfl

/-- A text that is an expression is read as such. -/
theorem whole_reads (h : Derives .expr maxNesting ts e) (hfuel : ts.length ≤ fuel) (hpasses : v.Passes ts w)
    (hfinish : w.current.kind = .finish) : (whole fuel).run v = .ok (e, w) := by
  have hread : (level fuel maxNesting).expr.run v = .ok (e, w) :=
    (readsOn_of_derives h).reads fuel v w hfuel hpasses (hfinish ▸ Phrase.endsAt_finish)
  rw [whole, run_bind_of_ok hread, run_peek_bind, hfinish]
  rfl

end TokenReader

end CellExpr
