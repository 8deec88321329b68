import CellExpr.Proofs.Grammar.Soundness
import CellExpr.Syntax.Grammar

/-!
# Readings side by side

The grammar reads two streams of tokens alike if their tokens differ at most in where they stand: it takes the same way through both
and gives the same tree, or reports an error in both (`Placement.ofStream`). A `Placement` says which views, tokens and errors go
together at which place: where an operand has to begin, or after one, with so many tokens left at most. Every reader keeps to it,
since it looks at the kind of the token in sight only, goes on to the next token only where the text does not end, and reports a
token that it has in sight or has passed. An expression is read from where an operand has to begin, and after it an operand has
ended; so each fault is reported at its place alone, and a watch over operands is told of them at these places.

The readers of the grammar with a watch over them tell it of every operand: it may look at the token in sight before the operand and at
the one after what follows it, and may stop there. Without a watch these are the readers of the grammar (`Expr.ofStreamOver_id`). Where
the place does not matter, an `Alignment` says which views, tokens and errors go together (`Alignment.ofStream`).
-/

namespace CellExpr

/-! ## Watched operands -/

namespace TokenReader

/-- An operand with operators before it, those after the first read by `inner`. -/
def unaryOver (inner operand : TokenReader Expr) : TokenReader Expr := do
  match unaryOp? (← peek) with
  | some op =>
    discard bump
    return .unary op (← inner)
  | none => operand

/-- The readers when so many levels may still be opened, with a watch over operands and what follows them. -/
def levelOver (watch : TokenReader Expr → TokenReader Expr) (fuel : Nat) : (budget : Nat) → Level
  | 0 =>
    let expr := fail .tooDeep
    ⟨expr, unaryOver (fail .tooDeep) (watch (suffixed fuel expr))⟩
  | budget + 1 =>
    let inner := levelOver watch fuel budget
    let expr := conditional fuel inner.expr inner.unary
    ⟨expr, unaryOver inner.unary (watch (suffixed fuel expr))⟩

/-- A whole text: an expression and nothing after it. -/
def wholeOver (watch : TokenReader Expr → TokenReader Expr) (fuel : Nat) : TokenReader Expr := do
  let e ← (levelOver watch fuel maxNesting).expr
  match ← peek with
  | .finish => return e
  | _ => fail .missingEnd

theorem levelOver_id (fuel budget : Nat) : levelOver id fuel budget = level fuel budget := by
  induction budget with
  | zero => rfl
  | succ budget ih =>
    rw [levelOver, ih]
    rfl

end TokenReader

namespace Expr

/-- The expression that a stream of tokens is, read with a watch over operands. -/
def ofStreamOver (watch : TokenReader Expr → TokenReader Expr) (s : TokenStream) : Except SyntaxError Expr := do
  let view ← TokenReader.pull 0 s
  let (e, _) ← (TokenReader.wholeOver watch (s.length + 1)).run view
  return e

theorem ofStreamOver_id (s : TokenStream) : ofStreamOver id s = ofStream s := by
  have hwhole (fuel : Nat) : TokenReader.wholeOver id fuel = TokenReader.whole fuel := by
    rw [TokenReader.wholeOver, TokenReader.levelOver_id]
    rfl
  rw [ofStreamOver, hwhole]
  rfl

end Expr

open TokenReader

/-! ## Places -/

/-- What an error shows of a token: its characters, or the name of the form that it calls, or the regular expression. -/
inductive Token.Reports (t : Token) : SyntaxFault → String → Prop where
  | sight (fault : SyntaxFault) : Reports t fault t.description
  | name {name : String} (hk : t.kind = .name name) (fault : SyntaxFault) : Reports t fault name
  | choice (hk : t.kind = .keyword .if) (fault : SyntaxFault) : Reports t fault ControlForm.if.name
  | pattern {source : String} {ignoreCase : Bool} (hk : t.kind = .regex source ignoreCase) (f : PatternFault) :
      Reports t (.invalidPattern f) ("/" ++ source ++ "/")

/-- At which place alone a fault is reported, if it has one: a missing operand where an operand has to begin, and what should come
after an operand after one. -/
def SyntaxFault.afterOperand? : SyntaxFault → Option Bool
  | missingOperand => some false
  | missingEnd | missingColon | missingClosingParen | missingOpeningParen | missingIndexEnd | missingItemEnd
  | missingArgumentEnd => some true
  | _ => none

/-- Whether a fault may be reported at a place. -/
def SyntaxFault.FitsPlace (fault : SyntaxFault) (afterOperand : Bool) : Prop :=
  fault.afterOperand? = none ∨ fault.afterOperand? = some afterOperand

/-- A token that comes in sight leaves the ones after it. -/
theorem TokenReader.rest_of_pull {stop : Nat} {s : TokenStream} {v : TokenView} (h : pull stop s = .ok v) : v.rest = s.tail := by
  match s, h with
  | [], h | .ok _ :: _, h =>
    cases h
    rfl

/-- Two outcomes that go together: two results, or two errors. -/
inductive Alike {α β : Type} (R : α → β → Prop) (E : SyntaxError → SyntaxError → Prop) :
    Except SyntaxError α → Except SyntaxError β → Prop where
  | ok {a : α} {b : β} (h : R a b) : Alike R E (.ok a) (.ok b)
  | error {e e' : SyntaxError} (h : E e e') : Alike R E (.error e) (.error e')

section Alike

variable {α β γ δ : Type} {R : α → β → Prop} {S : γ → δ → Prop} {E : SyntaxError → SyntaxError → Prop}
  {x : Except SyntaxError α} {y : Except SyntaxError β}

theorem Alike.bind {f : α → Except SyntaxError γ} {g : β → Except SyntaxError δ} (h : Alike R E x y)
    (hf : ∀ a b, x = .ok a → R a b → Alike S E (f a) (g b)) : Alike S E (x >>= f) (y >>= g) := by
  cases h with
  | error h => exact .error h
  | ok h => exact hf _ _ rfl h

theorem Alike.map {f : α → γ} {g : β → δ} (h : Alike R E x y) (hf : ∀ a b, R a b → S (f a) (g b)) :
    Alike S E (x.map f) (y.map g) := by
  cases h with
  | error h => exact .error h
  | ok h => exact .ok (hf _ _ h)

theorem Alike.mono {R' : α → β → Prop} (h : Alike R E x y) (hR : ∀ a b, x = .ok a → R a b → R' a b) : Alike R' E x y := by
  cases h with
  | error h => exact .error h
  | ok h => exact .ok (hR _ _ rfl h)

end Alike

/-- Views, tokens and errors of two readings that go together at a place, with so many tokens left at most after the one in
sight. -/
structure Placement where
  view (afterOperand : Bool) (left : Nat) : TokenView → TokenView → Prop
  token (afterOperand : Bool) : Token → Token → Prop
  error : SyntaxError → SyntaxError → Prop
  mono {b : Bool} {n m : Nat} {v w : TokenView} (h : view b n v w) (hle : n ≤ m) : view b m v w
  /-- What is in sight goes together. -/
  sight {b : Bool} {n : Nat} {v w : TokenView} (h : view b n v w) : token b v.current w.current
  /-- Tokens differ at most in where they stand. -/
  same {b : Bool} {t u : Token} (h : token b t u) : u.kind = t.kind ∧ u.lexeme = t.lexeme
  /-- The same fault may be found with both tokens at its place. -/
  report {b : Bool} {t u : Token} {fault : SyntaxFault} {found : String} (h : token b t u) (hreport : t.Reports fault found)
    (hplace : fault.FitsPlace b) : error ⟨fault, t.position, some found⟩ ⟨fault, u.position, some found⟩
  /-- Where the text does not end, what comes next goes together. -/
  next {b : Bool} {n : Nat} {v w : TokenView} (h : view b n v w) (hk : v.current.kind ≠ .finish) :
    Alike (fun v' w' => ∃ m < n, view v.current.kind.endsOperand m v' w') error
      (pull v.current.stop v.rest) (pull w.current.stop w.rest)

namespace Placement

variable {P : Placement} {α β : Type} {b c : Bool} {n m fuel : Nat} {v w : TokenView} {t u : Token}

theorem kind_eq (h : P.view b n v w) : w.current.kind = v.current.kind := (P.same (P.sight h)).1

/-- Two readers come to the same result from two views, and to views that go together. -/
def Agrees (P : Placement) (b : Bool) (n : Nat) (v w : TokenView) (p q : TokenReader α) : Prop :=
  Alike (fun r s => r.1 = s.1 ∧ P.view b n r.2 s.2) P.error (p.run v) (q.run w)

/-- Two readers of operands: from where an operand has to begin they come to the same result, and then an operand has ended. There
are fewer tokens left than the readers can take. -/
def Keeps (P : Placement) (fuel : Nat) (p q : TokenReader α) : Prop :=
  ∀ ⦃n v w⦄, n < fuel → P.view false n v w → P.Agrees true n v w p q

/-! ## The smallest readers -/

theorem agrees_pure (h : P.view b n v w) (a : α) : P.Agrees b n v w (pure a) (pure a) := .ok ⟨rfl, h⟩

theorem Agrees.mono {p q : TokenReader α} (h : P.Agrees b n v w p q) (hle : n ≤ m) : P.Agrees b m v w p q :=
  Alike.mono h fun _ _ _ ⟨heq, hview⟩ => ⟨heq, P.mono hview hle⟩

theorem Agrees.bind {p q : TokenReader α} {f g : α → TokenReader β} (h : P.Agrees b n v w p q)
    (hf : ∀ a {v w}, P.view b n v w → P.Agrees c m v w (f a) (g a)) : P.Agrees c m v w (p >>= f) (q >>= g) := by
  unfold Agrees
  rw [StateT.run_bind, StateT.run_bind]
  refine Alike.bind h ?_
  rintro ⟨a, v'⟩ ⟨b, w'⟩ _ ⟨rfl, hview⟩
  exact hf a hview

theorem agrees_fail (h : P.view b n v w) {fault : SyntaxFault} (hplace : fault.FitsPlace b) :
    P.Agrees c m v w (fail fault : TokenReader α) (fail fault) := by
  have hdescription : w.current.description = v.current.description := by
    obtain ⟨hkind, hlexeme⟩ := P.same (P.sight h)
    rw [Token.description, Token.description, hkind, hlexeme]
  have herror := P.report (P.sight h) (.sight fault) hplace
  exact .error (by rw [hdescription]; exact herror)

/-- The kind of the token in sight is the same, and what is read then may depend on it. -/
theorem agrees_peek_bind {f g : TokenKind → TokenReader β} (h : P.view b n v w)
    (hf : P.Agrees c m v w (f v.current.kind) (g v.current.kind)) : P.Agrees c m v w (peek >>= f) (peek >>= g) := by
  unfold Agrees at hf ⊢
  rw [run_peek_bind, run_peek_bind, kind_eq h]
  exact hf

theorem agrees_bump_bind {f g : Token → TokenReader β} (h : P.view b n v w) (hk : v.current.kind ≠ .finish)
    (hf : ∀ {l v' w'}, l < n → P.view v.current.kind.endsOperand l v' w' → P.Agrees c m v' w' (f v.current) (g w.current)) :
    P.Agrees c m v w (bump >>= f) (bump >>= g) := by
  have hbump : Alike (fun r s => r.1 = v.current ∧ s.1 = w.current ∧ ∃ l < n, P.view v.current.kind.endsOperand l r.2 s.2)
      P.error (bump.run v) (bump.run w) := by
    rw [run_bump, run_bump]
    exact (P.next h hk).map fun _ _ hview => ⟨rfl, rfl, hview⟩
  unfold Agrees
  rw [StateT.run_bind, StateT.run_bind]
  refine hbump.bind ?_
  rintro ⟨_, v'⟩ ⟨_, w'⟩ _ ⟨rfl, rfl, l, hl, hview⟩
  exact hf hl hview

theorem agrees_discard_bump (h : P.view b n v w) (hk : v.current.kind ≠ .finish) :
    Alike (fun r s => ∃ l < n, P.view v.current.kind.endsOperand l r.2 s.2) P.error
      ((discard bump : TokenReader Unit).run v) ((discard bump : TokenReader Unit).run w) := by
  rw [run_discard_bump, run_discard_bump]
  exact (P.next h hk).map fun _ _ hview => hview

theorem agrees_discard_bump_bind {f g : Unit → TokenReader β} (h : P.view b n v w) (hk : v.current.kind ≠ .finish)
    (hf : ∀ {l v' w'}, l < n → P.view v.current.kind.endsOperand l v' w' → P.Agrees c m v' w' (f ()) (g ())) :
    P.Agrees c m v w (discard bump >>= f) (discard bump >>= g) := by
  unfold Agrees
  rw [StateT.run_bind, StateT.run_bind]
  refine (agrees_discard_bump h hk).bind ?_
  rintro ⟨_, v'⟩ ⟨_, w'⟩ _ ⟨l, hl, hview⟩
  exact hf hl hview

/-- Past a mark it is settled whether an operand has ended. -/
theorem agrees_mark_bind {mark : Mark} {f g : Unit → TokenReader β} (h : P.view b n v w) (hk : v.current.kind = .mark mark)
    (hf : ∀ {l v' w'}, l < n → P.view (TokenKind.mark mark).endsOperand l v' w' → P.Agrees c m v' w' (f ()) (g ())) :
    P.Agrees c m v w (discard bump >>= f) (discard bump >>= g) :=
  agrees_discard_bump_bind h (by rw [hk]; nofun) fun hl hview => hf hl (hk ▸ hview)

theorem agrees_sees_bind {mark : Mark} {f g : Bool → TokenReader β} (h : P.view b n v w)
    (htrue : v.current.kind = .mark mark → P.Agrees c m v w (f true) (g true)) (hfalse : P.Agrees c m v w (f false) (g false)) :
    P.Agrees c m v w (sees mark >>= f) (sees mark >>= g) := by
  unfold Agrees
  by_cases hm : v.current.kind = .mark mark
  · rw [run_sees_bind_of_eq hm, run_sees_bind_of_eq ((kind_eq h).trans hm)]
    exact htrue hm
  · rw [run_sees_bind_of_ne hm, run_sees_bind_of_ne (by rwa [kind_eq h])]
    exact hfalse

/-- A mark that has to come next is passed, or its fault is reported; that has to fit the place if another token is in sight. -/
theorem agrees_expect {mark : Mark} {fault : SyntaxFault} (h : P.view b n v w)
    (hplace : v.current.kind ≠ .mark mark → fault.FitsPlace b) :
    P.Agrees (TokenKind.mark mark).endsOperand n v w (expect mark fault) (expect mark fault) := by
  refine agrees_peek_bind h ?_
  split
  · rename_i other hother
    split
    · rename_i heq
      have hmark : v.current.kind = .mark mark := hother.trans (congrArg _ heq)
      refine Alike.mono (agrees_discard_bump h (by rw [hmark]; nofun)) fun _ _ _ ⟨l, hl, hview⟩ => ?_
      rw [hmark] at hview
      exact ⟨rfl, P.mono hview (Nat.le_of_lt hl)⟩
    · rename_i hne
      exact agrees_fail h (hplace fun hmark => hne (TokenKind.mark.inj (hother.symm.trans hmark)))
  · rename_i hother
    exact agrees_fail h (hplace (hother mark))

/-- A result that needs no token. -/
theorem agrees_lift {x y : Except SyntaxError α} (h : P.view b n v w) (hx : Alike Eq P.error x y) :
    P.Agrees b n v w (monadLift x) (monadLift y) := by
  unfold Agrees
  rw [StateT.run_monadLift, StateT.run_monadLift]
  cases hx with
  | error hx => exact .error hx
  | ok hx => exact .ok ⟨hx, h⟩

theorem agrees_lift_bind {x y : Except SyntaxError α} {f g : α → TokenReader β} (hx : Alike Eq P.error x y)
    (hf : ∀ a, P.Agrees b n v w (f a) (g a)) : P.Agrees b n v w (monadLift x >>= f) (monadLift y >>= g) := by
  cases hx with
  | error hx => exact .error hx
  | ok hx => exact hx ▸ hf _

/-! ## Operators -/

/-- After an operator an operand has to begin. -/
theorem endsOperand_of_levels {operators : Operators} {mark : Mark} {op : BinaryOp} (hmem : operators ∈ levels)
    (h : operators mark = some op) : (TokenKind.mark mark).endsOperand = false := by
  obtain ⟨k, hk⟩ := List.mem_iff_getElem?.1 hmem
  obtain ⟨_, rfl⟩ := rank_mark_of_levels hk h
  cases op <;> rfl

variable {operand operand' expr expr' inner inner' unary unary' : TokenReader Expr}

theorem agrees_chainFrom {operators : Operators} (hops : operators ∈ levels) (ho : P.Keeps fuel operand operand')
    (hn : n < fuel) (h : P.view true n v w) (count : Nat) (left : Expr) :
    P.Agrees true n v w (chainFrom operators operand count left) (chainFrom operators operand' count left) := by
  induction count generalizing left n v w with
  | zero => exact agrees_pure h left
  | succ count ih =>
    refine agrees_peek_bind h ?_
    split
    · rename_i mark hmark
      split
      · rename_i op hop
        refine agrees_mark_bind h hmark fun hl h => ?_
        rw [endsOperand_of_levels hops hop] at h
        refine Agrees.mono ?_ (Nat.le_of_lt hl)
        exact (ho (Nat.lt_trans hl hn) h).bind fun right _ _ h => ih (Nat.lt_trans hl hn) h _
      · exact agrees_pure h left
    · exact agrees_pure h left

theorem keeps_binary (hu : P.Keeps fuel unary unary') (count : Nat) :
    P.Keeps fuel (binary count unary) (binary count unary') := by
  -- the levels from the tightest one up
  have hlevels (ls : List Operators) (hls : ls ⊆ levels) :
      P.Keeps fuel (ls.foldr (chain count) unary) (ls.foldr (chain count) unary') := by
    induction ls with
    | nil => exact hu
    | cons operators ls ih =>
      intro n v w hn h
      have hops : operators ∈ levels := hls List.mem_cons_self
      have hrest := ih fun _ hmem => hls (List.mem_cons_of_mem _ hmem)
      exact (hrest hn h).bind fun left _ _ h => agrees_chainFrom hops hrest hn h count left
  exact hlevels levels (List.Subset.refl _)

theorem keeps_conditional (he : P.Keeps fuel expr expr') (hu : P.Keeps fuel unary unary') (count : Nat) :
    P.Keeps fuel (conditional count expr unary) (conditional count expr' unary') := by
  intro n v w hn h
  refine (keeps_binary hu count hn h).bind fun condition v w h => agrees_sees_bind h (fun hm => ?_) (agrees_pure h condition)
  refine agrees_mark_bind h hm fun hl h => Agrees.mono ?_ (Nat.le_of_lt hl)
  have hl := Nat.lt_trans hl hn
  refine (he hl h).bind fun yes v w h => ?_
  have hcolon : SyntaxFault.missingColon.FitsPlace true := .inr rfl
  exact (agrees_expect h fun _ => hcolon).bind fun _ v w h => (he hl h).bind fun no v w h => agrees_pure h _

/-! ## Calls and control forms -/

theorem alike_parameterNames {form : ControlForm} {position position' : Nat}
    (h : ∀ fault : SyntaxFault, fault.afterOperand? = none →
      P.error ⟨fault, position, some form.name⟩ ⟨fault, position', some form.name⟩) (number : Nat) (args : List Expr) :
    Alike Eq P.error (parameterNames form position number args) (parameterNames form position' number args) := by
  induction args generalizing number with
  | nil => exact .ok rfl
  | cons e rest ih =>
    by_cases hvar : ∃ name, e = .var name
    · obtain ⟨name, rfl⟩ := hvar
      rw [parameterNames, parameterNames]
      exact (ih (number + 1)).map fun _ _ h => congrArg (name :: ·) h
    · have hne : ∀ name, e = .var name → False := fun name he => hvar ⟨name, he⟩
      rw [parameterNames, parameterNames]
      · exact .error (h _ rfl)
      all_goals exact hne

/-- A call is at fault at its name only. -/
theorem alike_callOf {name : String} {position position' : Nat}
    (h : ∀ fault : SyntaxFault, fault.afterOperand? = none →
      P.error ⟨fault, position, some name⟩ ⟨fault, position', some name⟩) (args : List Expr) :
    Alike Eq P.error (callOf name args position) (callOf name args position') := by
  unfold callOf
  split
  · rename_i form hform
    obtain rfl := ControlForm.name_of_ofName? hform
    unfold controlOf
    split
    · exact .error (h _ rfl)
    · have hparams := alike_parameterNames h (form.leading + 1) ((args.drop form.leading).take form.parameters)
      dsimp only
      generalize parameterNames form position _ _ = x at hparams ⊢
      generalize parameterNames form position' _ _ = y at hparams ⊢
      cases hparams with
      | error h => exact .error h
      | ok h =>
        subst h
        cases args.drop (form.leading + form.parameters) <;> exact .ok rfl
  · exact .ok rfl

/-- Items are read up to their closing mark. There are fewer tokens than the reader can take, so it does not stop short of it. -/
theorem agrees_itemsFrom (he : P.Keeps fuel expr expr') {close : Mark} (hclose : (TokenKind.mark close).endsOperand = true)
    {fault : SyntaxFault} (hfault : fault.FitsPlace true) {count : Nat} (hcount : count ≤ fuel) (hn : n < count)
    (h : P.view false n v w) :
    P.Agrees true n v w (itemsFrom expr close fault count) (itemsFrom expr' close fault count) := by
  induction count generalizing n v w with
  | zero => exact absurd hn (Nat.not_lt_zero n)
  | succ count ih =>
    refine (he (Nat.lt_of_lt_of_le hn hcount) h).bind fun item v w h => agrees_sees_bind h (fun hm => ?_) ?_
    · refine agrees_mark_bind h hm fun hl h => Agrees.mono ?_ (Nat.le_of_lt hl)
      exact (ih (Nat.le_of_succ_le hcount) (by omega) h).bind fun rest v w h => agrees_pure h _
    · refine agrees_sees_bind h (fun hm => ?_) (agrees_fail h hfault)
      exact agrees_mark_bind h hm fun hl h => agrees_pure (P.mono (hclose ▸ h) (Nat.le_of_lt hl)) _

theorem agrees_items (he : P.Keeps fuel expr expr') {close : Mark} (hclose : (TokenKind.mark close).endsOperand = true)
    {fault : SyntaxFault} (hfault : fault.FitsPlace true) (hn : n < fuel) (h : P.view false n v w) :
    P.Agrees true n v w (items fuel expr close fault) (items fuel expr' close fault) := by
  refine agrees_sees_bind h (fun hm => ?_) (agrees_itemsFrom he hclose hfault (Nat.le_refl _) hn h)
  exact agrees_mark_bind h hm fun hl h => agrees_pure (P.mono (hclose ▸ h) (Nat.le_of_lt hl)) _

theorem agrees_arguments (he : P.Keeps fuel expr expr') (hn : n < fuel) (h : P.view b n v w)
    (hopen : v.current.kind = .mark .openParen) : P.Agrees true n v w (arguments fuel expr) (arguments fuel expr') := by
  refine (agrees_expect h fun hne => absurd hopen hne).bind fun _ v w h => ?_
  exact agrees_items he rfl (.inr rfl) hn h

/-! ## Operands -/

theorem agrees_literal (h : P.view b n v w) (hk : v.current.kind ≠ .finish) (hends : v.current.kind.endsOperand = true)
    (l : Literal) : P.Agrees true n v w (literal l) (literal l) :=
  agrees_discard_bump_bind h hk fun hl h => agrees_pure (P.mono (hends ▸ h) (Nat.le_of_lt hl)) _

theorem keeps_atom (he : P.Keeps fuel expr expr') : P.Keeps fuel (atom fuel expr) (atom fuel expr') := by
  intro n v w hn h
  refine agrees_peek_bind h ?_
  split
  · rename_i x hk
    exact agrees_literal h (by rw [hk]; nofun) (by rw [hk]; rfl) _
  · rename_i s hk
    exact agrees_literal h (by rw [hk]; nofun) (by rw [hk]; rfl) _
  · rename_i source ignoreCase hk
    have hregex : Alike Eq P.error (regexOf source ignoreCase v.current.position)
        (regexOf source ignoreCase w.current.position) := by
      unfold regexOf
      cases Regex.build source ignoreCase with
      | error f => exact .error (P.report (P.sight h) (.pattern hk f) (.inl rfl))
      | ok r => exact .ok rfl
    exact agrees_lift_bind hregex fun r => agrees_literal h (by rw [hk]; nofun) (by rw [hk]; rfl) _
  · rename_i hk
    exact agrees_literal h (by rw [hk]; nofun) (by rw [hk]; rfl) _
  · rename_i hk
    exact agrees_literal h (by rw [hk]; nofun) (by rw [hk]; rfl) _
  · rename_i hk
    exact agrees_literal h (by rw [hk]; nofun) (by rw [hk]; rfl) _
  · rename_i hk
    have hname := fun fault (hplace : fault.afterOperand? = none) => P.report (P.sight h) (.choice hk fault) (.inl hplace)
    refine agrees_bump_bind h (by rw [hk]; nofun) fun hl h => Agrees.mono ?_ (Nat.le_of_lt hl)
    refine agrees_sees_bind h (fun hopen => ?_) (agrees_fail h (.inl rfl))
    refine (agrees_arguments he (Nat.lt_trans hl hn) h hopen).bind fun args v w h => ?_
    exact agrees_lift h (alike_callOf hname args)
  · rename_i name hk
    have hname := fun fault (hplace : fault.afterOperand? = none) => P.report (P.sight h) (.name hk fault) (.inl hplace)
    refine agrees_bump_bind h (by rw [hk]; nofun) fun hl h => Agrees.mono ?_ (Nat.le_of_lt hl)
    rw [hk] at h
    refine agrees_sees_bind h (fun hopen => ?_) (agrees_pure h _)
    refine (agrees_arguments he (Nat.lt_trans hl hn) h hopen).bind fun args v w h => ?_
    exact agrees_lift h (alike_callOf hname args)
  · rename_i hk
    refine agrees_mark_bind h hk fun hl h => Agrees.mono ?_ (Nat.le_of_lt hl)
    refine (he (Nat.lt_trans hl hn) h).bind fun inner v w h => ?_
    have hclose : SyntaxFault.missingClosingParen.FitsPlace true := .inr rfl
    exact (agrees_expect h fun _ => hclose).bind fun _ v w h => agrees_pure h inner
  · rename_i hk
    refine agrees_mark_bind h hk fun hl h => Agrees.mono ?_ (Nat.le_of_lt hl)
    have hend : SyntaxFault.missingItemEnd.FitsPlace true := .inr rfl
    exact (agrees_items he rfl hend (Nat.lt_trans hl hn) h).bind fun es v w h => agrees_pure h _
  · exact agrees_fail h (.inl rfl)
  · exact agrees_fail h (.inr rfl)

theorem agrees_suffixesFrom (he : P.Keeps fuel expr expr') (hn : n < fuel) (h : P.view true n v w) (count : Nat)
    (base : Expr) : P.Agrees true n v w (suffixesFrom fuel expr count base) (suffixesFrom fuel expr' count base) := by
  induction count generalizing base n v w with
  | zero => exact agrees_pure h base
  | succ count ih =>
    refine agrees_sees_bind h (fun hdot => ?_) (agrees_sees_bind h (fun hopen => ?_) (agrees_pure h base))
    · refine agrees_mark_bind h hdot fun hl h => Agrees.mono ?_ (Nat.le_of_lt hl)
      have hn := Nat.lt_trans hl hn
      refine agrees_peek_bind h ?_
      split
      · rename_i name hk
        have hname := fun fault (hplace : fault.afterOperand? = none) => P.report (P.sight h) (.name hk fault) (.inl hplace)
        refine agrees_bump_bind h (by rw [hk]; nofun) fun hl h => Agrees.mono ?_ (Nat.le_of_lt hl)
        have hn := Nat.lt_trans hl hn
        rw [hk] at h
        refine agrees_sees_bind h (fun hopen => ?_) (ih hn h _)
        refine (agrees_arguments he hn h hopen).bind fun args v w h => ?_
        exact (agrees_lift h (alike_callOf hname (base :: args))).bind fun e v w h => ih hn h e
      · exact agrees_fail h (.inl rfl)
    · refine agrees_mark_bind h hopen fun hl h => Agrees.mono ?_ (Nat.le_of_lt hl)
      have hn := Nat.lt_trans hl hn
      refine (he hn h).bind fun place v w h => ?_
      have hclose : SyntaxFault.missingIndexEnd.FitsPlace true := .inr rfl
      exact (agrees_expect h fun _ => hclose).bind fun _ v w h => ih hn h _

theorem keeps_suffixed (he : P.Keeps fuel expr expr') : P.Keeps fuel (suffixed fuel expr) (suffixed fuel expr') :=
  fun _ _ _ hn h => (keeps_atom he hn h).bind fun base _ _ h => agrees_suffixesFrom he hn h fuel base

/-! ## Levels -/

/-- A watch makes no difference where an operand is read at its place. -/
def Admits (P : Placement) (watch : TokenReader Expr → TokenReader Expr) : Prop :=
  ∀ {n v w} {p q : TokenReader Expr}, P.view false n v w → P.Agrees true n v w p q → P.Agrees true n v w p (watch q)

theorem admits_id : P.Admits id := fun _ h => h

variable {watch : TokenReader Expr → TokenReader Expr}

theorem keeps_unary (hi : P.Keeps fuel inner inner') (ho : P.Keeps fuel operand operand') :
    P.Keeps fuel (unaryOver inner operand) (unaryOver inner' operand') := by
  intro n v w hn h
  refine agrees_peek_bind h ?_
  split
  · rename_i op hop
    refine agrees_mark_bind h (unaryOp?_eq_some hop) fun hl h => Agrees.mono ?_ (Nat.le_of_lt hl)
    have hends : (TokenKind.mark op.mark).endsOperand = false := by cases op <;> rfl
    rw [hends] at h
    exact (hi (Nat.lt_trans hl hn) h).bind fun operand v w h => agrees_pure h _
  · exact ho hn h

theorem keeps_level (hwatch : P.Admits watch) (fuel budget : Nat) :
    P.Keeps fuel (level fuel budget).expr (levelOver watch fuel budget).expr ∧
      P.Keeps fuel (level fuel budget).unary (levelOver watch fuel budget).unary := by
  have hoperand {expr expr' : TokenReader Expr} (he : P.Keeps fuel expr expr') :
      P.Keeps fuel (suffixed fuel expr) (watch (suffixed fuel expr')) :=
    fun _ _ _ hn h => hwatch h (keeps_suffixed he hn h)
  induction budget with
  | zero =>
    have hfail : P.Keeps fuel (fail .tooDeep : TokenReader Expr) (fail .tooDeep) :=
      fun _ _ _ _ h => agrees_fail h (.inl rfl)
    exact ⟨hfail, keeps_unary hfail (hoperand hfail)⟩
  | succ budget ih =>
    have he := keeps_conditional ih.1 ih.2 fuel
    exact ⟨he, keeps_unary ih.2 (hoperand he)⟩

/-- A whole text is read alike from views that go together. -/
theorem keeps_whole (hwatch : P.Admits watch) (fuel : Nat) : P.Keeps fuel (whole fuel) (wholeOver watch fuel) := by
  intro n v w hn h
  refine ((keeps_level hwatch fuel maxNesting).1 hn h).bind fun e v w h => agrees_peek_bind h ?_
  generalize v.current.kind = k
  cases k with
  | finish => exact agrees_pure h e
  | _ => exact agrees_fail h (.inr rfl)

/-- Streams that begin with views that go together are the same expression, with the end of the text in sight, or are wrong with
errors that go together. The second one may be read with a watch. -/
theorem ofStream (hwatch : P.Admits watch) {s s' : TokenStream} (hlength : s'.length = s.length)
    (h : Alike (P.view false s.length) P.error (pull 0 s) (pull 0 s')) :
    Alike (fun e e' => e = e' ∧ ∃ n v w, P.view true n v w ∧ v.current.kind = .finish) P.error
      (Expr.ofStream s) (Expr.ofStreamOver watch s') := by
  unfold Expr.ofStream Expr.ofStreamOver
  rw [hlength]
  refine h.bind fun v w _ hview => Alike.bind (keeps_whole hwatch (s.length + 1) (Nat.lt_succ_self _) hview) ?_
  rintro ⟨e, v'⟩ ⟨_, w'⟩ hrun ⟨rfl, hview'⟩
  obtain ⟨_, _, hfinish, _⟩ := whole_sound hrun
  exact .ok ⟨rfl, _, v', w', hview', hfinish⟩

end Placement

/-! ## Any place -/

/-- Views, tokens and errors of two readings that go together. -/
structure Alignment where
  view : TokenView → TokenView → Prop
  token : Token → Token → Prop
  error : SyntaxError → SyntaxError → Prop
  /-- What is in sight goes together. -/
  sight {v w : TokenView} (h : view v w) : token v.current w.current
  /-- Tokens differ at most in where they stand. -/
  same {t u : Token} (h : token t u) : u.kind = t.kind ∧ u.lexeme = t.lexeme
  /-- The same fault may be found with both tokens. -/
  report {t u : Token} {fault : SyntaxFault} {found : String} (h : token t u) (hreport : t.Reports fault found) :
    error ⟨fault, t.position, some found⟩ ⟨fault, u.position, some found⟩
  /-- Where the text does not end, what comes next goes together. -/
  next {v w : TokenView} (h : view v w) (hk : v.current.kind ≠ .finish) :
    Alike view error (pull v.current.stop v.rest) (pull w.current.stop w.rest)

namespace Alignment

variable {A : Alignment}

/-- Where the text does not end there are more tokens. -/
def GoesOn (A : Alignment) : Prop := ∀ {v w}, A.view v w → v.current.kind ≠ .finish → v.rest ≠ []

/-- What goes together at any place. -/
def placement (A : Alignment) (hmore : A.GoesOn) : Placement where
  view _ n v w := A.view v w ∧ v.rest.length ≤ n
  token _ := A.token
  error := A.error
  mono h hle := ⟨h.1, Nat.le_trans h.2 hle⟩
  sight h := A.sight h.1
  same h := A.same h
  report h hreport _ := A.report h hreport
  next := by
    rintro _ n v w ⟨h, hn⟩ hk
    refine (A.next h hk).mono fun v' w' hpull hview => ⟨v'.rest.length, ?_, hview, Nat.le_refl _⟩
    have hlength := List.length_pos_iff.2 (hmore h hk)
    rw [rest_of_pull hpull, List.length_tail]
    omega

/-- Streams that begin with views that go together are the same expression, with the end of the text in sight, or are wrong with
errors that go together. -/
theorem ofStream (hmore : A.GoesOn) {s s' : TokenStream} (hlength : s'.length = s.length)
    (h : Alike A.view A.error (pull 0 s) (pull 0 s')) :
    Alike (fun e e' => e = e' ∧ ∃ v w, A.view v w ∧ v.current.kind = .finish) A.error
      (Expr.ofStream s) (Expr.ofStream s') := by
  have hpull : Alike ((A.placement hmore).view false s.length) (A.placement hmore).error (pull 0 s) (pull 0 s') := by
    refine h.mono fun v w hpull hview => ⟨hview, ?_⟩
    rw [rest_of_pull hpull, List.length_tail]
    exact Nat.sub_le _ _
  rw [← Expr.ofStreamOver_id s']
  refine Alike.mono (Placement.ofStream (A.placement hmore).admits_id hlength hpull) ?_
  rintro e e' _ ⟨rfl, _, v, w, ⟨hview, _⟩, hfinish⟩
  exact ⟨rfl, v, w, hview, hfinish⟩

end Alignment

end CellExpr
