import CellExpr.Syntax.Grammar

/-!
# Runs of token readers

What a reader passes on its way, and when the smallest readers succeed. `Passes v ts w` says that the tokens `ts` stand
between two views; a reader that succeeds has passed what it read, and nothing else of a view matters to it.
-/

namespace CellExpr

open TokenReader

/-! ## Passing tokens -/

/-- `Passes v ts w`: one after another the tokens come in sight from the first view on, none of them the end of the text,
and after them the second view is reached. -/
inductive TokenView.Passes : TokenView → List TokenKind → TokenView → Prop where
  | refl (v : TokenView) : Passes v [] v
  | step {v u w : TokenView} {ts : List TokenKind} (hk : v.current.kind ≠ .finish)
      (hu : pull v.current.stop v.rest = .ok u) (h : Passes u ts w) : Passes v (v.current.kind :: ts) w

namespace TokenView

variable {u v w : TokenView} {ts us : List TokenKind} {k : TokenKind}

theorem Passes.single (hk : v.current.kind = k) (hf : k ≠ .finish) (hu : pull v.current.stop v.rest = .ok u) :
    Passes v [k] u := by
  subst hk
  exact .step hf hu (.refl u)

theorem Passes.append (h : Passes v ts u) (h' : Passes u us w) : Passes v (ts ++ us) w := by
  induction h with
  | refl => exact h'
  | step hk hu _ ih => exact .step hk hu (ih h')

/-- A view reached past two lists of tokens is reached past the first and then past the second. -/
theorem Passes.split (h : Passes v (ts ++ us) w) : ∃ u, Passes v ts u ∧ Passes u us w := by
  induction ts generalizing v with
  | nil => exact ⟨v, .refl v, h⟩
  | cons k ts ih =>
    cases h with
    | step hk hu h =>
      obtain ⟨u, h1, h2⟩ := ih h
      exact ⟨u, .step hk hu h1, h2⟩

/-- Past one token and more there is a view right after the token. -/
theorem Passes.uncons (h : Passes v (k :: ts) w) :
    v.current.kind = k ∧ ∃ u, pull v.current.stop v.rest = .ok u ∧ Passes u ts w := by
  cases h with
  | step hk hu h => exact ⟨rfl, _, hu, h⟩

theorem Passes.current (h : Passes v (k :: ts) w) : v.current.kind = k := h.uncons.1

/-- From a view there is one way to the end of the text. -/
theorem Passes.unique (h : Passes v ts u) (hu : u.current.kind = .finish) (h' : Passes v us w)
    (hw : w.current.kind = .finish) : ts = us ∧ u = w := by
  induction h generalizing us with
  | refl v =>
    cases h' with
    | refl => exact ⟨rfl, rfl⟩
    | step hk => exact absurd hu hk
  | step hk h1 _ ih =>
    cases h' with
    | refl => exact absurd hw hk
    | step _ h2 h' =>
      rw [h1] at h2
      obtain rfl := Except.ok.inj h2
      obtain ⟨rfl, rfl⟩ := ih hu h'
      exact ⟨rfl, rfl⟩

end TokenView

/-! ## The smallest readers -/

namespace TokenReader

variable {α β : Type} {u v w : TokenView} {a : α} {b : β}

/-- Two readers one after the other succeed if both do. -/
theorem run_bind_eq_ok {p : TokenReader α} {f : α → TokenReader β} :
    (p >>= f).run v = .ok (b, w) ↔ ∃ a u, p.run v = .ok (a, u) ∧ (f a).run u = .ok (b, w) := by
  rw [StateT.run_bind]
  cases p.run v with
  | error e => simp [bind, Except.bind]
  | ok r => exact ⟨fun h => ⟨r.1, r.2, rfl, h⟩, fun ⟨_, _, h, h'⟩ => by cases h; exact h'⟩

/-- After a reader that succeeds the next one goes on. -/
theorem run_bind_of_ok {p : TokenReader α} {f : α → TokenReader β} (h : p.run v = .ok (a, u)) :
    (p >>= f).run v = (f a).run u := by
  rw [StateT.run_bind, h]
  rfl

theorem run_pure_eq_ok {a' : α} : (pure a : TokenReader α).run v = .ok (a', w) ↔ a' = a ∧ w = v := by
  rw [StateT.run_pure]
  simp [pure, Except.pure, eq_comm]

/-- A result that needs no token. -/
theorem run_lift_eq_ok {x : Except SyntaxError α} :
    (monadLift x : TokenReader α).run v = .ok (a, w) ↔ x = .ok a ∧ w = v := by
  rw [StateT.run_monadLift]
  cases x <;> simp [bind, Except.bind, monadLift, pure, Except.pure, eq_comm]

theorem run_peek_bind {f : TokenKind → TokenReader β} : (peek >>= f).run v = (f v.current.kind).run v := rfl

theorem run_fail_ne_ok {fault : SyntaxFault} : (fail fault : TokenReader α).run v ≠ .ok (a, w) := nofun

theorem run_bump : bump.run v = (pull v.current.stop v.rest).map (v.current, ·) := by
  cases h : pull v.current.stop v.rest with
  | error e =>
    simp only [bump, StateT.run_bind, StateT.run_get, pure_bind, StateT.run_monadLift, h]
    rfl
  | ok w =>
    simp only [bump, StateT.run_bind, StateT.run_get, pure_bind, StateT.run_monadLift, h]
    rfl

theorem run_bump_eq_ok {t : Token} :
    bump.run v = .ok (t, w) ↔ t = v.current ∧ pull v.current.stop v.rest = .ok w := by
  rw [run_bump]
  cases pull v.current.stop v.rest <;> simp [Except.map, eq_comm]

theorem run_discard_bump : (discard bump : TokenReader Unit).run v = (pull v.current.stop v.rest).map ((), ·) := by
  have h : (discard bump : TokenReader Unit).run v = Prod.map (fun _ => ()) id <$> bump.run v := rfl
  rw [h, run_bump]
  cases pull v.current.stop v.rest <;> rfl

theorem run_discard_bump_eq_ok {x : Unit} :
    (discard bump : TokenReader Unit).run v = .ok (x, w) ↔ pull v.current.stop v.rest = .ok w := by
  rw [run_discard_bump]
  cases pull v.current.stop v.rest <;> simp [Except.map]

theorem run_sees {m : Mark} : ∃ b, (sees m).run v = .ok (b, v) ∧ (b = true ↔ v.current.kind = .mark m) := by
  unfold sees
  rw [run_peek_bind]
  split
  · rename_i n hn
    exact ⟨decide (n = m), rfl, by rw [hn]; simp⟩
  · rename_i h
    exact ⟨false, rfl, by simpa using h m⟩

/-- A reader that looks for a mark, if the mark is in sight. -/
theorem run_sees_bind_of_eq {m : Mark} {f : Bool → TokenReader β} (h : v.current.kind = .mark m) :
    (sees m >>= f).run v = (f true).run v := by
  obtain ⟨b, hb, hm⟩ := run_sees (v := v) (m := m)
  rw [run_bind_of_ok hb, hm.2 h]

/-- A reader that looks for a mark, if another token is in sight. -/
theorem run_sees_bind_of_ne {m : Mark} {f : Bool → TokenReader β} (h : v.current.kind ≠ .mark m) :
    (sees m >>= f).run v = (f false).run v := by
  obtain ⟨b, hb, hm⟩ := run_sees (v := v) (m := m)
  rw [run_bind_of_ok hb, Bool.eq_false_iff.2 fun hb' => h (hm.1 hb')]

theorem run_expect_eq_ok {m : Mark} {fault : SyntaxFault} {x : Unit} :
    (expect m fault).run v = .ok (x, w) ↔ v.current.kind = .mark m ∧ pull v.current.stop v.rest = .ok w := by
  unfold expect
  rw [run_peek_bind]
  split
  · rename_i n hn
    by_cases hm : n = m
    · rw [if_pos hm, run_discard_bump_eq_ok, hn, hm]
      simp
    · rw [if_neg hm, hn]
      simp [run_fail_ne_ok, hm]
  · rename_i h
    simp [run_fail_ne_ok]
    exact fun hm => (h m hm).elim

/-! Readers that pass a token, with what comes after them. -/

theorem run_discard_bump_bind {f : Unit → TokenReader α}
    (hu : pull v.current.stop v.rest = .ok u) : (discard bump >>= f).run v = (f ()).run u :=
  run_bind_of_ok (run_discard_bump_eq_ok.2 hu)

theorem run_bump_bind {f : Token → TokenReader α}
    (hu : pull v.current.stop v.rest = .ok u) : (bump >>= f).run v = (f v.current).run u :=
  run_bind_of_ok (run_bump_eq_ok.2 ⟨rfl, hu⟩)

theorem run_expect_bind {m : Mark} {fault : SyntaxFault} {f : Unit → TokenReader α}
    (hk : v.current.kind = .mark m) (hu : pull v.current.stop v.rest = .ok u) :
    (expect m fault >>= f).run v = (f ()).run u :=
  run_bind_of_ok (run_expect_eq_ok.2 ⟨hk, hu⟩)

end TokenReader

end CellExpr
