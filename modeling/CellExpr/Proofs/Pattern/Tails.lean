import CellExpr.Proofs.Pattern.Reading

/-!
# Patterns with a tail

What is read of a pattern is read likewise if a parenthesis and the end of the text come after it (`reads_readBranches`). A comment that
runs to the end of the pattern is the exception: it takes the tail with it. Then there is a `#` in the last line.
-/

namespace CellExpr.Pattern

open CellExpr.Text CellExpr.Number Reader

variable {α β : Type} {c d : Char} {l r tail : List Char} {s : Cursor}

/-! ## Tails -/

/-- What may come after a pattern: nothing, or what ends its group and the text. -/
inductive IsTail : List Char → Prop
  | none : IsTail []
  | closing : IsTail [')', '$']

/-- A character that no tail begins with stands before the tail. -/
theorem IsTail.cons_of_append (htail : IsTail tail) (hc : c ≠ ')') (h : l ++ tail = c :: r) : ∃ r', l = c :: r' ∧ r = r' ++ tail := by
  cases l with
  | nil =>
    cases htail with
    | none => cases h
    | closing => exact absurd (List.cons.inj h).1.symm hc
  | cons d l =>
    obtain ⟨rfl, rfl⟩ := List.cons.inj h
    exact ⟨l, rfl, rfl⟩

/-- A text that does not begin with such a character does not so before a tail either. -/
theorem IsTail.append_ne (htail : IsTail tail) (hc : c ≠ ')') (h : ∀ r, l ≠ c :: r) (r : List Char) : l ++ tail ≠ c :: r := by
  intro heq
  obtain ⟨r', hl, -⟩ := htail.cons_of_append hc heq
  exact h r' hl

theorem IsTail.append_ne_pair (htail : IsTail tail) (hc : c ≠ ')') (hd : d ≠ ')') (h : ∀ r, l ≠ c :: d :: r) (r : List Char) :
    l ++ tail ≠ c :: d :: r := by
  intro heq
  obtain ⟨r', rfl, hr⟩ := htail.cons_of_append hc heq
  obtain ⟨r'', rfl, -⟩ := htail.cons_of_append hd hr.symm
  exact h r'' rfl

theorem IsTail.head?_append_iff (htail : IsTail tail) (hc : c ≠ ')') (l : List Char) :
    (l ++ tail).head? = some c ↔ l.head? = some c := by
  rw [List.head?_eq_some_iff, List.head?_eq_some_iff]
  constructor
  · rintro ⟨r, h⟩
    obtain ⟨r', hl, -⟩ := htail.cons_of_append hc h
    exact ⟨r', hl⟩
  · rintro ⟨r, rfl⟩
    exact ⟨r ++ tail, rfl⟩

/-- The cursor with a tail after what is still to be read. -/
def Cursor.before (s : Cursor) (tail : List Char) : Cursor := { s with rest := s.rest ++ tail }

theorem Cursor.before_nil (s : Cursor) : s.before [] = s := by rw [before, List.append_nil]

/-- There is a `#` in the last line. -/
def MarkedAtEnd (l : List Char) : Prop := ∃ front back, l = front ++ '#' :: back ∧ '\n' ∉ back

theorem MarkedAtEnd.of_suffix (h : MarkedAtEnd r) (hr : r <:+ l) : MarkedAtEnd l := by
  obtain ⟨front, back, rfl, hback⟩ := h
  obtain ⟨before, rfl⟩ := hr
  exact ⟨before ++ front, back, (List.append_assoc _ _ _).symm, hback⟩

/-- A reader reads a text with a tail after it as another reads the text alone. Only a comment at the end takes the tail with it. -/
def ReadsOn (m m' : Reader α) (s : Cursor) (tail : List Char) : Prop :=
  ∀ a s', m.run s = some (a, s') → s'.rest <:+ s.rest ∧
    ∃ tail', (tail' = tail ∨ tail' = [] ∧ MarkedAtEnd s.rest) ∧ m'.run (s.before tail) = some (a, s'.before tail')

/-- A reader reads each text with a tail after it as another reads the text alone. -/
def Reads (m m' : Reader α) : Prop := ∀ s tail, IsTail tail → ReadsOn m m' s tail

/-! ## Readers in a row -/

/-- What is read first may shorten the tail, what is read then may do so further on. -/
theorem ReadsOn.chain {k k' : Reader β} {s' s'' : Cursor} {tail' : List Char} {b : β} (h : ReadsOn k k' s' tail')
    (hsuffix : s'.rest <:+ s.rest) (htail' : tail' = tail ∨ tail' = [] ∧ MarkedAtEnd s.rest) (hrun : k.run s' = some (b, s'')) :
    s''.rest <:+ s.rest ∧
      ∃ tail'', (tail'' = tail ∨ tail'' = [] ∧ MarkedAtEnd s.rest) ∧ k'.run (s'.before tail') = some (b, s''.before tail'') := by
  obtain ⟨hsuffix', tail'', htail'', hrun'⟩ := h b s'' hrun
  refine ⟨hsuffix'.trans hsuffix, tail'', ?_, hrun'⟩
  rcases htail'' with rfl | ⟨rfl, hmarked⟩
  · exact htail'
  · exact .inr ⟨rfl, hmarked.of_suffix hsuffix⟩

theorem IsTail.of_shortened {tail' : List Char} {p : Prop} (htail : IsTail tail) (h : tail' = tail ∨ tail' = [] ∧ p) : IsTail tail' := by
  rcases h with rfl | ⟨rfl, -⟩
  · exact htail
  · exact .none

theorem ReadsOn.bind {m m' : Reader α} {k k' : α → Reader β} (htail : IsTail tail) (h : ReadsOn m m' s tail)
    (hk : ∀ a s' tail', m.run s = some (a, s') → IsTail tail' → ReadsOn (k a) (k' a) s' tail') :
    ReadsOn (m >>= k) (m' >>= k') s tail := by
  intro b s'' hrun
  rw [run_bind] at hrun
  obtain ⟨⟨a, s'⟩, hm, hnext⟩ := Option.bind_eq_some_iff.1 hrun
  obtain ⟨hsuffix, tail', htail', hm'⟩ := h a s' hm
  rw [run_bind, hm', Option.bind_some]
  exact (hk a s' tail' hm (htail.of_shortened htail')).chain hsuffix htail' hnext

/-- Something is read ahead. If it is not what is looked for, the reader goes back. -/
theorem ReadsOn.lookahead {m m' : Reader α} {p : α → Prop} [DecidablePred p] {k k' : α → Reader β} (htail : IsTail tail)
    (h : Reads m m') (hk : ∀ a, Reads (k a) (k' a)) (b : β) :
    ReadsOn (m >>= fun a => if p a then k a else goto s.rest >>= fun _ => Pure.pure b)
      (m' >>= fun a => if p a then k' a else goto (s.rest ++ tail) >>= fun _ => Pure.pure b) s tail := by
  intro b' s'' hrun
  rw [run_bind] at hrun
  obtain ⟨⟨a, s'⟩, hm, hnext⟩ := Option.bind_eq_some_iff.1 hrun
  obtain ⟨hsuffix, tail', htail', hm'⟩ := h s tail htail a s' hm
  rw [run_bind, hm', Option.bind_some]
  by_cases ha : p a
  · rw [if_pos ha] at hnext ⊢
    exact (hk a s' tail' (htail.of_shortened htail')).chain hsuffix htail' hnext
  · rw [if_neg ha] at hnext ⊢
    obtain ⟨rfl, rfl⟩ := Prod.mk.inj (Option.some.inj hnext)
    exact ⟨List.suffix_refl _, tail, .inl rfl, rfl⟩

theorem Reads.bind {m m' : Reader α} {k k' : α → Reader β} (h : Reads m m') (hk : ∀ a, Reads (k a) (k' a)) :
    Reads (m >>= k) (m' >>= k') := fun s tail htail =>
  (h s tail htail).bind htail fun a s' tail' _ htail' => hk a s' tail' htail'

/-- A reader that keeps its place whatever comes after it. -/
theorem Reads.of_run {m m' : Reader α} (h : ∀ s tail a s', IsTail tail → m.run s = some (a, s') →
    s'.rest <:+ s.rest ∧ m'.run (s.before tail) = some (a, s'.before tail)) : Reads m m' := by
  intro s tail htail a s' hrun
  obtain ⟨hsuffix, hrun'⟩ := h s tail a s' htail hrun
  exact ⟨hsuffix, tail, .inl rfl, hrun'⟩

theorem Reads.pure (a : α) : Reads (Pure.pure a) (Pure.pure a) := by
  refine .of_run fun s tail b s' _ hrun => ?_
  obtain ⟨rfl, rfl⟩ := Prod.mk.inj (Option.some.inj hrun)
  exact ⟨List.suffix_refl _, rfl⟩

theorem Reads.failure {m' : Reader α} : Reads failure m' := fun _ _ _ _ _ hrun => nomatch hrun

theorem Reads.lift (o : Option α) : Reads (liftM o) (liftM o) := by
  cases o with
  | none => exact fun _ _ _ _ _ hrun => nomatch hrun
  | some a => exact .pure a

theorem ReadsOn.ite {p p' : Prop} [Decidable p] [Decidable p'] {m m' n n' : Reader α} (hp : p ↔ p') (h : ReadsOn m m' s tail)
    (h' : ReadsOn n n' s tail) : ReadsOn (if p then m else n) (if p' then m' else n') s tail := by
  by_cases hc : p
  · rwa [if_pos hc, if_pos (hp.1 hc)]
  · rwa [if_neg hc, if_neg (mt hp.2 hc)]

theorem Reads.ite {p : Prop} [Decidable p] {m m' n n' : Reader α} (h : Reads m m') (h' : Reads n n') :
    Reads (if p then m else n) (if p then m' else n') := fun s tail htail => .ite Iff.rfl (h s tail htail) (h' s tail htail)

/-- A reader that goes on unless something is wrong. -/
theorem Reads.unless {p : Prop} [Decidable p] {m m' : Unit → Reader α} (h : Reads (m ()) (m' ())) :
    Reads (if p then Alternative.failure >>= m else m ()) (if p then Alternative.failure >>= m' else m' ()) := by
  refine .ite (fun s tail _ a s' hrun => ?_) h
  cases hrun

theorem Reads.map {m m' : Reader α} (h : Reads m m') (f : α → β) : Reads (f <$> m) (f <$> m') := by
  rw [map_eq_pure_bind, map_eq_pure_bind]
  exact h.bind fun a => .pure (f a)

/-! ## Where a reader stands -/

theorem ReadsOn.rest_bind {k k' : List Char → Reader β} (h : ReadsOn (k s.rest) (k' (s.rest ++ tail)) s tail) :
    ReadsOn (rest >>= k) (rest >>= k') s tail := h

theorem ReadsOn.goto_bind {k k' : Unit → Reader β} (hl : l <:+ s.rest) (h : ReadsOn (k ()) (k' ()) { s with rest := l } tail) :
    ReadsOn (goto l >>= k) (goto (l ++ tail) >>= k') s tail := by
  intro b s' hrun
  exact h.chain hl (.inl rfl) hrun

theorem reads_flags : Reads flags flags := by
  refine .of_run fun s tail f s' _ hrun => ?_
  obtain ⟨rfl, rfl⟩ := Prod.mk.inj (Option.some.inj hrun)
  exact ⟨List.suffix_refl _, rfl⟩

theorem reads_setFlags (f : Flags) : Reads (setFlags f) (setFlags f) := by
  refine .of_run fun s tail a s' _ hrun => ?_
  obtain ⟨rfl, rfl⟩ := Prod.mk.inj (Option.some.inj hrun)
  exact ⟨List.suffix_refl _, rfl⟩

theorem reads_nextGroup : Reads nextGroup nextGroup := by
  refine .of_run fun s tail a s' _ hrun => ?_
  obtain ⟨rfl, rfl⟩ := Prod.mk.inj (Option.some.inj hrun)
  exact ⟨List.suffix_refl _, rfl⟩

theorem run_peek_eq_some (h : peek.run s = some (c, s')) : s' = s ∧ ∃ r, s.rest = c :: r := by
  obtain ⟨l, f, count, names⟩ := s
  cases l with
  | nil => cases h
  | cons d r =>
    obtain ⟨rfl, rfl⟩ := Prod.mk.inj (Option.some.inj h)
    exact ⟨rfl, r, rfl⟩

theorem reads_peek : Reads peek peek := by
  refine .of_run fun s tail c s' _ hrun => ?_
  obtain ⟨rfl, r, hr⟩ := run_peek_eq_some hrun
  exact ⟨List.suffix_refl _, run_peek (show (s'.before tail).rest = c :: (r ++ tail) by rw [Cursor.before, hr]; rfl)⟩

theorem reads_bump : Reads bump bump := by
  refine .of_run fun s tail a s' _ hrun => ?_
  obtain ⟨l, f, count, names⟩ := s
  cases l with
  | nil => cases hrun
  | cons c r =>
    obtain ⟨rfl, rfl⟩ := Prod.mk.inj (Option.some.inj hrun)
    exact ⟨List.suffix_cons c r, rfl⟩

/-! ## What is passed over -/

theorem skipFree_suffix (inComment : Bool) (l : List Char) : skipFree inComment l <:+ l := by
  induction l generalizing inComment with
  | nil => cases inComment <;> exact List.suffix_refl _
  | cons c r ih =>
    have hr : r <:+ c :: r := List.suffix_cons c r
    cases inComment with
    | true => exact (ih _).trans hr
    | false =>
      rw [skipFree]
      split
      · exact (ih _).trans hr
      · split
        · exact (ih _).trans hr
        · exact List.suffix_refl _

/-- A comment at the end takes the tail with it. -/
theorem skipFree_append (htail : IsTail tail) (inComment : Bool) (l : List Char) :
    skipFree inComment (l ++ tail) = skipFree inComment l ++ tail ∨
      skipFree inComment (l ++ tail) = skipFree inComment l ∧ (MarkedAtEnd l ∨ inComment = true ∧ '\n' ∉ l) := by
  induction l generalizing inComment with
  | nil =>
    cases htail with
    | none => exact .inl (List.append_nil _).symm
    | closing =>
      cases inComment with
      | true => exact .inr ⟨rfl, .inr ⟨rfl, List.not_mem_nil⟩⟩
      | false => exact .inl rfl
  | cons c r ih =>
    have hmarked : ∀ {p : Prop}, MarkedAtEnd r ∨ p → MarkedAtEnd (c :: r) ∨ p := fun h =>
      h.imp_left fun h => h.of_suffix (List.suffix_cons c r)
    rw [List.cons_append]
    cases inComment with
    | true =>
      rw [skipFree, skipFree]
      refine (ih (c != '\n')).imp_right fun ⟨heq, h⟩ => ⟨heq, (hmarked h).imp_right fun ⟨hc, hr⟩ => ⟨rfl, ?_⟩⟩
      exact List.not_mem_cons_of_ne_of_not_mem (Ne.symm (bne_iff_ne.1 hc)) hr
    | false =>
      rw [skipFree, skipFree]
      split
      · refine (ih false).imp_right fun ⟨heq, h⟩ => ⟨heq, (hmarked h).imp_right fun ⟨hfalse, _⟩ => nomatch hfalse⟩
      · split
        · rename_i hc
          subst hc
          refine (ih true).imp_right fun ⟨heq, h⟩ => ⟨heq, .inl ?_⟩
          rcases h with h | ⟨-, hr⟩
          · exact h.of_suffix (List.suffix_cons _ r)
          · exact ⟨[], r, rfl, hr⟩
        · exact .inl rfl

theorem reads_skip : Reads skip skip := by
  intro s tail htail a s' hrun
  have hskip : ∀ s : Cursor, skip.run s = some ((), if s.flags.free then { s with rest := skipFree false s.rest } else s) := by
    intro s
    rw [skip, run_bind, run_flags, Option.bind_some]
    split <;> rfl
  rw [hskip] at hrun ⊢
  obtain ⟨rfl, rfl⟩ := Prod.mk.inj (Option.some.inj hrun)
  show _ ∧ ∃ tail', _ ∧ some ((), if s.flags.free then _ else _) = _
  by_cases hfree : s.flags.free = true
  · rw [if_pos hfree, if_pos hfree]
    refine ⟨skipFree_suffix false s.rest, ?_⟩
    rcases skipFree_append htail false s.rest with heq | ⟨heq, hmarked⟩
    · exact ⟨tail, .inl rfl, congrArg (fun rest => some ((), { s with rest })) heq⟩
    · refine ⟨[], .inr ⟨rfl, hmarked.resolve_right fun h => Bool.false_ne_true h.1⟩, ?_⟩
      exact congrArg (fun rest => some ((), { s with rest })) (heq.trans (List.append_nil _).symm)
  · rw [if_neg hfree, if_neg hfree]
    exact ⟨List.suffix_refl _, tail, .inl rfl, rfl⟩

theorem reads_bumpSkip : Reads bumpSkip bumpSkip := reads_bump.bind fun c => reads_skip.bind fun _ => .pure c

/-- The question mark is no part of a tail. -/
theorem reads_bumpIf : Reads (bumpIf '?') (bumpIf '?') := by
  refine .of_run fun s tail a s' htail hrun => ?_
  obtain ⟨l, f, count, names⟩ := s
  cases l with
  | nil =>
    obtain ⟨rfl, rfl⟩ := Prod.mk.inj (Option.some.inj hrun)
    exact ⟨List.suffix_refl _, by cases htail <;> rfl⟩
  | cons c r =>
    have hbump : ∀ r, (bumpIf '?').run ⟨c :: r, f, count, names⟩ =
        if c = '?' then some (true, ⟨r, f, count, names⟩) else some (false, ⟨c :: r, f, count, names⟩) := by
      intro r
      by_cases hc : c = '?'
      · subst hc
        rfl
      · rw [if_neg hc]
        show (if c = '?' then (goto r >>= fun _ => Pure.pure true) else Pure.pure false : Reader Bool).run _ = _
        rw [if_neg hc]
        rfl
    rw [hbump] at hrun
    show _ ∧ (bumpIf '?').run ⟨c :: (r ++ tail), f, count, names⟩ = _
    rw [hbump]
    split at hrun
    · rename_i hc
      obtain ⟨rfl, rfl⟩ := Prod.mk.inj (Option.some.inj hrun)
      exact ⟨List.suffix_cons c r, if_pos hc⟩
    · rename_i hc
      obtain ⟨rfl, rfl⟩ := Prod.mk.inj (Option.some.inj hrun)
      exact ⟨List.suffix_refl _, if_neg hc⟩

end CellExpr.Pattern
