import CellExpr.Proofs.Pattern.Tails

/-!
# Readers before a tail

Each reader of the notation reads a pattern with a tail after it as it reads the pattern alone. A reader that is bounded by the number
of characters that are left has more of them before a tail, so its bound may grow.
-/

namespace CellExpr.Pattern

open CellExpr.Text CellExpr.Number Reader

variable {l r tail : List Char} {s : Cursor} {fuel fuel' : Nat}

/-- A bound that is one more than the number of characters left grows with a tail. -/
theorem ReadsOn.rest_bound {α β : Type} {m : Nat → Reader α} {k k' : α → Reader β} (htail : IsTail tail)
    (h : ∀ {fuel fuel'}, fuel ≤ fuel' → Reads (m fuel) (m fuel')) (hk : ∀ a, Reads (k a) (k' a)) :
    ReadsOn (rest >>= fun l => m (l.length + 1) >>= k) (rest >>= fun l => m (l.length + 1) >>= k') s tail := by
  refine .rest_bind ((h ?_).bind hk s tail htail)
  rw [List.length_append]
  omega

/-! ## Escapes -/

theorem reads_readBracedHex (hfuel : fuel ≤ fuel') (digits : List Char) :
    Reads (readBracedHex fuel digits) (readBracedHex fuel' digits) := by
  induction fuel generalizing fuel' digits with
  | zero => exact .failure
  | succ fuel ih =>
    obtain ⟨fuel', rfl⟩ := Nat.exists_eq_add_of_lt hfuel
    rw [readBracedHex, readBracedHex]
    refine reads_bumpSkip.bind fun _ => reads_peek.bind fun c => .ite (.pure _) (.ite (ih ?_ _) .failure)
    omega

theorem reads_readFixedHex (count : Nat) : Reads (readFixedHex count) (readFixedHex count) := by
  induction count with
  | zero => exact .pure _
  | succ count ih =>
    rw [readFixedHex]
    exact reads_peek.bind fun c => .ite (reads_bumpSkip.bind fun _ => ih.bind fun _ => .pure _) .failure

theorem reads_readHex (count : Nat) : Reads (readHex count) (readHex count) := by
  refine reads_bumpSkip.bind fun _ => reads_peek.bind fun c => .ite (fun s tail htail => ?_) ?_
  · exact .rest_bound htail (fun hfuel => reads_readBracedHex hfuel []) fun digits =>
      reads_bumpSkip.bind fun _ => .unless (.bind (.lift _) fun _ => .pure _)
  · exact (reads_readFixedHex count).bind fun _ => .bind (.lift _) fun _ => .pure _

theorem reads_readBracedName (hfuel : fuel ≤ fuel') (name : List Char) :
    Reads (readBracedName fuel name) (readBracedName fuel' name) := by
  induction fuel generalizing fuel' name with
  | zero => exact .failure
  | succ fuel ih =>
    obtain ⟨fuel', rfl⟩ := Nat.exists_eq_add_of_lt hfuel
    rw [readBracedName, readBracedName]
    refine reads_bumpSkip.bind fun _ => reads_peek.bind fun c => .ite (.pure _) (ih ?_ _)
    omega

theorem reads_readPropertyClass : Reads readPropertyClass readPropertyClass := by
  refine reads_peek.bind fun c => .ite (fun s tail htail => ?_) (.ite .failure (reads_bumpSkip.bind fun _ => .lift _))
  exact .rest_bound htail (fun hfuel => reads_readBracedName hfuel []) fun name => reads_bump.bind fun _ => .lift _

theorem reads_readProperty (negated : Bool) : Reads (readProperty negated) (readProperty negated) := by
  refine reads_flags.bind fun f => reads_bumpSkip.bind fun _ => reads_readPropertyClass.bind fun (k, outside) => ?_
  exact .unless (.bind (.lift _) fun _ => .pure _)

theorem reads_readEdgeName (hfuel : fuel ≤ fuel') (name : List Char) : Reads (readEdgeName fuel name) (readEdgeName fuel' name) := by
  induction fuel generalizing fuel' name with
  | zero => exact .failure
  | succ fuel ih =>
    obtain ⟨fuel', rfl⟩ := Nat.exists_eq_add_of_lt hfuel
    rw [readEdgeName, readEdgeName]
    refine reads_peek.bind fun c => .ite (reads_bumpSkip.bind fun _ => ih ?_ _) (.ite (reads_bump.bind fun _ => .pure _) .failure)
    omega

theorem reads_readEdge : Reads readEdge readEdge := by
  intro s tail htail
  refine .rest_bind ?_
  obtain ⟨l, f, count, names⟩ := s
  have hboundary : ReadsOn (Pure.pure WordEdge.boundary) (Pure.pure WordEdge.boundary) ⟨l, f, count, names⟩ tail := Reads.pure _ _ _ htail
  cases l with
  | nil => cases htail <;> exact hboundary
  | cons c r =>
    by_cases hc : c = '\x7b'
    · subst hc
      show ReadsOn (bumpSkip >>= fun _ => peek >>= fun c => _) (bumpSkip >>= fun _ => peek >>= fun c => _) _ _
      rw [← bind_assoc, ← bind_assoc]
      refine .lookahead htail (reads_bumpSkip.bind fun _ => reads_peek) (fun c => ?_) _
      refine (reads_readEdgeName ?_ []).bind fun name => ?_
      · rw [List.length_append]
        omega
      · split
        case h_5 => exact .failure
        all_goals exact .pure _
    · dsimp only [List.cons_append]
      split
      · rename_i h
        exact absurd (List.cons.inj h).1 hc
      · split
        · rename_i h
          exact absurd (List.cons.inj h).1 hc
        · exact hboundary

theorem reads_readEscape : Reads readEscape readEscape := by
  refine reads_bump.bind fun _ => reads_flags.bind fun f => reads_peek.bind fun c => ?_
  refine .ite (reads_readHex 2) (.ite (reads_readHex 4) (.ite (reads_readHex 8) (.ite (reads_readProperty _) ?_)))
  refine reads_bump.bind fun _ => .ite (.bind (.lift _) fun _ => .pure _) (.ite (.pure _) ?_)
  split
  case h_9 => exact reads_readEdge.bind fun _ => .pure _
  case h_13 => exact .failure
  all_goals exact .pure _

/-! ## Sets -/

theorem reads_readSetItem : Reads readSetItem readSetItem :=
  reads_peek.bind fun _ => .ite reads_readEscape (reads_bump.bind fun _ => .pure _)

theorem isBlank_closing : isBlank ')' = false := by decide

theorem dropWhile_isBlank_append (htail : IsTail tail) (l : List Char) : (l ++ tail).dropWhile isBlank = l.dropWhile isBlank ++ tail := by
  have hblank : tail.dropWhile isBlank = tail := by
    cases htail with
    | none => rfl
    | closing => exact List.dropWhile_cons_of_neg (Bool.eq_false_iff.1 isBlank_closing)
  rw [List.dropWhile_append, hblank]
  split
  · rename_i h
    rw [List.isEmpty_iff.1 h, List.nil_append]
  · rfl

/-- The second character is a hyphen or a bracket just if it is so without the tail. -/
theorem peekSecond_append (htail : IsTail tail) (f : Flags) (hl : l ≠ []) {d : Char} (hd : d = ']' ∨ d = '-') :
    peekSecond f (l ++ tail) = some d ↔ peekSecond f l = some d := by
  obtain ⟨c, r, rfl⟩ := List.exists_cons_of_ne_nil hl
  have hd' : d ≠ ')' ∧ isBlank d = false ∧ d ≠ '#' := by rcases hd with rfl | rfl <;> decide
  have hhead := htail.head?_append_iff hd'.1
  rw [List.cons_append, peekSecond, peekSecond]
  split
  · exact hhead r
  -- a blank character and the mark of a comment are neither a hyphen nor a bracket
  have hfirst : ∀ {w}, r.dropWhile isBlank = w → (w = [] ∨ ∃ w', w = '#' :: w') → r.head? ≠ some d := by
    rintro w hw hform hr
    obtain ⟨r', rfl⟩ := List.head?_eq_some_iff.1 hr
    rw [List.dropWhile_cons_of_neg (Bool.eq_false_iff.1 hd'.2.1)] at hw
    rcases hform with rfl | ⟨w', rfl⟩
    · cases hw
    · exact hd'.2.2 (List.cons.inj hw).1
  have hor : ∀ {o o' : Option Char}, o' ≠ some d → (o.or o' = some d ↔ o = some d) := fun ho' =>
    Option.or_eq_some_iff.trans (or_iff_left fun h => ho' h.2)
  rw [dropWhile_isBlank_append htail]
  cases hw : r.dropWhile isBlank with
  | nil =>
    have hne := hfirst hw (.inl rfl)
    cases htail with
    | none => exact hhead r
    | closing => exact iff_of_false (fun h => hd'.1 (Option.some.inj h).symm) hne
  | cons x w =>
    by_cases hx : x = '#'
    · subst hx
      have hne := hfirst hw (.inr ⟨w, rfl⟩)
      show ((w ++ tail).dropWhile isBlank).head?.or (r ++ tail).head? = some d ↔ (w.dropWhile isBlank).head?.or r.head? = some d
      rw [hor hne, hor (mt (hhead r).1 hne), dropWhile_isBlank_append htail]
      exact hhead _
    · dsimp only [List.cons_append]
      split <;> rename_i h
      · cases h
      · exact absurd (List.cons.inj h).1 hx
      · rw [← (List.cons.inj h).1]

theorem reads_readSetRange : Reads readSetRange readSetRange := by
  refine reads_flags.bind fun f => reads_readSetItem.bind fun first => reads_skip.bind fun _ => fun s tail htail => ?_
  refine (reads_peek s tail htail).bind htail fun next s' tail' hpeek htail' => .rest_bind ?_
  obtain ⟨rfl, r, hr⟩ := run_peek_eq_some hpeek
  have hsecond : ∀ d, d = ']' ∨ d = '-' → (peekSecond f s'.rest = some d ↔ peekSecond f (s'.rest ++ tail') = some d) := fun d hd =>
    (peekSecond_append htail' f (hr ▸ List.cons_ne_nil next r) hd).symm
  refine .ite (or_congr Iff.rfl (or_congr (hsecond ']' (.inl rfl)) (hsecond '-' (.inr rfl)))) ((?_ : Reads _ _) s' tail' htail')
    ((?_ : Reads _ _) s' tail' htail')
  · cases first with
    | char c byte => exact .bind (.lift _) fun _ => .pure _
    | chars k => exact .pure k
    | look l => exact .failure
  · refine reads_bumpSkip.bind fun _ => reads_peek.bind fun _ => reads_readSetItem.bind fun last => ?_
    split
    · exact .bind (.lift _) fun a => .bind (.lift _) fun b => .ite (.pure _) .failure
    · exact .failure

/-- What follows the first colon is the same before a tail, if there is one. -/
theorem colon_append (htail : IsTail tail) (l : List Char) :
    l.dropWhile (· ≠ ':') = [] ∧ (l ++ tail).dropWhile (· ≠ ':') = [] ∨
      l.dropWhile (· ≠ ':') ≠ [] ∧ (l ++ tail).dropWhile (· ≠ ':') = l.dropWhile (· ≠ ':') ++ tail ∧
        (l ++ tail).takeWhile (· ≠ ':') = l.takeWhile (· ≠ ':') := by
  have hnone : tail.dropWhile (· ≠ ':') = [] := by cases htail <;> rfl
  induction l with
  | nil => exact .inl ⟨rfl, hnone⟩
  | cons c l ih =>
    rw [List.cons_append, List.dropWhile_cons, List.dropWhile_cons, List.takeWhile_cons, List.takeWhile_cons]
    split
    · exact ih.imp_right fun ⟨hne, hdrop, htake⟩ => ⟨hne, hdrop, congrArg (c :: ·) htake⟩
    · exact .inr ⟨List.cons_ne_nil c l, rfl, rfl⟩

/-- What follows a named class, and the class, from its name on. -/
def namedSetFrom? (f : Flags) (negated : Bool) (r : List Char) : Option (Option CharClass × List Char) :=
  match r.dropWhile (· ≠ ':') with
  | ':' :: ']' :: after => (asciiClass? (String.ofList (r.takeWhile (· ≠ ':')))).map fun k => (f.negate? negated (f.fold k), after)
  | _ => none

theorem namedSet?_negated (f : Flags) (r : List Char) : namedSet? f ('[' :: ':' :: '^' :: r) = namedSetFrom? f true r := rfl

theorem namedSet?_plain (f : Flags) (h : ∀ r', r ≠ '^' :: r') : namedSet? f ('[' :: ':' :: r) = namedSetFrom? f false r := by
  rw [namedSet?]
  · rfl
  · exact fun r' hr' => h r' hr'

theorem namedSet?_other (f : Flags) (h : ∀ r, l ≠ '[' :: ':' :: r) : namedSet? f l = none := by
  rw [namedSet?]
  exact fun r hr => h r hr

theorem namedSetFrom?_append (htail : IsTail tail) (f : Flags) (negated : Bool) (r : List Char) :
    namedSetFrom? f negated (r ++ tail) = (namedSetFrom? f negated r).map fun (k, after) => (k, after ++ tail) := by
  rw [namedSetFrom?, namedSetFrom?]
  rcases colon_append htail r with ⟨hnone, hnone'⟩ | ⟨-, hdrop, htake⟩
  · rw [hnone, hnone']
    rfl
  · rw [hdrop, htake]
    generalize r.dropWhile (· ≠ ':') = rest
    split <;> rename_i h
    · obtain ⟨rest', rfl, hrest⟩ := htail.cons_of_append (show ':' ≠ ')' by decide) h
      obtain ⟨rest', rfl, rfl⟩ := htail.cons_of_append (show ']' ≠ ')' by decide) hrest.symm
      cases asciiClass? (String.ofList (r.takeWhile (· ≠ ':'))) <;> rfl
    · split <;> rename_i h'
      · exact absurd rfl (h _)
      · rfl

theorem namedSet?_suffix {f : Flags} {k : Option CharClass} (h : namedSet? f l = some (k, r)) : r <:+ l := by
  have hfrom : ∀ {negated : Bool} {l : List Char}, namedSetFrom? f negated l = some (k, r) → r <:+ l := by
    intro negated l h
    rw [namedSetFrom?] at h
    split at h
    · rename_i after hdrop
      obtain ⟨_, -, heq⟩ := Option.map_eq_some_iff.1 h
      obtain ⟨-, rfl⟩ := Prod.mk.inj heq
      exact ((List.suffix_cons _ _).trans (List.suffix_cons _ _)).trans (hdrop ▸ List.dropWhile_suffix _)
    · cases h
  by_cases hl : ∃ l', l = '[' :: ':' :: l'
  · obtain ⟨l', rfl⟩ := hl
    refine List.IsSuffix.trans ?_ ((List.suffix_cons _ _).trans (List.suffix_cons _ _))
    by_cases hl' : ∃ l'', l' = '^' :: l''
    · obtain ⟨l'', rfl⟩ := hl'
      exact (hfrom (namedSet?_negated f l'' ▸ h)).trans (List.suffix_cons _ _)
    · exact hfrom (namedSet?_plain f (not_exists.1 hl') ▸ h)
  · rw [namedSet?_other f (not_exists.1 hl)] at h
    cases h

/-- The class with a name is the same before a tail. -/
theorem namedSet?_append (htail : IsTail tail) (f : Flags) (l : List Char) :
    namedSet? f (l ++ tail) = (namedSet? f l).map fun (k, after) => (k, after ++ tail) := by
  by_cases hl : ∃ r, l = '[' :: ':' :: r
  · obtain ⟨r, rfl⟩ := hl
    by_cases hr : ∃ r', r = '^' :: r'
    · obtain ⟨r, rfl⟩ := hr
      exact namedSetFrom?_append htail f true r
    · rw [namedSet?_plain f (not_exists.1 hr), ← namedSetFrom?_append htail]
      exact namedSet?_plain f (htail.append_ne (by decide) (not_exists.1 hr))
  · rw [namedSet?_other f (not_exists.1 hl)]
    exact namedSet?_other f (htail.append_ne_pair (by decide) (by decide) (not_exists.1 hl))

/-- Passing a character leaves fewer characters. -/
theorem length_lt_of_bumpSkip {c : Char} {s' : Cursor} (h : bumpSkip.run s = some (c, s')) : s'.rest.length < s.rest.length := by
  obtain ⟨l, f, count, names⟩ := s
  cases l with
  | nil => cases h
  | cons d r =>
    have hbump : bumpSkip.run ⟨d :: r, f, count, names⟩ = (skip >>= fun _ => Pure.pure d : Reader Char).run ⟨r, f, count, names⟩ := rfl
    rw [hbump] at h
    obtain ⟨hsuffix, -⟩ := (reads_skip.bind fun _ => .pure d) ⟨r, f, count, names⟩ [] .none c s' h
    exact Nat.lt_succ_of_le hsuffix.length_le

theorem readsOn_readHyphens (htail : IsTail tail) (hrest : s.rest.length < fuel) (hfuel : fuel ≤ fuel') (part : SetPart) :
    ReadsOn (readHyphens fuel part) (readHyphens fuel' part) s tail := by
  induction fuel generalizing fuel' part s tail with
  | zero => exact absurd hrest (Nat.not_lt_zero _)
  | succ fuel ih =>
    obtain ⟨fuel', rfl⟩ := Nat.exists_eq_add_of_lt hfuel
    rw [readHyphens, readHyphens]
    refine (reads_peek s tail htail).bind htail fun c s₁ tail₁ hpeek htail₁ => ?_
    obtain ⟨rfl, -⟩ := run_peek_eq_some hpeek
    refine .ite Iff.rfl ?_ (Reads.pure part s₁ tail₁ htail₁)
    refine (reads_bumpSkip s₁ tail₁ htail₁).bind htail₁ fun _ s₂ tail₂ hbump htail₂ => ?_
    refine (reads_peek s₂ tail₂ htail₂).bind htail₂ fun _ s₃ tail₃ hpeek' htail₃ => ?_
    obtain ⟨rfl, -⟩ := run_peek_eq_some hpeek'
    have hlt := length_lt_of_bumpSkip hbump
    exact ih htail₃ (by omega) (by omega) _

theorem reads_readSetStart : Reads readSetStart readSetStart := by
  refine reads_bumpSkip.bind fun _ => reads_peek.bind fun c => ?_
  have hmembers : Reads (rest >>= fun l => readHyphens (l.length + 1) {} >>= fun part => peek >>= fun d =>
      if part.count = 0 ∧ d = ']' then bumpSkip >>= fun _ => peek >>= fun _ => Pure.pure (c == '^', part.add (.single ']'))
      else Pure.pure (c == '^', part))
    (rest >>= fun l => readHyphens (l.length + 1) {} >>= fun part => peek >>= fun d =>
      if part.count = 0 ∧ d = ']' then bumpSkip >>= fun _ => peek >>= fun _ => Pure.pure (c == '^', part.add (.single ']'))
      else Pure.pure (c == '^', part)) := by
    intro s tail htail
    refine .rest_bind ((readsOn_readHyphens htail (Nat.lt_succ_self _) ?_ {}).bind htail fun part s' tail' _ htail' => ?_)
    · rw [List.length_append]
      omega
    · exact (reads_peek.bind fun d => .ite (reads_bumpSkip.bind fun _ => reads_peek.bind fun _ => .pure _) (.pure _)) s' tail' htail'
  exact .ite (reads_bumpSkip.bind fun _ => hmembers) hmembers

/-- How a class goes on at an opening bracket: with a class that has a name, or with one that begins there. -/
def readInnerSet (fuel : Nat) (negated : Bool) (pending : Pending) (part : SetPart) :
    Option (Option CharClass × List Char) → Reader (CharClass × Nat)
  | some (k, after) => goto after >>= fun _ => liftM k >>= fun k => readSetItems fuel negated pending (part.add k)
  | none => readSetStart >>= fun p => readSetItems fuel p.1 none p.2 >>= fun q => readSetItems fuel negated pending (part.add q.1 q.2)

theorem reads_readSetItems (hfuel : fuel ≤ fuel') (negated : Bool) (pending : Pending) (part : SetPart) :
    Reads (readSetItems fuel negated pending part) (readSetItems fuel' negated pending part) := by
  induction fuel generalizing fuel' negated pending part with
  | zero => exact .failure
  | succ fuel ih =>
    obtain ⟨fuel', rfl⟩ := Nat.exists_eq_add_of_lt hfuel
    have hnext : ∀ negated pending part, Reads (readSetItems fuel negated pending part)
      (readSetItems (fuel + fuel') negated pending part) := fun negated pending part => ih (Nat.le_add_right _ _) negated pending part
    rw [readSetItems, readSetItems]
    refine reads_skip.bind fun _ => reads_flags.bind fun f => fun s tail htail => .rest_bind ?_
    obtain ⟨l, f', count, names⟩ := s
    dsimp only
    split
    · exact Reads.failure _ _ htail
    · rename_i r
      show ReadsOn (readInnerSet fuel negated pending part (namedSet? f ('[' :: r)))
        (readInnerSet (fuel + fuel') negated pending part (namedSet? f ('[' :: r ++ tail))) _ tail
      rw [namedSet?_append htail]
      cases hnamed : namedSet? f ('[' :: r) with
      | some p =>
        exact .goto_bind (namedSet?_suffix hnamed) (Reads.bind (.lift p.1) (fun k => hnext _ _ _) _ _ htail)
      | none => exact Reads.bind reads_readSetStart (fun p => .bind (hnext _ _ _) fun q => hnext _ _ _) _ _ htail
    · exact .goto_bind (List.suffix_cons _ _) (Reads.bind (.lift _) (fun k => .pure _) _ _ htail)
    · exact .goto_bind ((List.suffix_cons _ _).trans (List.suffix_cons _ _)) (hnext _ _ _ _ _ htail)
    · exact .goto_bind ((List.suffix_cons _ _).trans (List.suffix_cons _ _)) (hnext _ _ _ _ _ htail)
    · exact .goto_bind ((List.suffix_cons _ _).trans (List.suffix_cons _ _)) (hnext _ _ _ _ _ htail)
    · rename_i hnil hopen hclose hand hminus htilde
      -- what comes after the pattern does not make an operator of its last character
      split <;> rename_i heq
      · exact absurd (List.append_eq_nil_iff.1 heq).1 hnil
      · exact absurd heq (htail.append_ne (by decide) hopen _)
      · exact absurd heq (htail.append_ne (by decide) hclose _)
      · exact absurd heq (htail.append_ne_pair (by decide) (by decide) hand _)
      · exact absurd heq (htail.append_ne_pair (by decide) (by decide) hminus _)
      · exact absurd heq (htail.append_ne_pair (by decide) (by decide) htilde _)
      · exact Reads.bind reads_readSetRange (fun k => hnext _ _ _) _ _ htail

/-! ## Groups -/

theorem reads_readFlags (hfuel : fuel ≤ fuel') (seen : List Char) (f : Flags) :
    Reads (readFlags fuel seen f) (readFlags fuel' seen f) := by
  induction fuel generalizing fuel' seen f with
  | zero => exact .failure
  | succ fuel ih =>
    obtain ⟨fuel', rfl⟩ := Nat.exists_eq_add_of_lt hfuel
    have hnext : ∀ seen f, Reads (bump >>= fun _ => readFlags fuel seen f) (bump >>= fun _ => readFlags (fuel + fuel') seen f) :=
      fun seen f => reads_bump.bind fun _ => ih (Nat.le_add_right _ _) seen f
    rw [readFlags, readFlags]
    refine reads_peek.bind fun c => .ite (.ite .failure (.pure _)) (.ite .failure (.ite ?_ ?_))
    · exact .bind (.pure f) fun f => hnext _ f
    · exact .bind (.lift _) fun f => hnext _ f

theorem reads_readGroupName (hfuel : fuel ≤ fuel') (name : List Char) : Reads (readGroupName fuel name) (readGroupName fuel' name) := by
  induction fuel generalizing fuel' name with
  | zero => exact .failure
  | succ fuel ih =>
    obtain ⟨fuel', rfl⟩ := Nat.exists_eq_add_of_lt hfuel
    have hnext : ∀ name, Reads (readGroupName fuel name) (readGroupName (fuel + fuel') name) := ih (Nat.le_add_right _ _)
    rw [readGroupName, readGroupName]
    exact reads_bump.bind fun c => .ite (.ite .failure (.pure _)) (.ite (hnext _) (.ite (hnext _) .failure))

theorem reads_named (f : Flags) : Reads (readOpening.named f) (readOpening.named f) := by
  refine reads_nextGroup.bind fun index s tail htail => .rest_bound htail (fun hfuel => reads_readGroupName hfuel []) fun name => ?_
  -- the names given so far do not depend on what is left to be read
  refine .of_run fun s tail opening s' _ hrun => ?_
  have hname : ∀ s : Cursor, (get >>= fun s : Cursor =>
      if s.names.contains name = true then (failure >>= fun _ : Unit => modify (fun s : Cursor => { s with names := name :: s.names }) >>=
        fun _ => Pure.pure (Opening.group (some (index, some name)) f))
      else modify (fun s : Cursor => { s with names := name :: s.names }) >>= fun _ =>
        Pure.pure (Opening.group (some (index, some name)) f) : Reader Opening).run s =
      if s.names.contains name = true then none else some (.group (some (index, some name)) f, { s with names := name :: s.names }) := by
    intro s
    rw [run_bind]
    show (if s.names.contains name = true then _ else _ : Reader Opening).run s = _
    split <;> rfl
  have hrun := (hname s).symm.trans hrun
  split at hrun
  · cases hrun
  · rename_i hnew
    obtain ⟨rfl, rfl⟩ := Prod.mk.inj (Option.some.inj hrun)
    exact ⟨List.suffix_refl _, (hname _).trans (if_neg hnew)⟩

theorem reads_readOpening : Reads readOpening readOpening := by
  refine reads_bumpSkip.bind fun _ => reads_flags.bind fun f => fun s tail htail => .rest_bind ?_
  obtain ⟨l, f', count, names⟩ := s
  dsimp only
  split
  · exact Reads.failure _ _ htail
  · exact Reads.failure _ _ htail
  · exact Reads.failure _ _ htail
  · exact Reads.failure _ _ htail
  · have hsuffix : ∀ r : List Char, r <:+ '?' :: 'P' :: '<' :: r := fun r => ⟨['?', 'P', '<'], rfl⟩
    exact .goto_bind (hsuffix _) (reads_named f _ _ htail)
  · rename_i r hbehind hnotBehind
    have hsuffix : r <:+ '?' :: '<' :: r := ⟨['?', '<'], rfl⟩
    rw [List.cons_append, List.cons_append]
    split <;> rename_i heq
    · exact absurd (List.cons.inj (List.cons.inj heq).2).1 (by decide)
    · exact absurd (List.cons.inj (List.cons.inj heq).2).1 (by decide)
    · exact absurd (List.cons.inj (List.cons.inj heq).2).2 (htail.append_ne (by decide) hbehind _)
    · exact absurd (List.cons.inj (List.cons.inj heq).2).2 (htail.append_ne (by decide) hnotBehind _)
    · exact absurd (List.cons.inj (List.cons.inj heq).2).1 (by decide)
    · obtain rfl : r ++ tail = _ := (List.cons.inj (List.cons.inj heq).2).2
      exact .goto_bind hsuffix (reads_named f _ _ htail)
    · rename_i hname
      exact absurd (List.cons.inj heq).2.symm (hname _)
    · exact absurd rfl (heq _)
  · rename_i r hahead hnotAhead _ _ hnamed hname
    rw [List.cons_append]
    split <;> rename_i heq
    · exact absurd (List.cons.inj heq).2 (htail.append_ne (by decide) hahead _)
    · exact absurd (List.cons.inj heq).2 (htail.append_ne (by decide) hnotAhead _)
    · exact absurd (List.cons.inj heq).2 (htail.append_ne (by decide) hname _)
    · exact absurd (List.cons.inj heq).2 (htail.append_ne (by decide) hname _)
    · exact absurd (List.cons.inj heq).2 (htail.append_ne_pair (by decide) (by decide) hnamed _)
    · exact absurd (List.cons.inj heq).2 (htail.append_ne (by decide) hname _)
    · obtain rfl : r ++ tail = _ := (List.cons.inj heq).2
      refine .goto_bind (List.suffix_cons _ r) ((reads_readFlags ?_ [] f).bind (fun p => reads_bump.bind fun c => ?_) _ _ htail)
      · rw [List.length_append]
        omega
      · exact .ite (.ite .failure (.pure _)) (.pure _)
    · exact absurd rfl (heq _)
  · rename_i hplain
    split
    case h_8 => exact Reads.bind reads_nextGroup (fun _ => .pure _) _ _ htail
    all_goals
      rename_i heq
      exact absurd heq (htail.append_ne (by decide) hplain _)

/-! ## Repetitions -/

/-- A reader that stays where it is. -/
theorem ReadsOn.of_stay {α : Type} {m m' : Reader α} {a : α} (h : m.run s = some (a, s))
    (h' : m'.run (s.before tail) = some (a, s.before tail)) : ReadsOn m m' s tail := by
  intro b s' hrun
  obtain ⟨rfl, rfl⟩ := Prod.mk.inj (Option.some.inj (h.symm.trans hrun))
  exact ⟨List.suffix_refl _, tail, .inl rfl, h'⟩

theorem run_readCountDigits_tail (htail : IsTail tail) (fuel : Nat) (digits : List Char) (f : Flags) (count : Nat) (names : List String) :
    (readCountDigits fuel digits).run ⟨tail, f, count, names⟩ = some (digits.reverse, ⟨tail, f, count, names⟩) := by
  cases fuel <;> cases htail <;> rfl

theorem run_skipBlanks_tail (htail : IsTail tail) (fuel : Nat) (f : Flags) (count : Nat) (names : List String) :
    (skipBlanks fuel).run ⟨tail, f, count, names⟩ = some ((), ⟨tail, f, count, names⟩) := by
  cases fuel <;> cases htail <;> rfl

theorem readsOn_readCountDigits (htail : IsTail tail) (hrest : s.rest.length ≤ fuel) (hfuel : fuel ≤ fuel') (digits : List Char) :
    ReadsOn (readCountDigits fuel digits) (readCountDigits fuel' digits) s tail := by
  induction fuel generalizing fuel' digits s tail with
  | zero =>
    obtain ⟨l, f, count, names⟩ := s
    obtain rfl := List.eq_nil_of_length_eq_zero (Nat.le_zero.1 hrest)
    exact .of_stay (run_readCountDigits_tail .none _ _ _ _ _) (run_readCountDigits_tail htail _ _ _ _ _)
  | succ fuel ih =>
    obtain ⟨fuel', rfl⟩ := Nat.exists_eq_add_of_lt hfuel
    obtain ⟨l, f, count, names⟩ := s
    cases l with
    | nil => exact .of_stay (run_readCountDigits_tail .none _ _ _ _ _) (run_readCountDigits_tail htail _ _ _ _ _)
    | cons c r =>
      rw [readCountDigits, readCountDigits]
      refine .rest_bind (.ite Iff.rfl ?_ (Reads.pure _ _ _ htail))
      refine (reads_bumpSkip _ tail htail).bind htail fun _ s' tail' hbump htail' => ih htail' ?_ (Nat.le_add_right _ _) _
      exact Nat.le_of_lt_succ (Nat.lt_of_lt_of_le (length_lt_of_bumpSkip hbump) hrest)

theorem readsOn_skipBlanks (htail : IsTail tail) (hrest : s.rest.length ≤ fuel) (hfuel : fuel ≤ fuel') :
    ReadsOn (skipBlanks fuel) (skipBlanks fuel') s tail := by
  induction fuel generalizing fuel' s tail with
  | zero =>
    obtain ⟨l, f, count, names⟩ := s
    obtain rfl := List.eq_nil_of_length_eq_zero (Nat.le_zero.1 hrest)
    exact .of_stay (run_skipBlanks_tail .none _ _ _ _) (run_skipBlanks_tail htail _ _ _ _)
  | succ fuel ih =>
    obtain ⟨fuel', rfl⟩ := Nat.exists_eq_add_of_lt hfuel
    obtain ⟨l, f, count, names⟩ := s
    cases l with
    | nil => exact .of_stay (run_skipBlanks_tail .none _ _ _ _) (run_skipBlanks_tail htail _ _ _ _)
    | cons c r =>
      rw [skipBlanks, skipBlanks]
      refine .rest_bind (.ite Iff.rfl ?_ (Reads.pure _ _ _ htail))
      refine (reads_bumpSkip _ tail htail).bind htail fun _ s' tail' hbump htail' => ih htail' ?_ (Nat.le_add_right _ _)
      exact Nat.le_of_lt_succ (Nat.lt_of_lt_of_le (length_lt_of_bumpSkip hbump) hrest)

theorem reads_readCount : Reads readCount readCount := by
  intro s tail htail
  have hlength : s.rest.length ≤ (s.rest ++ tail).length := by
    rw [List.length_append]
    omega
  refine .rest_bind ?_
  rw [dropWhile_isBlank_append htail]
  refine .goto_bind (List.dropWhile_suffix _) ?_
  have hdigits := readsOn_readCountDigits (s := { s with rest := s.rest.dropWhile isBlank }) htail
    (List.dropWhile_suffix isBlank).length_le hlength []
  refine hdigits.bind htail fun digits s' tail' hrun htail' => ?_
  have hrest := (hdigits digits s' hrun).1.trans (List.dropWhile_suffix isBlank)
  refine (readsOn_skipBlanks htail' hrest.length_le hlength).bind htail' fun _ s'' tail'' _ htail'' => ?_
  exact (Reads.unless (.ite (.pure _) .failure) : Reads _ _) s'' tail'' htail''

theorem reads_readCounts : Reads readCounts readCounts := by
  refine reads_bumpSkip.bind fun _ => reads_peek.bind fun _ => reads_readCount.bind fun least => reads_peek.bind fun c => .ite ?_ ?_
  · refine reads_bumpSkip.bind fun _ => reads_peek.bind fun d => .ite ?_ ?_
    · exact .bind (.pure _) fun most => reads_peek.bind fun _ => .unless (.unless (.pure _))
    · exact (reads_readCount.map _).bind fun most => reads_peek.bind fun _ => .unless (.unless (.pure _))
  · exact .bind (.pure _) fun most => reads_peek.bind fun _ => .unless (.unless (.pure _))

theorem reads_readGreed : Reads readGreed readGreed := reads_bumpIf.bind fun _ => reads_flags.bind fun _ => .pure _

/-! ## Branches -/

theorem reads_readSimple : Reads readSimple readSimple := by
  refine reads_flags.bind fun f => reads_peek.bind fun c => ?_
  split
  · refine reads_readEscape.bind fun e => ?_
    cases e with
    | char c byte => exact .bind (.lift _) fun _ => .pure _
    | chars k => exact .pure _
    | look l => exact .pure _
  · exact reads_bump.bind fun _ => .bind (.lift _) fun _ => .pure _
  · exact reads_bump.bind fun _ => .pure _
  · exact reads_bump.bind fun _ => .pure _
  · exact reads_bump.bind fun _ => .bind (.lift _) fun _ => .pure _

/-- The branches of a pattern are the same before a tail. -/
theorem reads_readBranches (hfuel : fuel ≤ fuel') (done items : List Part) :
    Reads (readBranches fuel done items) (readBranches fuel' done items) := by
  induction fuel generalizing fuel' done items with
  | zero => exact .failure
  | succ fuel ih =>
    obtain ⟨fuel', rfl⟩ := Nat.exists_eq_add_of_lt hfuel
    have hnext : ∀ done items, Reads (readBranches fuel done items) (readBranches (fuel + fuel') done items) :=
      ih (Nat.le_add_right _ _)
    have hrepeat : ∀ least most, Reads
        (readGreed >>= fun greedy => liftM (repeatLast items least most greedy) >>= fun items => readBranches fuel done items)
        (readGreed >>= fun greedy => liftM (repeatLast items least most greedy) >>= fun items => readBranches (fuel + fuel') done items) :=
      fun least most => reads_readGreed.bind fun greedy => .bind (.lift _) fun items => hnext done items
    rw [readBranches, readBranches]
    refine reads_skip.bind fun _ => fun s tail htail => .rest_bind ?_
    obtain ⟨l, f', count, names⟩ := s
    dsimp only
    split
    · cases htail with
      | none => exact Reads.pure _ _ _ .none
      | closing => exact Reads.pure _ _ _ .closing
    · exact Reads.pure _ _ _ htail
    · exact .goto_bind (List.suffix_cons _ _) (hnext _ _ _ _ htail)
    · refine Reads.bind reads_flags (fun outer => reads_readOpening.bind fun opening => ?_) _ _ htail
      cases opening with
      | flags f => exact (reads_setFlags f).bind fun _ => hnext _ _
      | group index f =>
        exact (reads_setFlags f).bind fun _ => (hnext _ _).bind fun body => reads_bump.bind fun _ =>
          .unless ((reads_setFlags outer).bind fun _ => hnext _ _)
    · rename_i r
      have hlength : r.length + 1 ≤ (r ++ tail).length + 1 := by
        rw [List.length_append]
        omega
      exact Reads.bind reads_readSetStart (fun p => (reads_readSetItems hlength _ _ _).bind fun q => hnext _ _) _ _ htail
    · exact .goto_bind (List.suffix_cons _ _) (hrepeat _ _ _ _ htail)
    · exact .goto_bind (List.suffix_cons _ _) (hrepeat _ _ _ _ htail)
    · exact .goto_bind (List.suffix_cons _ _) (hrepeat _ _ _ _ htail)
    · exact Reads.bind reads_readCounts (fun p => reads_bumpSkip.bind fun _ => hrepeat _ _) _ _ htail
    · rename_i hnil hclose hbranch hopen hset hmaybe hmany hsome hcount
      obtain ⟨c, r, rfl⟩ := List.exists_cons_of_ne_nil hnil
      rw [List.cons_append]
      split <;> rename_i heq
      · cases heq
      · exact absurd (congrArg (· :: r) (List.cons.inj heq).1) (hclose r)
      · exact absurd (congrArg (· :: r) (List.cons.inj heq).1) (hbranch r)
      · exact absurd (congrArg (· :: r) (List.cons.inj heq).1) (hopen r)
      · exact absurd (congrArg (· :: r) (List.cons.inj heq).1) (hset r)
      · exact absurd (congrArg (· :: r) (List.cons.inj heq).1) (hmaybe r)
      · exact absurd (congrArg (· :: r) (List.cons.inj heq).1) (hmany r)
      · exact absurd (congrArg (· :: r) (List.cons.inj heq).1) (hsome r)
      · exact absurd (congrArg (· :: r) (List.cons.inj heq).1) (hcount r)
      · exact Reads.bind reads_readSimple (fun node => hnext _ _) _ _ htail

end CellExpr.Pattern
