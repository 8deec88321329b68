import CellExpr.Text.Editing

/-!
# Lower case

A text in lower case stays as it is when it is put into lower case again (`lower_lower`). The characters that come in are letters: none
of them is blank, a control character or a mark of punctuation of ASCII (`mem_lower`). Both are read off the tables, run
by run.
-/

namespace CellExpr.Text

variable {s : List Char} {c d : Char} {r q : Run} {t : Runs} {n m : Nat}

/-! ## Runs -/

theorem Run.image?_eq_some_iff : r.image? n = some m ↔
    r.first ≤ n ∧ n ≤ r.last ∧ (n - r.first) % r.step = 0 ∧ m = r.target + (n - r.first) := by
  unfold Run.image?
  split
  · rename_i h
    simp only [Bool.and_eq_true, decide_eq_true_eq, beq_iff_eq] at h
    rw [Option.some.injEq]
    exact ⟨fun hm => ⟨h.1.1, h.1.2, h.2, hm.symm⟩, fun hm => hm.2.2.2.symm⟩
  · rename_i h
    simp only [Bool.and_eq_true, decide_eq_true_eq, beq_iff_eq] at h
    exact iff_of_false nofun fun hm => h ⟨⟨hm.1, hm.2.1⟩, hm.2.2.1⟩

/-- The images under a run and another run lie apart, or they are every second character and do not meet. -/
def Run.misses (r q : Run) : Bool :=
  -- there are many pairs of runs, and this is quicker to evaluate than the order as a proposition
  Nat.blt (r.target + (r.last - r.first)) q.first || Nat.blt q.last r.target ||
    (Nat.beq q.step 2 && (Nat.beq r.step 2 || Nat.beq r.first r.last) && r.target % 2 != q.first % 2)

theorem Run.misses_iff : r.misses q = true ↔ r.target + (r.last - r.first) < q.first ∨ q.last < r.target ∨
    q.step = 2 ∧ (r.step = 2 ∨ r.first = r.last) ∧ r.target % 2 ≠ q.first % 2 := by
  simp [misses, Nat.blt_eq, Nat.beq_eq, or_assoc, and_assoc]

/-- The images under a run lie apart from an interval. -/
def Run.Avoids (r : Run) (interval : Nat × Nat) : Prop := r.target + (r.last - r.first) < interval.1 ∨ interval.2 < r.target

instance (r : Run) (interval : Nat × Nat) : Decidable (r.Avoids interval) := inferInstanceAs (Decidable (_ ∨ _))

theorem image?_eq_none_of_misses (h : r.misses q = true) (hm : r.image? n = some m) : q.image? m = none := by
  obtain ⟨hfirst, hlast, hstep, rfl⟩ := Run.image?_eq_some_iff.1 hm
  refine Option.eq_none_iff_forall_ne_some.2 fun k hk => ?_
  obtain ⟨hfirst', hlast', hstep', -⟩ := Run.image?_eq_some_iff.1 hk
  rcases Run.misses_iff.1 h with h | h | ⟨h, h' | h', hparity⟩
  · omega
  · omega
  · rw [h'] at hstep
    rw [h] at hstep'
    omega
  · rw [h] at hstep'
    omega

theorem Run.Avoids.not_mem {interval : Nat × Nat} (h : r.Avoids interval) (hm : r.image? n = some m) :
    ¬(interval.1 ≤ m ∧ m ≤ interval.2) := by
  obtain ⟨hfirst, hlast, -, rfl⟩ := Run.image?_eq_some_iff.1 hm
  unfold Run.Avoids at h
  omega

theorem exists_image?_of_image? (h : t.image? n = some m) : ∃ r ∈ t, r.image? n = some m := by
  obtain ⟨r, hr, hm⟩ := List.exists_of_findSome?_eq_some h
  exact ⟨r, hr, hm⟩

/-- No image under runs has an image itself, if they miss each other. -/
theorem image?_image?_eq_none (h : (t.all fun r => t.all r.misses) = true) (hm : t.image? n = some m) : t.image? m = none := by
  obtain ⟨r, hr, hm⟩ := exists_image?_of_image? hm
  have hmisses := List.all_eq_true.1 (List.all_eq_true.1 h r hr)
  exact List.findSome?_eq_none_iff.2 fun q hq => image?_eq_none_of_misses (hmisses q hq) hm

theorem has_eq_false_of_image? {table : Intervals} (h : ∀ r ∈ t, ∀ interval ∈ table, r.Avoids interval)
    (hm : t.image? n = some m) : table.has m = false := by
  obtain ⟨r, hr, hm⟩ := exists_image?_of_image? hm
  refine List.any_eq_false.2 fun interval hinterval => ?_
  simp only [Bool.and_eq_true, decide_eq_true_eq]
  exact (h r hr interval hinterval).not_mem hm

theorem image?_lt {bound : Nat} (h : ∀ r ∈ t, r.target + (r.last - r.first) < bound) (hm : t.image? n = some m) : m < bound := by
  obtain ⟨r, hr, hm⟩ := exists_image?_of_image? hm
  obtain ⟨hfirst, hlast, -, rfl⟩ := Run.image?_eq_some_iff.1 hm
  have := h r hr
  omega

/-! ## The tables -/

theorem lowerRuns_miss : (lowerRuns.all fun r => lowerRuns.all r.misses) = true := by
  decide +kernel

theorem lowerRuns_lt : ∀ r ∈ lowerRuns, r.target + (r.last - r.first) < 0x110000 := by
  decide +kernel

/-- The surrogates, the capital letters that have no lower case on a run, blank characters, control characters and marks of
punctuation. -/
def notInLowerCase : Intervals :=
  (0xD800, 0xDFFF) :: (0x130, 0x130) :: (0x3A3, 0x3A3) :: (0, 47) :: (58, 64) :: (91, 96) :: (123, 159) ::
    blankTable

theorem lowerRuns_avoid : ∀ r ∈ lowerRuns, ∀ interval ∈ notInLowerCase, r.Avoids interval := by
  decide +kernel

/-! ## Characters -/

/-- A character that is its own lower case wherever it stands. -/
def IsLowerCase (c : Char) : Prop := lowerChar c = [c] ∧ c ≠ 'Σ'

instance (c : Char) : Decidable (IsLowerCase c) := inferInstanceAs (Decidable (_ ∧ _))

/-- A character that is neither blank nor a control character nor a mark of punctuation of ASCII. -/
def IsClear (c : Char) : Prop := isBlank c = false ∧ isControl c = false ∧ isAsciiPunctuation c = false

instance (c : Char) : Decidable (IsClear c) := inferInstanceAs (Decidable (_ ∧ _ ∧ _))

theorem lowerChar_of_image? (hc : c.toNat ≠ 0x130) (h : lowerRuns.image? c.toNat = some m) : lowerChar c = [Char.ofNat m] := by
  have hlookup : lowerExpansions.lookup c.toNat = none := by
    rw [lowerExpansions, List.lookup_cons, beq_eq_false_iff_ne.2 hc]
    rfl
  rw [lowerChar, mapCase, hlookup, h]

theorem lowerChar_of_no_image (hc : c.toNat ≠ 0x130) (h : lowerRuns.image? c.toNat = none) : lowerChar c = [c] := by
  have hlookup : lowerExpansions.lookup c.toNat = none := by
    rw [lowerExpansions, List.lookup_cons, beq_eq_false_iff_ne.2 hc]
    rfl
  rw [lowerChar, mapCase, hlookup, h]

theorem toNat_ofNat (h : n.isValidChar) : (Char.ofNat n).toNat = n := by
  rw [Char.ofNat, dif_pos h]
  rfl

/-- The image of a capital letter is a letter in lower case. -/
theorem isLowerCase_of_image? (h : lowerRuns.image? n = some m) : IsLowerCase (Char.ofNat m) ∧ IsClear (Char.ofNat m) := by
  have hfree := has_eq_false_of_image? lowerRuns_avoid h
  simp only [Intervals.has, notInLowerCase, List.any_cons, Bool.or_eq_false_iff, Bool.and_eq_false_iff, decide_eq_false_iff_not] at hfree
  obtain ⟨hsurrogate, hexpands, hsigma, hlow, hmiddle, hhigh, hlast, hblank⟩ := hfree
  have hm : (Char.ofNat m).toNat = m := by
    refine toNat_ofNat ?_
    have hbound := image?_lt lowerRuns_lt h
    unfold Nat.isValidChar
    omega
  refine ⟨⟨lowerChar_of_no_image ?_ ?_, ?_⟩, ?_, ?_, ?_⟩
  · rw [hm]
    omega
  · rw [hm]
    exact image?_image?_eq_none lowerRuns_miss h
  · intro hc
    rw [hc] at hm
    replace hm : 0x3A3 = m := hm
    omega
  · rw [isBlank, hm]
    exact hblank
  · rw [isControl, hm]
    simp only [Bool.or_eq_false_iff, Bool.and_eq_false_iff, decide_eq_false_iff_not]
    omega
  · rw [isAsciiPunctuation, hm]
    simp only [Bool.or_eq_false_iff, Bool.and_eq_false_iff, decide_eq_false_iff_not]
    omega

theorem isLowerCase_of_mem_lowerChar (hc : c ≠ 'Σ') (hd : d ∈ lowerChar c) : IsLowerCase d ∧ (d = c ∨ IsClear d) := by
  by_cases hexpands : c.toNat = 0x130
  · obtain rfl : c = 'İ' := by rw [← Char.ofNat_toNat c, hexpands]
    have hlower : lowerChar 'İ' = ['i', '\u0307'] := by decide +kernel
    rw [hlower, List.mem_cons, List.mem_singleton] at hd
    rcases hd with rfl | rfl
    · exact ⟨by decide +kernel, .inr (by decide +kernel)⟩
    · exact ⟨by decide +kernel, .inr (by decide +kernel)⟩
  · cases himage : lowerRuns.image? c.toNat with
    | none =>
      have hself := lowerChar_of_no_image hexpands himage
      rw [hself, List.mem_singleton] at hd
      subst hd
      exact ⟨⟨hself, hc⟩, .inl rfl⟩
    | some m =>
      rw [lowerChar_of_image? hexpands himage, List.mem_singleton] at hd
      subst hd
      exact (isLowerCase_of_image? himage).imp_right Or.inr

/-! ## Texts -/

theorem mem_lowerAfter {before : List Char} (hd : d ∈ lowerAfter before s) : IsLowerCase d ∧ (d ∈ s ∨ IsClear d) := by
  induction s generalizing before with
  | nil => cases hd
  | cons c s ih =>
    rw [lowerAfter, List.mem_append] at hd
    rcases hd with hd | hd
    · by_cases hc : c = 'Σ'
      · rw [if_pos hc, List.mem_singleton] at hd
        have hsigma : IsLowerCase 'ς' ∧ IsClear 'ς' ∧ IsLowerCase 'σ' ∧ IsClear 'σ' := by decide
        split at hd
        · exact ⟨hd ▸ hsigma.1, .inr (hd ▸ hsigma.2.1)⟩
        · exact ⟨hd ▸ hsigma.2.2.1, .inr (hd ▸ hsigma.2.2.2)⟩
      · rw [if_neg hc] at hd
        obtain ⟨hlower, rfl | hclear⟩ := isLowerCase_of_mem_lowerChar hc hd
        · exact ⟨hlower, .inl (.head _)⟩
        · exact ⟨hlower, .inr hclear⟩
    · exact (ih hd).imp_right (Or.imp_left (List.Mem.tail c))

/-- The characters of a text in lower case are in lower case, and those that are not in the text itself are letters. -/
theorem mem_lower (hd : d ∈ lower s) : IsLowerCase d ∧ (d ∈ s ∨ IsClear d) := mem_lowerAfter hd

theorem lowerAfter_eq_self {before : List Char} (h : ∀ c ∈ s, IsLowerCase c) : lowerAfter before s = s := by
  induction s generalizing before with
  | nil => rfl
  | cons c s ih =>
    obtain ⟨⟨hself, hsigma⟩, hrest⟩ := List.forall_mem_cons.1 h
    rw [lowerAfter, if_neg hsigma, hself, ih hrest]
    rfl

theorem lower_eq_self (h : ∀ c ∈ s, IsLowerCase c) : lower s = s := lowerAfter_eq_self h

/-- A text in lower case stays as it is. -/
theorem lower_lower (s : List Char) : lower (lower s) = lower s := lower_eq_self fun _ hd => (mem_lower hd).1

end CellExpr.Text
