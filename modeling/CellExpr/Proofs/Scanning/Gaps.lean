import CellExpr.Syntax.TokenStream

/-!
# Gaps between tokens

What the reader of tokens passes over is a gap: blank characters and comments (`gapBefore_take`). It passes over a gap as far as it
goes, whatever the gap is made of (`gapLength_append`). More blank characters and comments may be put before a gap or after it,
if each comment among them ends with its line (`GapBefore.prepend`, `GapBefore.append`).
-/

namespace CellExpr

open CellExpr.Text CellExpr.TokenCursor

/-- Blank characters and comments, with what comes next in the text. A comment goes on to the end of the line or of the text. -/
inductive GapBefore (next : List Char) : List Char → Prop where
  | nil : GapBefore next []
  | blank (c : Char) {gap : List Char} (hc : isBlank c = true) (h : GapBefore next gap) : GapBefore next (c :: gap)
  | comment (body : List Char) {gap : List Char} (hbody : '\n' ∉ body) (hend : ∀ c ∈ (gap ++ next).head?, c = '\n')
      (h : GapBefore next gap) : GapBefore next ('#' :: (body ++ gap))

/-- Blank characters and comments, each comment with the end of its line. -/
inductive IsFiller : List Char → Prop where
  | nil : IsFiller []
  | blank (c : Char) {filler : List Char} (hc : isBlank c = true) (h : IsFiller filler) : IsFiller (c :: filler)
  | comment (body : List Char) {filler : List Char} (hbody : '\n' ∉ body) (h : IsFiller filler) :
      IsFiller ('#' :: (body ++ '\n' :: filler))

/-- A character that a gap may begin with. -/
def BeginsGap (c : Char) : Prop := isBlank c = true ∨ c = '#'

instance (c : Char) : Decidable (BeginsGap c) := inferInstanceAs (Decidable (_ ∨ _))

variable {next gap filler s rest body : List Char} {c d : Char}

theorem BeginsGap.ne (hd : BeginsGap d) (hc : ¬BeginsGap c) : d ≠ c := fun h => hc (h ▸ hd)

/-! ## The length of a gap -/

/-- A comment is passed over up to the end of its line, which is blank. -/
theorem gapLength_comment (hbody : '\n' ∉ body) (hend : ∀ c ∈ s.head?, c = '\n') :
    gapLength true (body ++ s) = body.length + gapLength false s := by
  induction body with
  | nil =>
    cases s with
    | nil => rfl
    | cons c s =>
      obtain rfl := hend c rfl
      rw [List.nil_append, List.length_nil, Nat.zero_add, gapLength, gapLength, if_pos (by decide)]
      rfl
  | cons c body ih =>
    have hc : (c != '\n') = true := bne_iff_ne.2 fun h => hbody (h ▸ List.mem_cons_self)
    rw [List.cons_append, gapLength, hc, ih fun h => hbody (List.mem_cons_of_mem _ h), List.length_cons]
    omega

/-- A gap is passed over as a whole, and nothing after it. -/
theorem gapLength_append (h : GapBefore next gap) (hnext : ∀ c ∈ next.head?, ¬BeginsGap c) :
    gapLength false (gap ++ next) = gap.length := by
  induction h with
  | nil =>
    cases next with
    | nil => rfl
    | cons c next =>
      obtain ⟨hblank, hcomment⟩ := not_or.1 (hnext c rfl)
      rw [List.nil_append, gapLength, if_neg hblank, if_neg hcomment]
      rfl
  | blank c hc _ ih =>
    rw [List.cons_append, gapLength, if_pos hc, ih]
    rfl
  | comment body hbody hend _ ih =>
    rw [List.cons_append, List.append_assoc, gapLength, if_neg (by decide), if_pos rfl, gapLength_comment hbody hend, ih,
      List.length_cons, List.length_append]

/-- What is passed over is a gap, or within a comment the rest of it and a gap. -/
theorem gapBefore_take_both (s : List Char) :
    GapBefore (s.drop (gapLength false s)) (s.take (gapLength false s)) ∧
      ∃ body gap, s.take (gapLength true s) = body ++ gap ∧ '\n' ∉ body ∧
        (∀ c ∈ (gap ++ s.drop (gapLength true s)).head?, c = '\n') ∧ GapBefore (s.drop (gapLength true s)) gap := by
  induction s with
  | nil => exact ⟨.nil, [], [], rfl, List.not_mem_nil, nofun, .nil⟩
  | cons c s ih =>
    obtain ⟨hgap, body, gap, htake, hbody, hend, hrest⟩ := ih
    constructor
    · rw [gapLength]
      split
      · rename_i hc
        exact .blank c hc hgap
      · split
        · rename_i hc
          subst hc
          rw [List.take_succ_cons, List.drop_succ_cons, htake]
          exact .comment body hbody hend hrest
        · exact .nil
    · by_cases hc : c = '\n'
      · subst hc
        exact ⟨[], _, rfl, List.not_mem_nil, fun _ hc => (Option.some.inj hc).symm, .blank '\n' (by decide) hgap⟩
      · have hstays : gapLength true (c :: s) = gapLength true s + 1 := by rw [gapLength, bne_iff_ne.2 hc]
        rw [hstays, List.take_succ_cons, List.drop_succ_cons, htake]
        refine ⟨c :: body, gap, rfl, fun h => ?_, hend, hrest⟩
        rcases List.mem_cons.1 h with h | h
        · exact hc h.symm
        · exact hbody h

theorem gapBefore_take (s : List Char) : GapBefore (s.drop (gapLength false s)) (s.take (gapLength false s)) :=
  (gapBefore_take_both s).1

/-- After a gap comes a character that no gap begins with, or the end of the text. -/
theorem not_beginsGap_of_drop (inComment : Bool) (h : s.drop (gapLength inComment s) = c :: rest) : ¬BeginsGap c := by
  induction s generalizing inComment with
  | nil => cases h
  | cons d s ih =>
    cases inComment with
    | true => exact ih _ h
    | false =>
      rw [gapLength] at h
      split at h
      · exact ih _ h
      · split at h
        · exact ih _ h
        · obtain ⟨rfl, _⟩ := List.cons.inj h
          exact not_or.2 ⟨‹_›, ‹_›⟩

/-- A text begins with a gap, after which no other begins. -/
theorem exists_gap (s : List Char) : ∃ gap ahead, s = gap ++ ahead ∧ GapBefore ahead gap ∧ ∀ c ∈ ahead.head?, ¬BeginsGap c := by
  refine ⟨_, _, (List.take_append_drop (gapLength false s) s).symm, gapBefore_take s, fun c hc => ?_⟩
  cases hdrop : s.drop (gapLength false s) with
  | nil =>
    rw [hdrop] at hc
    cases hc
  | cons d rest =>
    rw [hdrop] at hc
    obtain rfl : d = c := Option.some.inj hc
    exact not_beginsGap_of_drop false hdrop

/-- What a gap is depends on the next character alone. -/
theorem GapBefore.of_head {next' : List Char} (h : GapBefore next gap) (hhead : next'.head? = next.head?) :
    GapBefore next' gap := by
  induction h with
  | nil => exact .nil
  | blank c hc _ ih => exact .blank c hc ih
  | comment body hbody hend _ ih =>
    rw [List.head?_append, ← hhead, ← List.head?_append] at hend
    exact .comment body hbody hend ih

/-- Blank characters are a gap. -/
theorem gapBefore_of_blank (h : ∀ c ∈ gap, isBlank c = true) : GapBefore next gap := by
  induction gap with
  | nil => exact .nil
  | cons c gap ih => exact .blank c (h c List.mem_cons_self) (ih fun d hd => h d (List.mem_cons_of_mem _ hd))

/-! ## More filling -/

theorem IsFiller.beginsGap (h : IsFiller (c :: filler)) : BeginsGap c := by
  cases h with
  | blank _ hc => exact .inl hc
  | comment => exact .inr rfl

/-- A comment with the end of its line. -/
theorem GapBefore.line (h : GapBefore next gap) (hbody : '\n' ∉ body) : GapBefore next ('#' :: (body ++ '\n' :: gap)) :=
  .comment body hbody (fun _ hc => (Option.some.inj hc).symm) (.blank '\n' (by decide) h)

/-- Before a gap there may be more. -/
theorem GapBefore.prepend (h : GapBefore next gap) (hfiller : IsFiller filler) : GapBefore next (filler ++ gap) := by
  induction hfiller with
  | nil => exact h
  | blank c hc _ ih => exact .blank c hc ih
  | comment body hbody _ ih =>
    rw [List.cons_append, List.append_assoc]
    exact ih.line hbody

theorem IsFiller.gapBefore (h : IsFiller filler) (next : List Char) : GapBefore next filler := by
  have happend : GapBefore next (filler ++ []) := .prepend .nil h
  rwa [List.append_nil] at happend

/-- A comment at the end of a text takes up what follows it on its line. -/
theorem IsFiller.gapBefore_comment (h : IsFiller filler) (hbody : '\n' ∉ body) : GapBefore [] ('#' :: (body ++ filler)) := by
  induction h generalizing body with
  | nil => exact .comment body hbody nofun .nil
  | @blank c filler hc h ih =>
    by_cases hline : c = '\n'
    · subst hline
      exact (h.gapBefore []).line hbody
    · have hmore : '\n' ∉ body ++ [c] := by
        rw [List.mem_append, List.mem_singleton]
        exact not_or.2 ⟨hbody, fun heq => hline heq.symm⟩
      have hgap := ih hmore
      rwa [List.append_assoc] at hgap
  | @comment inner filler hinner h =>
    have hmore : '\n' ∉ body ++ '#' :: inner := by
      rw [List.mem_append, List.mem_cons]
      exact not_or.2 ⟨hbody, not_or.2 ⟨by decide, hinner⟩⟩
    have hgap := (h.gapBefore []).line hmore
    rwa [List.append_assoc] at hgap

/-- After a gap there may be more, in front of a token or of the end of the text. -/
theorem GapBefore.append (h : GapBefore next gap) (hnext : ∀ c ∈ next.head?, ¬BeginsGap c) (hfiller : IsFiller filler) :
    GapBefore next (gap ++ filler) := by
  induction h with
  | nil => exact hfiller.gapBefore next
  | blank c hc _ ih => exact .blank c hc ih
  | @comment body gap hbody hend _ ih =>
    rw [List.cons_append, List.append_assoc]
    cases gap with
    | cons c gap =>
      refine .comment body hbody (fun d hd => ?_) ih
      exact hend d hd
    | nil =>
      cases next with
      | nil => exact hfiller.gapBefore_comment hbody
      | cons c next =>
        obtain rfl := hend c rfl
        exact absurd (by decide) (hnext '\n' rfl)

end CellExpr
