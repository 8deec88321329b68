import CellExpr.ExprCache
import Mathlib.Data.List.Induction
import Mathlib.Data.List.Nodup

/-!
# Histories of a cache

What a cache has come to after any calls on it (`ExprCache.history`): it answers as if every text were parsed anew, it counts every
call for a text once, and it holds the texts that were parsed and not taken out since. `Step` says all that a call can do, and
`Sound` what every call keeps. A call takes texts out only by taking all of them out (`empties_iff`). Until then a text has one
expression in memory, and after that another one, since each parse has the number of its miss.
-/

namespace CellExpr

namespace ExprCache

/-- A call on a cache. -/
inductive Call where
  | getOrParse (text : String)
  | clear
  deriving DecidableEq

/-- Whether a call is for a text. -/
def Call.isForText : Call → Bool
  | getOrParse _ => true
  | clear => false

/-- The cache after a call. -/
def apply (c : ExprCache) : Call → ExprCache
  | .getOrParse text => (c.getOrParse text).2
  | .clear => c.clear

/-- The cache after calls, each of which ends before the next one begins. -/
def run (c : ExprCache) (calls : List Call) : ExprCache := calls.foldl apply c

/-- The texts in a cache. -/
def texts (c : ExprCache) : List String := c.entries.map (·.1)

/-- Whether a call takes a text out of the cache. -/
def Empties (c : ExprCache) (call : Call) : Prop := ∃ text ∈ c.texts, text ∉ (c.apply call).texts

/-- Whether a call is to clear the cache: it says so, or it parses another text and there is no room for it. -/
inductive Clears (c : ExprCache) : Call → Prop where
  | asked : Clears c .clear
  | full {text : String} {expr : Expr} (h : text ∉ c.texts) (hparse : Expr.parse text = .ok expr)
      (hfull : c.capacity ≤ c.size) : Clears c (.getOrParse text)

/-- Whether one of the calls takes a text out of the cache. -/
def EmptiedBy (c : ExprCache) : List Call → Prop
  | [] => False
  | call :: calls => c.Empties call ∨ (c.apply call).EmptiedBy calls

variable {c c' : ExprCache} {text : String} {call : Call} {calls : List Call} {shared : SharedExpr} {p : String × SharedExpr}

/-! ## Texts -/

theorem get?_eq_none_iff : c.get? text = none ↔ text ∉ c.texts := by
  rw [get?, List.lookup_eq_none_iff, texts, List.mem_map]
  constructor
  · rintro h ⟨p, hp, rfl⟩
    exact bne_iff_ne.1 (h p hp) rfl
  · intro h p hp
    exact bne_iff_ne.2 fun heq => h ⟨p, hp, heq.symm⟩

theorem mem_of_get? (h : c.get? text = some shared) : (text, shared) ∈ c.entries := by
  obtain ⟨before, after, hentries, _⟩ := List.lookup_eq_some_iff.1 h
  rw [hentries]
  exact List.mem_append_right _ List.mem_cons_self

theorem mem_texts (h : p ∈ c.entries) : p.1 ∈ c.texts := List.mem_map_of_mem h

theorem exists_of_mem_texts (h : text ∈ c.texts) : ∃ shared, (text, shared) ∈ c.entries := by
  obtain ⟨p, hp, rfl⟩ := List.mem_map.1 h
  exact ⟨p.2, hp⟩

/-! ## Calls -/

/-- What a call can do: the text is there, or it is no expression, or it is parsed and goes in, to the other ones if there is room
for it and else in their place; or the texts are taken out. -/
inductive Step (c : ExprCache) : Call → ExprCache → Prop where
  | hit {text : String} (h : text ∈ c.texts) : Step c (.getOrParse text) { c with hits := c.hits + 1 }
  | wrong {text : String} {e : SyntaxError} (h : text ∉ c.texts) (hparse : Expr.parse text = .error e) :
      Step c (.getOrParse text) { c with misses := c.misses + 1 }
  | added {text : String} {expr : Expr} (h : text ∉ c.texts) (hparse : Expr.parse text = .ok expr)
      (hroom : c.size < c.capacity) :
      Step c (.getOrParse text) { c with misses := c.misses + 1, entries := (text, ⟨expr, c.misses + 1⟩) :: c.entries }
  | replacing {text : String} {expr : Expr} (h : text ∉ c.texts) (hparse : Expr.parse text = .ok expr)
      (hfull : c.capacity ≤ c.size) :
      Step c (.getOrParse text) { c with misses := c.misses + 1, entries := [(text, ⟨expr, c.misses + 1⟩)] }
  | clear : Step c .clear { c with entries := [] }

theorem step (c : ExprCache) (call : Call) : c.Step call (c.apply call) := by
  cases call with
  | clear => exact .clear
  | getOrParse text =>
    unfold apply getOrParse
    dsimp only
    split
    · rename_i h
      exact .hit (mem_texts (mem_of_get? h))
    · rename_i h
      have htext := get?_eq_none_iff.1 h
      split
      · rename_i hparse
        exact .wrong htext hparse
      · rename_i hparse
        unfold insert
        split
        · rename_i hfull
          exact .replacing htext hparse hfull
        · rename_i hroom
          exact .added htext hparse (Nat.lt_of_not_le hroom)

/-- A text that is there is answered from the cache, and any other one is parsed. -/
theorem getOrParse_fst (c : ExprCache) (text : String) :
    (c.getOrParse text).1 = match c.get? text with
      | some shared => .ok shared
      | none => (Expr.parse text).map (⟨·, c.misses + 1⟩) := by
  unfold getOrParse
  cases c.get? text with
  | some => rfl
  | none => cases Expr.parse text <;> rfl

theorem getOrParse_fst_of_not_mem (h : text ∉ c.texts) :
    (c.getOrParse text).1 = (Expr.parse text).map (⟨·, c.misses + 1⟩) := by
  rw [getOrParse_fst, get?_eq_none_iff.2 h]

/-! ## What every call keeps -/

/-- Each text is in the cache once, with the expression that it is, from a parse that was counted, and there is room for all of
them. -/
structure Sound (c : ExprCache) : Prop where
  nodup : c.texts.Nodup
  size_le : c.size ≤ c.capacity
  parsed : ∀ p ∈ c.entries, Expr.parse p.1 = .ok p.2.expr
  serial_le : ∀ p ∈ c.entries, p.2.serial ≤ c.misses

theorem Sound.get?_of_mem (hc : c.Sound) (h : (text, shared) ∈ c.entries) : c.get? text = some shared := by
  cases hget : c.get? text with
  | none => exact absurd (mem_texts h) (get?_eq_none_iff.1 hget)
  | some other =>
    have heq := List.inj_on_of_nodup_map hc.nodup (mem_of_get? hget) h rfl
    exact congrArg some (Prod.mk.inj heq).2

/-- A text that is no expression is never there. -/
theorem Sound.not_mem_of_error {e : SyntaxError} (hc : c.Sound) (h : Expr.parse text = .error e) : text ∉ c.texts := by
  intro hmem
  obtain ⟨shared, hmem⟩ := exists_of_mem_texts hmem
  have hparse := hc.parsed _ hmem
  cases h.symm.trans hparse

namespace Step

theorem capacity_eq (h : c.Step call c') : c'.capacity = c.capacity := by
  cases h <;> rfl

theorem misses_le (h : c.Step call c') : c.misses ≤ c'.misses := by
  cases h <;> first | exact Nat.le_refl _ | exact Nat.le_succ _

/-- Each call for a text is counted once. -/
theorem counted (h : c.Step call c') : c'.hits + c'.misses = c.hits + c.misses + [call].countP (·.isForText) := by
  cases h with
  | clear => rfl
  | hit => exact Nat.add_right_comm ..
  | _ => exact (Nat.add_assoc ..).symm

theorem sound (h : c.Step call c') (hc : c.Sound) : c'.Sound := by
  have hserial : ∀ p ∈ c.entries, p.2.serial ≤ c.misses + 1 := fun p hp => Nat.le_succ_of_le (hc.serial_le p hp)
  cases h with
  | hit => exact ⟨hc.nodup, hc.size_le, hc.parsed, hc.serial_le⟩
  | wrong => exact ⟨hc.nodup, hc.size_le, hc.parsed, hserial⟩
  | added h hparse hroom =>
    refine ⟨List.nodup_cons.2 ⟨h, hc.nodup⟩, hroom, ?_, ?_⟩
    · exact List.forall_mem_cons.2 ⟨hparse, hc.parsed⟩
    · exact List.forall_mem_cons.2 ⟨Nat.le_refl _, hserial⟩
  | replacing _ hparse =>
    refine ⟨List.nodup_singleton _, c.capacity_pos, ?_, ?_⟩
    · exact List.forall_mem_singleton.2 hparse
    · exact List.forall_mem_singleton.2 (Nat.le_refl _)
  | clear => exact ⟨List.nodup_nil, Nat.zero_le _, nofun, nofun⟩

/-- What is in the cache after a call was there before or comes from a later parse than all before. -/
theorem mem_entries (h : c.Step call c') (hp : p ∈ c'.entries) : p ∈ c.entries ∨ c.misses < p.2.serial := by
  cases h with
  | hit | wrong => exact .inl hp
  | added =>
    rcases List.mem_cons.1 hp with rfl | hp
    · exact .inr (Nat.lt_succ_self _)
    · exact .inl hp
  | replacing =>
    obtain rfl := List.mem_singleton.1 hp
    exact .inr (Nat.lt_succ_self _)
  | clear => cases hp

/-- A text that is in the cache after a call only is one that the call has parsed. -/
theorem of_new_text (h : c.Step call c') (hmem : text ∈ c'.texts) (hnew : text ∉ c.texts) :
    call = .getOrParse text ∧ ∃ expr, Expr.parse text = .ok expr := by
  cases h with
  | hit | wrong => exact absurd hmem hnew
  | added _ hparse =>
    rcases List.mem_cons.1 hmem with rfl | hmem
    · exact ⟨rfl, _, hparse⟩
    · exact absurd hmem hnew
  | replacing _ hparse =>
    obtain rfl := List.mem_singleton.1 hmem
    exact ⟨rfl, _, hparse⟩
  | clear => cases hmem

/-- A text that is there is a hit, which changes nothing but the count. -/
theorem eq_of_mem (h : c.Step (.getOrParse text) c') (hmem : text ∈ c.texts) : c' = { c with hits := c.hits + 1 } := by
  cases h with
  | hit => rfl
  | wrong hnot | added hnot | replacing hnot => exact absurd hmem hnot

/-- Any other text is a miss. -/
theorem counted_of_not_mem (h : c.Step (.getOrParse text) c') (hnot : text ∉ c.texts) :
    c'.hits = c.hits ∧ c'.misses = c.misses + 1 := by
  cases h with
  | hit hmem => exact absurd hmem hnot
  | _ => exact ⟨rfl, rfl⟩

/-- A text that is no expression is a miss too, and leaves the texts as they are. -/
theorem eq_of_error {e : SyntaxError} (h : c.Step (.getOrParse text) c') (hnot : text ∉ c.texts)
    (herror : Expr.parse text = .error e) : c' = { c with misses := c.misses + 1 } := by
  cases h with
  | hit hmem => exact absurd hmem hnot
  | wrong => rfl
  | added _ hparse | replacing _ hparse => cases herror.symm.trans hparse

/-- A text that is answered is there afterwards, with its answer. -/
theorem mem_of_answer (h : c.Step (.getOrParse text) c') (hanswer : (c.getOrParse text).1 = .ok shared) :
    (text, shared) ∈ c'.entries := by
  cases h with
  | hit hmem =>
    rw [getOrParse_fst] at hanswer
    split at hanswer
    · rename_i hget
      cases hanswer
      exact mem_of_get? hget
    · rename_i hget
      exact absurd hmem (get?_eq_none_iff.1 hget)
  | wrong hnot hparse =>
    rw [getOrParse_fst_of_not_mem hnot, hparse] at hanswer
    cases hanswer
  | added hnot hparse | replacing hnot hparse =>
    rw [getOrParse_fst_of_not_mem hnot, hparse] at hanswer
    cases hanswer
    exact List.mem_cons_self

/-- A call that is to clear the cache leaves no text of it, and any other call leaves all of them. -/
theorem keeps_or_clears (h : c.Step call c') :
    c.entries ⊆ c'.entries ∧ ¬c.Clears call ∨ (∀ text ∈ c'.texts, text ∉ c.texts) ∧ c.Clears call := by
  cases h with
  | hit hmem =>
    refine .inl ⟨List.Subset.refl _, fun hclears => ?_⟩
    cases hclears with
    | full hnew => exact hnew hmem
  | wrong _ hwrong =>
    refine .inl ⟨List.Subset.refl _, fun hclears => ?_⟩
    cases hclears with
    | full _ hparse => cases hwrong.symm.trans hparse
  | added _ _ hroom =>
    refine .inl ⟨List.subset_cons_self _ _, fun hclears => ?_⟩
    cases hclears with
    | full _ _ hfull => exact Nat.not_le_of_lt hroom hfull
  | replacing h hparse hfull => exact .inr ⟨List.forall_mem_singleton.2 h, .full h hparse hfull⟩
  | clear => exact .inr ⟨nofun, .asked⟩

end Step

/-! ## Emptying -/

/-- A cache with texts is emptied when it is to be cleared, and then only. -/
theorem empties_iff : c.Empties call ↔ c.texts ≠ [] ∧ c.Clears call := by
  constructor
  · rintro ⟨text, hmem, hout⟩
    refine ⟨List.ne_nil_of_mem hmem, ?_⟩
    rcases (c.step call).keeps_or_clears with ⟨hsubset, _⟩ | ⟨_, hclears⟩
    · exact absurd (List.map_subset _ hsubset hmem) hout
    · exact hclears
  · rintro ⟨hne, hclears⟩
    obtain ⟨text, hmem⟩ := List.exists_mem_of_ne_nil _ hne
    rcases (c.step call).keeps_or_clears with ⟨_, hnot⟩ | ⟨hout, _⟩
    · exact absurd hclears hnot
    · exact ⟨text, hmem, fun hmem' => hout text hmem' hmem⟩

/-- Then all texts are taken out. -/
theorem Empties.not_mem (h : c.Empties call) : ∀ text ∈ c.texts, text ∉ (c.apply call).texts := by
  intro text hmem hmem'
  rcases (c.step call).keeps_or_clears with ⟨_, hnot⟩ | ⟨hout, _⟩
  · exact hnot (empties_iff.1 h).2
  · exact hout text hmem' hmem

theorem subset_of_not_empties (h : ¬c.Empties call) : c.entries ⊆ (c.apply call).entries := by
  rcases (c.step call).keeps_or_clears with ⟨hsubset, _⟩ | ⟨_, hclears⟩
  · exact hsubset
  · have htexts : c.texts = [] := by
      by_contra hne
      exact h (empties_iff.2 ⟨hne, hclears⟩)
    rw [List.map_eq_nil_iff.1 htexts]
    exact List.nil_subset _

/-- After an emptying there are later parses only. -/
theorem Empties.lt_serial (h : c.Empties call) (hp : p ∈ (c.apply call).entries) : c.misses < p.2.serial :=
  ((c.step call).mem_entries hp).resolve_left fun hp' => h.not_mem _ (mem_texts hp') (mem_texts hp)

/-- A cache answers as if the text were parsed anew. -/
theorem Sound.map_getOrParse (hc : c.Sound) (text : String) : (c.getOrParse text).1.map (·.expr) = Expr.parse text := by
  rw [getOrParse_fst]
  cases hget : c.get? text with
  | some shared => exact (hc.parsed _ (mem_of_get? hget)).symm
  | none => cases Expr.parse text <;> rfl

/-- A text is there after a call if it was there and was not taken out, or if the call has parsed it. -/
theorem Sound.mem_texts_apply_iff (hc : c.Sound) : text ∈ (c.apply call).texts ↔
    text ∈ c.texts ∧ ¬c.Empties call ∨ call = .getOrParse text ∧ ∃ expr, Expr.parse text = .ok expr := by
  constructor
  · intro hmem
    by_cases hold : text ∈ c.texts
    · exact .inl ⟨hold, fun hempties => hempties.not_mem text hold hmem⟩
    · exact .inr ((c.step call).of_new_text hmem hold)
  · rintro (⟨hmem, hnot⟩ | ⟨rfl, expr, hparse⟩)
    · exact List.map_subset _ (subset_of_not_empties hnot) hmem
    · have hanswer := hc.map_getOrParse text
      cases hget : (c.getOrParse text).1 with
      | ok shared => exact mem_texts ((c.step _).mem_of_answer hget)
      | error e =>
        rw [hget, hparse] at hanswer
        cases hanswer

/-! ## Runs -/

theorem run_append (c : ExprCache) (calls later : List Call) : c.run (calls ++ later) = (c.run calls).run later :=
  List.foldl_append

theorem capacity_run (c : ExprCache) (calls : List Call) : (c.run calls).capacity = c.capacity := by
  induction calls generalizing c with
  | nil => rfl
  | cons call calls ih => exact (ih (c.apply call)).trans (c.step call).capacity_eq

theorem Sound.run (hc : c.Sound) (calls : List Call) : (c.run calls).Sound := by
  induction calls generalizing c with
  | nil => exact hc
  | cons call calls ih => exact ih ((c.step call).sound hc)

theorem sound_new (capacity : Nat) : (new capacity).Sound := ⟨List.nodup_nil, Nat.zero_le _, nofun, nofun⟩

theorem counted_run (c : ExprCache) (calls : List Call) :
    (c.run calls).hits + (c.run calls).misses = c.hits + c.misses + calls.countP (·.isForText) := by
  induction calls generalizing c with
  | nil => rfl
  | cons call calls ih =>
    have hcall := (c.step call).counted
    rw [← List.singleton_append, List.countP_append, ← Nat.add_assoc, ← hcall]
    exact ih (c.apply call)

theorem misses_le_run (c : ExprCache) (calls : List Call) : c.misses ≤ (c.run calls).misses := by
  induction calls generalizing c with
  | nil => exact Nat.le_refl _
  | cons call calls ih => exact Nat.le_trans (c.step call).misses_le (ih (c.apply call))

theorem mem_entries_run (h : p ∈ (c.run calls).entries) : p ∈ c.entries ∨ c.misses < p.2.serial := by
  induction calls generalizing c with
  | nil => exact .inl h
  | cons call calls ih =>
    rcases ih h with hp | hlt
    · exact (c.step call).mem_entries hp
    · exact .inr (Nat.lt_of_le_of_lt (c.step call).misses_le hlt)

theorem emptiedBy_append {later : List Call} :
    c.EmptiedBy (calls ++ later) ↔ c.EmptiedBy calls ∨ (c.run calls).EmptiedBy later := by
  induction calls generalizing c with
  | nil => exact (iff_of_eq (false_or _)).symm
  | cons call calls ih => exact (or_congr_right ih).trans or_assoc.symm

theorem subset_run (h : ¬c.EmptiedBy calls) : c.entries ⊆ (c.run calls).entries := by
  induction calls generalizing c with
  | nil => exact List.Subset.refl _
  | cons call calls ih =>
    obtain ⟨hcall, hcalls⟩ := not_or.1 h
    exact List.Subset.trans (subset_of_not_empties hcall) (ih hcalls)

theorem EmptiedBy.lt_serial (h : c.EmptiedBy calls) (hp : p ∈ (c.run calls).entries) : c.misses < p.2.serial := by
  induction calls generalizing c with
  | nil => exact h.elim
  | cons call calls ih =>
    rcases h with hcall | hcalls
    · rcases mem_entries_run (c := c.apply call) hp with hp | hlt
      · exact hcall.lt_serial hp
      · exact Nat.lt_of_le_of_lt (c.step call).misses_le hlt
    · exact Nat.lt_of_le_of_lt (c.step call).misses_le (ih hcalls hp)

/-- The texts in a cache that had none are those that were parsed and not taken out since. -/
theorem Sound.mem_texts_run_iff (hc : c.Sound) (hnone : c.texts = []) : text ∈ (c.run calls).texts ↔
    (∃ expr, Expr.parse text = .ok expr) ∧ ∃ earlier later : List Call, calls = earlier ++ .getOrParse text :: later ∧
      ¬(c.run (earlier ++ [.getOrParse text])).EmptiedBy later := by
  constructor
  · intro hmem
    -- from the last call back: it has left the text there, or has parsed it
    induction calls using List.reverseRecOn with
    | nil => exact absurd (hnone ▸ hmem) List.not_mem_nil
    | append_singleton calls call ih =>
      rw [run_append] at hmem
      rcases (hc.run calls).mem_texts_apply_iff.1 hmem with ⟨hmem, hnot⟩ | ⟨rfl, hparse⟩
      · obtain ⟨hparse, earlier, later, rfl, hlater⟩ := ih hmem
        refine ⟨hparse, earlier, later ++ [call], by rw [List.append_assoc, List.cons_append], ?_⟩
        rw [emptiedBy_append, ← run_append, List.append_assoc, List.singleton_append]
        rintro (h | h | h)
        · exact hlater h
        · exact hnot h
        · exact h
      · exact ⟨hparse, calls, [], rfl, id⟩
  · rintro ⟨hparse, earlier, later, rfl, hlater⟩
    rw [← List.singleton_append, ← List.append_assoc, run_append]
    have hmem : text ∈ (c.run (earlier ++ [.getOrParse text])).texts := by
      rw [run_append]
      exact (hc.run earlier).mem_texts_apply_iff.2 (.inr ⟨rfl, hparse⟩)
    exact List.map_subset _ (subset_run hlater) hmem

/-- Two answers for a text are the same tree in memory if no text was taken out between them. -/
theorem Sound.serial_eq_iff {between : List Call} {first second : SharedExpr} (hc : c.Sound)
    (hfirst : (c.getOrParse text).1 = .ok first)
    (hsecond : (((c.apply (.getOrParse text)).run between).getOrParse text).1 = .ok second) :
    first.serial = second.serial ↔ ¬(c.apply (.getOrParse text)).EmptiedBy between := by
  have hmem := (c.step _).mem_of_answer hfirst
  have hc' := (c.step (.getOrParse text)).sound hc
  generalize c.apply (.getOrParse text) = c' at hsecond hmem hc' ⊢
  rw [getOrParse_fst] at hsecond
  constructor
  · intro heq hemptied
    -- what is there after an emptying comes from later parses, and so does what is parsed now
    have hle : first.serial ≤ c'.misses := hc'.serial_le _ hmem
    have hlt : c'.misses < second.serial := by
      split at hsecond
      · rename_i hget
        cases hsecond
        exact hemptied.lt_serial (mem_of_get? hget)
      · cases hparse : Expr.parse text with
        | error e => rw [hparse] at hsecond; cases hsecond
        | ok expr =>
          rw [hparse] at hsecond
          cases hsecond
          exact Nat.lt_succ_of_le (c'.misses_le_run between)
    omega
  · intro hnot
    rw [(hc'.run between).get?_of_mem (subset_run hnot hmem)] at hsecond
    cases hsecond
    rfl

/-- A cache after any calls. It answers what parsing the text gives, and holds no more texts than it has room for. The calls for
texts are counted, as hits where the text was there; a text that is no expression is a miss and changes nothing else. It is emptied
only if it is cleared or if another text is parsed when it is full, and holds each text that was parsed and not taken out since.
Two answers for a text are the same tree if it was not emptied between them. -/
theorem history (capacity : Nat) (calls : List Call) :
    let c := (new capacity).run calls
    (∀ text, (c.getOrParse text).1.map (·.expr) = Expr.parse text) ∧
      (c.capacity = max capacity 1 ∧ c.size ≤ c.capacity) ∧
      c.hits + c.misses = calls.countP (·.isForText) ∧
      (∀ text, (text ∈ c.texts → c.apply (.getOrParse text) = { c with hits := c.hits + 1 }) ∧
        (text ∉ c.texts → (c.apply (.getOrParse text)).hits = c.hits ∧ (c.apply (.getOrParse text)).misses = c.misses + 1)) ∧
      (∀ text e, Expr.parse text = .error e →
        text ∉ c.texts ∧ c.apply (.getOrParse text) = { c with misses := c.misses + 1 }) ∧
      c.texts.Nodup ∧
      (∀ text, text ∈ c.texts ↔ (∃ expr, Expr.parse text = .ok expr) ∧ ∃ earlier later : List Call,
        calls = earlier ++ .getOrParse text :: later ∧
          ¬((new capacity).run (earlier ++ [.getOrParse text])).EmptiedBy later) ∧
      (∀ call, (c.Empties call ↔ c.texts ≠ [] ∧ c.Clears call) ∧
        (c.Empties call → ∀ text ∈ c.texts, text ∉ (c.apply call).texts)) ∧
      ∀ text between first second, (c.getOrParse text).1 = .ok first →
        (((c.apply (.getOrParse text)).run between).getOrParse text).1 = .ok second →
        (first.serial = second.serial ↔ ¬(c.apply (.getOrParse text)).EmptiedBy between) := by
  have hc := (sound_new capacity).run calls
  refine ⟨hc.map_getOrParse, ?_, ?_, ?_, ?_, hc.nodup, ?_, fun call => ⟨empties_iff, Empties.not_mem⟩, ?_⟩
  · exact ⟨capacity_run (new capacity) calls, hc.size_le⟩
  · exact (counted_run (new capacity) calls).trans (Nat.zero_add _)
  · exact fun text => ⟨(step _ _).eq_of_mem, (step _ _).counted_of_not_mem⟩
  · intro text e he
    have hnot := hc.not_mem_of_error he
    exact ⟨hnot, (step _ _).eq_of_error hnot he⟩
  · exact fun text => (sound_new capacity).mem_texts_run_iff rfl
  · exact fun text between first second => hc.serial_eq_iff

/-- In a cache for one text a text that is no expression takes nothing out, and another expression does. -/
theorem history_one :
    ∃ first same other : SharedExpr, ((new 0).getOrParse "a").1 = .ok first ∧
      ((((new 0).apply (.getOrParse "a")).run [.getOrParse "b +"]).getOrParse "a").1 = .ok same ∧ first.serial = same.serial ∧
      ((((new 0).apply (.getOrParse "a")).run [.getOrParse "b"]).getOrParse "a").1 = .ok other ∧ first.serial ≠ other.serial := by
  obtain ⟨_, _, _, _, _, _, _, _, hshared⟩ := history 0 []
  obtain ⟨_, _, _, _, _, _, _, hempties, _⟩ := history 0 [.getOrParse "a"]
  have hanswer (c : ExprCache) (h : (c.getOrParse "a").1.isOk = true) : ∃ shared, (c.getOrParse "a").1 = .ok shared := by
    cases hget : (c.getOrParse "a").1 with
    | ok shared => exact ⟨shared, rfl⟩
    | error e => rw [hget] at h; cases h
  have hwrong (c : ExprCache) : ¬c.Clears (.getOrParse "b +") := by
    have hparse : (Expr.parse "b +").isOk = false := by decide +kernel
    intro hclears
    cases hclears with
    | full _ hok => exact Bool.noConfusion (hparse.symm.trans (congrArg Except.isOk hok))
  obtain ⟨first, hfirst⟩ := hanswer (new 0) (by decide +kernel)
  obtain ⟨same, hsame⟩ := hanswer (((new 0).apply (.getOrParse "a")).run [.getOrParse "b +"]) (by decide +kernel)
  obtain ⟨other, hother⟩ := hanswer (((new 0).apply (.getOrParse "a")).run [.getOrParse "b"]) (by decide +kernel)
  refine ⟨first, same, other, hfirst, hsame, ?_, hother, ?_⟩
  · refine (hshared "a" [.getOrParse "b +"] first same hfirst hsame).2 ?_
    rintro (hcall | hnone)
    · exact hwrong _ ((hempties _).1.1 hcall).2
    · exact hnone
  · refine fun heq => (hshared "a" [.getOrParse "b"] first other hfirst hother).1 heq (.inl ?_)
    exact ⟨"a", by decide +kernel, by decide +kernel⟩

end ExprCache

end CellExpr
