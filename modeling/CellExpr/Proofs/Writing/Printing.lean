import CellExpr.Proofs.Grammar.Formed
import CellExpr.Proofs.Writing.Lexing

/-!
# Printing

A tree is written with parentheses only where an operand would otherwise not hold together, and the arguments of a control
form in the order in which the form is called. The grammar derives the tree from these words again, wherever there are levels
enough (`written_of_formed`).
-/

namespace CellExpr

open TokenReader

/-- The word that a control form is called with. -/
def ControlForm.word : ControlForm → TokenKind
  | .if => .keyword .if
  | form => .name form.name

namespace Expr

/-! ## Words -/

/-- How tightly an expression holds together without parentheses. -/
def tightness : Expr → Nat
  | conditional .. => 0
  | binary op _ _ => op.rank + 1
  | unary .. => 7
  | _ => 8

/-- The words of an operand that has to hold together at least so tightly: in parentheses if it does not. -/
def grouped (limit : Nat) (e : Expr) (words : List TokenKind) : List TokenKind :=
  if e.tightness < limit then .mark .openParen :: words ++ [.mark .closeParen] else words

/-- The arguments of a control form in the order in which they are written: those before the parameters, the parameters, the
body and what follows it. -/
def inOrder (form : ControlForm) (args : List (List TokenKind)) (params : List String) (body : List TokenKind) :
    List (List TokenKind) :=
  args.take form.leading ++ params.map (fun name => [TokenKind.name name]) ++ body :: args.drop form.leading

mutual

/-- The words that an expression is written with. -/
def words : Expr → List TokenKind
  | literal l => [l.kind]
  | var name => [.name name]
  | field base name => grouped 8 base base.words ++ [.mark .dot, .name name]
  | index base position =>
    grouped 8 base base.words ++ .mark .openBracket :: position.words ++ [.mark .closeBracket]
  | array items => enclosed .openBracket .closeBracket (phrases items)
  | call name args => .name name :: enclosed .openParen .closeParen (phrases args)
  | control form args none => form.word :: enclosed .openParen .closeParen (phrases args)
  | control form args (some ⟨params, body⟩) =>
    form.word :: enclosed .openParen .closeParen (inOrder form (phrases args) params body.words)
  | unary op operand => .mark op.mark :: grouped 7 operand operand.words
  | binary op left right =>
    grouped (op.rank + 1) left left.words ++ .mark op.mark :: grouped (op.rank + 2) right right.words
  | conditional condition yes no =>
    grouped 1 condition condition.words ++ .mark .question :: yes.words ++ .mark .colon :: no.words

/-- The words of some expressions, each apart. -/
def phrases : List Expr → List (List TokenKind)
  | [] => []
  | e :: rest => e.words :: phrases rest

end

/-! ## Depth -/

/-- The levels that are open in an operand that has to hold together at least so tightly. -/
def groupedDepth (limit : Nat) (e : Expr) (depth : Nat) : Nat := if e.tightness < limit then depth + 1 else depth

mutual

/-- How many levels are open at once in an expression as it is written, apart from its own: one for each expression in
brackets, between commas or between the signs of a condition, and one for each operator before its operand. -/
def depth : Expr → Nat
  | literal _ | var _ => 0
  | field base _ => groupedDepth 8 base base.depth
  | index base position => max (groupedDepth 8 base base.depth) (position.depth + 1)
  | array items => depths items
  | call _ args => depths args
  | control _ args none => depths args
  | control _ args (some ⟨_, body⟩) => max (depths args) (body.depth + 1)
  | unary _ operand => groupedDepth 7 operand operand.depth + 1
  | binary op left right =>
    max (groupedDepth (op.rank + 1) left left.depth) (groupedDepth (op.rank + 2) right right.depth)
  | conditional condition yes no =>
    max (groupedDepth 1 condition condition.depth) (max (yes.depth + 1) (no.depth + 1))

/-- How many levels are open at once in expressions between commas. -/
def depths : List Expr → Nat
  | [] => 0
  | e :: rest => max (e.depth + 1) (depths rest)

end

section

-- The equations are made here once; what rewrites with them need not make them again.
attribute [local simp] words phrases depth depths

end

/-- The text of an expression with gaps between its words, which may be empty. -/
def print (gap : Nat → List Char) (e : Expr) : String := String.ofList (written gap e.words)

theorem phrases_eq_map (es : List Expr) : phrases es = es.map words := by
  induction es with
  | nil => rfl
  | cons e es ih => rw [phrases, ih, List.map_cons]

theorem depth_lt_depths {e : Expr} {es : List Expr} (he : e ∈ es) : e.depth < depths es := by
  induction es with
  | nil => cases he
  | cons first rest ih =>
    rw [depths]
    rcases List.mem_cons.1 he with rfl | he
    · omega
    · have := ih he
      omega

/-! ## What the words derive -/

/-- The phrases that hold together so tightly. -/
def phraseAt (limit : Nat) : Phrase :=
  if limit = 0 then .expr else if limit ≤ BinaryOp.rungs then .rung (limit - 1) else if limit = 7 then .unary else .suffixed

variable {n limit : Nat} {ts : List TokenKind} {e : Expr}

/-- A phrase that holds together more tightly may stand for one that does less so. -/
theorem derives_loosen {tight : Nat} (h : Derives (phraseAt tight) n ts e) (hpos : 0 < limit) (hle : limit ≤ tight)
    (htight : tight ≤ 8) : Derives (phraseAt limit) n ts e := by
  induction tight with
  | zero => omega
  | succ k ih =>
    by_cases hk : limit = k + 1
    · exact hk ▸ h
    have hlt : limit ≤ k := by omega
    refine ih ?_ hlt (by omega)
    have hcases : k = 7 ∨ k = 6 ∨ k < 6 := by omega
    rcases hcases with rfl | rfl | hk
    · exact .unsigned h
    · exact .tighter (k := 5) (by decide) (.operand h)
    · obtain ⟨j, rfl⟩ : ∃ j, k = j + 1 := ⟨k - 1, by omega⟩
      have hthis : phraseAt (j + 1) = .rung j := by
        unfold phraseAt
        rw [if_neg (by omega), if_pos (by simp only [BinaryOp.rungs]; omega)]
        rfl
      have hnext : phraseAt (j + 1 + 1) = .rung (j + 1) := by
        unfold phraseAt
        rw [if_neg (by omega), if_pos (by simp only [BinaryOp.rungs]; omega)]
        rfl
      rw [hthis]
      rw [hnext] at h
      exact .tighter (by simp only [BinaryOp.rungs]; omega) h

theorem derives_rung {k : Nat} (hk : k ≤ BinaryOp.rungs) (h : Derives (phraseAt (k + 1)) n ts e) :
    Derives (.rung k) n ts e := by
  unfold phraseAt at h
  rw [if_neg (by omega)] at h
  split at h
  · exact h
  · obtain rfl : k = BinaryOp.rungs := by omega
    exact .operand h

/-- The words of an expression derive it wherever there are enough levels: as an expression, and without parentheses where it
holds together tightly enough. -/
structure Written (e : Expr) : Prop where
  expr : ∀ n, e.depth < n → Derives .expr n e.words e
  own : ∀ n, e.depth ≤ n → 0 < e.tightness → Derives (phraseAt e.tightness) n e.words e

theorem tightness_le (e : Expr) : e.tightness ≤ 8 := by
  cases e with
  | binary op =>
    have := op.rank_lt
    simp only [tightness, BinaryOp.rungs] at this ⊢
    omega
  | _ => simp [tightness]

/-- What is derived on its own is an expression. -/
theorem Written.of_own (hpos : 0 < e.tightness)
    (h : ∀ n, e.depth ≤ n → Derives (phraseAt e.tightness) n e.words e) : e.Written := by
  refine ⟨fun n hn => ?_, fun n hn _ => h n hn⟩
  obtain ⟨m, rfl⟩ : ∃ m, n = m + 1 := ⟨n - 1, by omega⟩
  exact .plain (derives_rung (Nat.zero_le _) (derives_loosen (h m (by omega)) Nat.one_pos hpos e.tightness_le))

/-- An expression whose words are an atom. -/
theorem Written.of_atom (htight : e.tightness = 8) (h : ∀ n, e.depth ≤ n → Derives .atom n e.words e) : e.Written :=
  .of_own (by omega) fun n hn => by
    rw [htight]
    exact .bare (h n hn)

/-- An operand in parentheses where it needs them. -/
theorem Written.grouped (h : e.Written) (limit : Nat) (hpos : 0 < limit) (hle : limit ≤ 8) (hn : groupedDepth limit e e.depth ≤ n) :
    Derives (phraseAt limit) n (grouped limit e e.words) e := by
  unfold groupedDepth at hn
  unfold Expr.grouped
  split at hn
  · rename_i hlt
    rw [if_pos hlt]
    have hgroup : Derives (phraseAt 8) n (.mark .openParen :: e.words ++ [.mark .closeParen]) e :=
      .bare (.group (h.expr n hn))
    exact derives_loosen hgroup hpos hle (Nat.le_refl _)
  · rename_i hge
    rw [if_neg hge]
    exact derives_loosen (h.own n hn (by omega)) hpos (by omega) e.tightness_le

/-- Expressions as arguments. -/
def arguments (es : List Expr) : Arguments := es.map fun e => (e.words, e)

theorem arguments_phrases (es : List Expr) : (arguments es).phrases = phrases es := by
  rw [phrases_eq_map, arguments, Arguments.phrases, List.map_map]
  rfl

theorem arguments_trees (es : List Expr) : (arguments es).trees = es := by
  rw [arguments, Arguments.trees, List.map_map]
  exact List.map_id _

theorem derives_arguments {es : List Expr} (h : ∀ e ∈ es, e.Written) (hn : depths es ≤ n) :
    ∀ a ∈ arguments es, Derives .expr n a.1 a.2 := by
  intro a ha
  obtain ⟨e, he, rfl⟩ := List.mem_map.1 ha
  exact (h e he).expr n (Nat.lt_of_lt_of_le (depth_lt_depths he) hn)

/-- A control form is derived from its word and its arguments. -/
theorem derives_control {form : ControlForm} {args : Arguments} (hargs : ∀ a ∈ args, Derives .expr n a.1 a.2)
    (hcall : CallOf form.name args.trees e) :
    Derives .atom n (form.word :: enclosed .openParen .closeParen args.phrases) e := by
  cases form with
  | «if» => exact .choice args hargs hcall
  | _ => exact .call _ args hargs hcall

theorem written_var (name : String) : (Expr.var name).Written :=
  .of_atom rfl fun _ _ => .var name

/-- The arguments of a control form in the order in which they are written. -/
def argumentsInOrder (form : ControlForm) (args : List Expr) (params : List String) (body : Expr) : Arguments :=
  arguments (args.take form.leading ++ params.map .var ++ body :: args.drop form.leading)

theorem argumentsInOrder_phrases (form : ControlForm) (args : List Expr) (params : List String) (body : Expr) :
    (argumentsInOrder form args params body).phrases = inOrder form (phrases args) params body.words := by
  simp [argumentsInOrder, arguments_phrases, inOrder, phrases_eq_map, words]

theorem written_binding {form : ControlForm} {args : List Expr} {params : List String} {body : Expr}
    (hform : 0 < form.trailing) (hlength : args.length + 1 = form.leading + form.trailing)
    (hparams : params.length = form.parameters) (hargs : ∀ e ∈ args, e.Written) (hbody : body.Written) :
    (Expr.control form args (some ⟨params, body⟩)).Written := by
  refine .of_atom rfl fun n hn => ?_
  rw [depth] at hn
  have hall : ∀ e ∈ args.take form.leading ++ params.map .var ++ body :: args.drop form.leading,
      e.Written ∧ e.depth < n := by
    have hlt : ∀ e ∈ args, e.depth < n := fun e he => by
      have := depth_lt_depths he
      omega
    intro e he
    simp only [List.mem_append, List.mem_map, List.mem_cons] at he
    rcases he with (he | ⟨name, _, rfl⟩) | rfl | he
    · exact ⟨hargs e (List.mem_of_mem_take he), hlt e (List.mem_of_mem_take he)⟩
    · exact ⟨written_var name, by rw [depth]; omega⟩
    · exact ⟨hbody, by omega⟩
    · exact ⟨hargs e (List.mem_of_mem_drop he), hlt e (List.mem_of_mem_drop he)⟩
  have hderives : ∀ a ∈ argumentsInOrder form args params body, Derives .expr n a.1 a.2 := by
    intro a ha
    obtain ⟨e, he, rfl⟩ := List.mem_map.1 ha
    exact (hall e he).1.expr n (hall e he).2
  have hcall : CallOf form.name (argumentsInOrder form args params body).trees
      (.control form (args.take form.leading ++ args.drop form.leading) (some ⟨params, body⟩)) := by
    rw [argumentsInOrder, arguments_trees]
    refine .binding form _ params body _ ?_ hparams ?_
    · rw [List.length_take]
      omega
    · rw [List.length_drop]
      omega
  rw [List.take_append_drop] at hcall
  rw [words, ← argumentsInOrder_phrases]
  exact derives_control hderives hcall

theorem written_choice {condition yes no : Expr} (hcondition : condition.Written) (hyes : yes.Written) (hno : no.Written) :
    (Expr.control .if [condition, yes, no] none).Written := by
  refine .of_atom rfl fun n hn => ?_
  have hall : ∀ e ∈ [condition, yes, no], e.Written := by simp [hcondition, hyes, hno]
  have hderives := derives_arguments hall hn
  rw [words, ← arguments_phrases]
  refine derives_control hderives ?_
  rw [arguments_trees]
  exact .choice condition yes no

theorem written_binary (op : BinaryOp) {left right : Expr} (hl : left.Written) (hr : right.Written) :
    (Expr.binary op left right).Written := by
  have hrank := op.rank_lt
  simp only [BinaryOp.rungs] at hrank
  refine .of_own (Nat.succ_pos _) fun n hn => ?_
  rw [depth] at hn
  have hleft := hl.grouped (n := n) (op.rank + 1) (by omega) (by omega) (by omega)
  have hright := hr.grouped (n := n) (op.rank + 2) (by omega) (by omega) (by omega)
  have hphrase : phraseAt (op.rank + 1) = .rung op.rank := by
    unfold phraseAt
    rw [if_neg (by omega), if_pos (by simp only [BinaryOp.rungs]; omega)]
    rfl
  rw [tightness, hphrase, words]
  rw [hphrase] at hleft
  exact .chain op hleft (derives_rung (by simp only [BinaryOp.rungs]; omega) hright)

theorem written_conditional {condition yes no : Expr} (hc : condition.Written) (hy : yes.Written) (hn : no.Written) :
    (Expr.conditional condition yes no).Written := by
  refine ⟨fun n hdepth => ?_, fun n _ hpos => absurd hpos (Nat.lt_irrefl 0)⟩
  rw [depth] at hdepth
  obtain ⟨m, rfl⟩ : ∃ m, n = m + 1 := ⟨n - 1, by omega⟩
  rw [words]
  exact .conditional (hc.grouped 1 (by omega) (by omega) (by omega)) (hy.expr m (by omega))
    (hn.expr m (by omega))

/-- A well formed expression is derived from its words. -/
theorem written_of_formed {ok : TokenKind → Prop} (h : e.Formed ok) : e.Written := by
  induction h with
  | literal l =>
    refine .of_atom rfl fun n _ => ?_
    cases l with
    | number x => exact .number x
    | string s => exact .string s
    | boolean b => exact .boolean b
    | null => exact .null
    | regex r => exact .regex r
  | var name => exact written_var name
  | field name _ _ ih =>
    refine .of_own (Nat.succ_pos _) fun n hn => ?_
    exact .field name (ih.grouped 8 (by decide) (Nat.le_refl _) hn)
  | index _ _ ih ihp =>
    refine .of_own (Nat.succ_pos _) fun n hn => ?_
    rw [depth] at hn
    exact .index (ih.grouped 8 (by decide) (Nat.le_refl _) (by omega)) (ihp.expr n (by omega))
  | array items _ ih =>
    refine .of_atom rfl fun n hn => ?_
    rw [words, ← arguments_phrases]
    have harray := Derives.array (arguments items) (derives_arguments ih hn)
    rwa [arguments_trees] at harray
  | call name args _ hform _ ih =>
    refine .of_atom rfl fun n hn => ?_
    rw [words, ← arguments_phrases]
    refine .call name (arguments args) (derives_arguments ih hn) ?_
    rw [arguments_trees]
    exact .function args hform
  | choice _ _ _ ihc ihy ihn => exact written_choice ihc ihy ihn
  | binding form args params hform hlength hparams _ _ _ ih ihbody =>
    exact written_binding hform hlength hparams ih ihbody
  | unary op _ ih =>
    refine .of_own (Nat.succ_pos _) fun n hn => ?_
    rw [depth] at hn
    obtain ⟨m, rfl⟩ : ∃ m, n = m + 1 := ⟨n - 1, by omega⟩
    exact .signed op (ih.grouped 7 (by decide) (by decide) (by omega))
  | binary op _ _ ihl ihr => exact written_binary op ihl ihr
  | conditional _ _ _ ihc ihy ihn => exact written_conditional ihc ihy ihn

/-! ## What the words are spelled with -/

theorem mem_grouped {k : TokenKind} {words : List TokenKind} (h : k ∈ Expr.grouped limit e words) :
    k ∈ words ∨ k.isMark = true := by
  unfold Expr.grouped at h
  split at h
  · simp only [List.mem_append, List.mem_cons, List.not_mem_nil, or_false] at h
    rcases h with (rfl | h) | rfl
    · exact .inr rfl
    · exact .inl h
    · exact .inr rfl
  · exact .inl h

theorem mem_separated_cases {phrases : List (List TokenKind)} {k : TokenKind} (h : k ∈ separated phrases) :
    (∃ ts ∈ phrases, k ∈ ts) ∨ k.isMark = true := by
  induction phrases with
  | nil => cases h
  | cons ts phrases ih =>
    cases phrases with
    | nil => exact .inl ⟨ts, List.mem_cons_self, h⟩
    | cons us phrases =>
      rw [separated, List.mem_append, List.mem_cons] at h
      · rcases h with h | rfl | h
        · exact .inl ⟨ts, List.mem_cons_self, h⟩
        · exact .inr rfl
        · refine (ih h).imp_left fun hphrase => ?_
          obtain ⟨vs, hvs, hk⟩ := hphrase
          exact ⟨vs, List.mem_cons_of_mem _ hvs, hk⟩
      · intro h
        cases h

theorem mem_enclosed_cases {opening closing : Mark} {phrases : List (List TokenKind)} {k : TokenKind}
    (h : k ∈ enclosed opening closing phrases) : (∃ ts ∈ phrases, k ∈ ts) ∨ k.isMark = true := by
  simp only [enclosed, List.mem_append, List.mem_cons, List.not_mem_nil, or_false] at h
  rcases h with (rfl | h) | rfl
  · exact .inr rfl
  · exact mem_separated_cases h
  · exact .inr rfl

theorem ok_of_isMark {ok : TokenKind → Prop} (hmark : ∀ m, ok (.mark m)) {k : TokenKind} (h : k.isMark = true) : ok k := by
  cases k with
  | mark m => exact hmark m
  | _ => cases h

/-- Grouping an expression adds marks only. -/
theorem ok_of_mem_grouped {ok : TokenKind → Prop} (hmark : ∀ m, ok (.mark m)) {k : TokenKind} (he : ∀ k ∈ e.words, ok k)
    (h : k ∈ grouped limit e e.words) : ok k :=
  (mem_grouped h).elim (he k) (ok_of_isMark hmark)

/-- Listing expressions adds marks only. -/
theorem ok_of_mem_enclosed {ok : TokenKind → Prop} (hmark : ∀ m, ok (.mark m)) {opening closing : Mark} {es : List Expr}
    {k : TokenKind} (hes : ∀ e ∈ es, ∀ k ∈ e.words, ok k) (h : k ∈ enclosed opening closing (phrases es)) : ok k := by
  rcases mem_enclosed_cases h with ⟨ts, hts, hk⟩ | hk
  · rw [phrases_eq_map] at hts
    obtain ⟨e, he, rfl⟩ := List.mem_map.1 hts
    exact hes e he k hk
  · exact ok_of_isMark hmark hk

/-- The words of a binding form are its own word, the names it binds, marks, and words of its parts. -/
theorem ok_of_mem_binding {ok : TokenKind → Prop} (hmark : ∀ m, ok (.mark m)) {form : ControlForm} (hform : ok form.word)
    {args : List Expr} {params : List String} {body : Expr} (hnames : ∀ name ∈ params, ok (.name name))
    (hargs : ∀ e ∈ args, ∀ k ∈ e.words, ok k) (hbody : ∀ k ∈ body.words, ok k) :
    ∀ k ∈ (Expr.control form args (some ⟨params, body⟩)).words, ok k := by
  intro k hk
  rw [words, ← argumentsInOrder_phrases, argumentsInOrder, arguments_phrases] at hk
  rcases List.mem_cons.1 hk with rfl | hk
  · exact hform
  · refine ok_of_mem_enclosed hmark (fun e he => ?_) hk
    simp only [List.mem_append, List.mem_map, List.mem_cons] at he
    rcases he with (he | ⟨name, hname, rfl⟩) | rfl | he
    · exact hargs e (List.mem_of_mem_take he)
    · intro k hk
      obtain rfl := List.mem_singleton.1 hk
      exact hnames name hname
    · exact hbody
    · exact hargs e (List.mem_of_mem_drop he)

/-- The words of a well formed expression are marks, or words of control forms, or tokens out of which it is formed. -/
theorem ok_of_mem_words {ok : TokenKind → Prop} (hmark : ∀ m, ok (.mark m)) (hform : ∀ form : ControlForm, ok form.word)
    (h : e.Formed ok) : ∀ k ∈ e.words, ok k := by
  induction h with
  | literal l hl =>
    intro k hk
    obtain rfl := List.mem_singleton.1 hk
    exact hl
  | var name hname =>
    intro k hk
    obtain rfl := List.mem_singleton.1 hk
    exact hname
  | field name hname _ ih =>
    intro k hk
    simp only [words, List.mem_append, List.mem_cons, List.not_mem_nil, or_false] at hk
    rcases hk with hk | rfl | rfl
    · exact ok_of_mem_grouped hmark ih hk
    · exact hmark _
    · exact hname
  | index _ _ ih ihp =>
    intro k hk
    simp only [words, List.mem_append, List.mem_cons, List.not_mem_nil, or_false] at hk
    rcases hk with (hk | rfl | hk) | rfl
    · exact ok_of_mem_grouped hmark ih hk
    · exact hmark _
    · exact ihp k hk
    · exact hmark _
  | array items _ ih => exact fun k hk => ok_of_mem_enclosed hmark ih hk
  | call name args hname _ _ ih =>
    intro k hk
    rcases List.mem_cons.1 hk with rfl | hk
    · exact hname
    · exact ok_of_mem_enclosed hmark ih hk
  | choice _ _ _ ihc ihy ihn =>
    intro k hk
    rcases List.mem_cons.1 hk with rfl | hk
    · exact hform .if
    · exact ok_of_mem_enclosed hmark (by simp only [List.mem_cons, List.not_mem_nil, or_false, forall_eq_or_imp, forall_eq]; exact ⟨ihc, ihy, ihn⟩) hk
  | binding form args params _ _ _ hnames _ _ ih ihbody => exact ok_of_mem_binding hmark (hform form) hnames ih ihbody
  | unary op _ ih =>
    intro k hk
    rcases List.mem_cons.1 hk with rfl | hk
    · exact hmark _
    · exact ok_of_mem_grouped hmark ih hk
  | binary op _ _ ihl ihr =>
    intro k hk
    simp only [words, List.mem_append, List.mem_cons] at hk
    rcases hk with hk | rfl | hk
    · exact ok_of_mem_grouped hmark ihl hk
    · exact hmark _
    · exact ok_of_mem_grouped hmark ihr hk
  | conditional _ _ _ ihc ihy ihn =>
    intro k hk
    simp only [words, List.mem_append, List.mem_cons] at hk
    rcases hk with (hk | rfl | hk) | rfl | hk
    · exact ok_of_mem_grouped hmark ihc hk
    · exact hmark _
    · exact ihy k hk
    · exact hmark _
    · exact ihn k hk

theorem hasSpelling_word (form : ControlForm) : form.word.HasSpelling := by
  cases form <;> first | trivial | exact ⟨⟨_, _, rfl, by decide +kernel⟩, rfl⟩

end Expr

end CellExpr
