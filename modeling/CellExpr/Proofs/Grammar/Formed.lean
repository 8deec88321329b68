import CellExpr.Proofs.Grammar.Derivation

/-!
# The shape of trees

What the trees of derived phrases have in common: every literal and every name in them is one that a token stands for, no
call is named like a control form, and every control form has as many arguments and parameters as it is declared with.
-/

namespace CellExpr

/-- The token that a literal is written as. -/
def Literal.kind : Literal → TokenKind
  | number x => .number x
  | string s => .string s
  | boolean b => .keyword (Keyword.ofBool b)
  | null => .keyword .null
  | regex r => .regex r.source r.ignoreCase

/-- `Formed ok e`: the literals and names in a tree are those of tokens of a sort, and its calls and control forms have the
shapes that they are declared with. -/
inductive Expr.Formed (ok : TokenKind → Prop) : Expr → Prop where
  | literal (l : Literal) (hl : ok l.kind) : Formed ok (.literal l)
  | var (name : String) (hname : ok (.name name)) : Formed ok (.var name)
  | field {base : Expr} (name : String) (hname : ok (.name name)) (hbase : Formed ok base) : Formed ok (.field base name)
  | index {base position : Expr} (hbase : Formed ok base) (hposition : Formed ok position) :
      Formed ok (.index base position)
  | array (items : List Expr) (hitems : ∀ e ∈ items, Formed ok e) : Formed ok (.array items)
  | call (name : String) (args : List Expr) (hname : ok (.name name)) (hform : ∀ form : ControlForm, form.name ≠ name)
      (hargs : ∀ e ∈ args, Formed ok e) : Formed ok (.call name args)
  | choice {condition yes no : Expr} (hcondition : Formed ok condition) (hyes : Formed ok yes) (hno : Formed ok no) :
      Formed ok (.control .if [condition, yes, no] none)
  | binding (form : ControlForm) (args : List Expr) (params : List String) {body : Expr} (hform : 0 < form.trailing)
      (hlength : args.length + 1 = form.leading + form.trailing) (hparams : params.length = form.parameters)
      (hnames : ∀ name ∈ params, ok (.name name)) (hargs : ∀ e ∈ args, Formed ok e) (hbody : Formed ok body) :
      Formed ok (.control form args (some ⟨params, body⟩))
  | unary (op : UnaryOp) {operand : Expr} (h : Formed ok operand) : Formed ok (.unary op operand)
  | binary (op : BinaryOp) {left right : Expr} (hleft : Formed ok left) (hright : Formed ok right) :
      Formed ok (.binary op left right)
  | conditional {condition yes no : Expr} (hcondition : Formed ok condition) (hyes : Formed ok yes)
      (hno : Formed ok no) : Formed ok (.conditional condition yes no)

variable {ok : TokenKind → Prop}

/-- What a name with arguments stands for is formed if the name and the arguments are. -/
theorem CallOf.formed {name : String} {args : List Expr} {e : Expr} (h : CallOf name args e)
    (hname : (∀ form : ControlForm, form.name ≠ name) → ok (.name name)) (hargs : ∀ a ∈ args, a.Formed ok) : e.Formed ok := by
  cases h with
  | function _ hform => exact .call name args (hname hform) hform hargs
  | choice condition yes no => exact .choice (hargs _ (by simp)) (hargs _ (by simp)) (hargs _ (by simp))
  | binding form before params body after hbefore hparams hafter =>
    refine .binding form (before ++ after) params (by omega) (by rw [List.length_append]; omega) hparams
      (fun name hname => ?_) (fun e he => hargs e ?_) (hargs _ (by simp))
    · have hvar : Expr.Formed ok (.var name) := hargs _ (by simp [hname])
      cases hvar with
      | var _ hname => exact hname
    · rcases List.mem_append.1 he with he | he <;> simp [he]

theorem mem_separated {phrases : List (List TokenKind)} {ts : List TokenKind} {k : TokenKind} (hts : ts ∈ phrases)
    (hk : k ∈ ts) : k ∈ separated phrases := by
  induction phrases with
  | nil => cases hts
  | cons us phrases ih =>
    cases phrases with
    | nil =>
      obtain rfl := List.mem_singleton.1 hts
      exact hk
    | cons vs phrases =>
      rw [separated, List.mem_append, List.mem_cons]
      · rcases List.mem_cons.1 hts with rfl | hts
        · exact .inl hk
        · exact .inr (.inr (ih hts))
      · nofun

theorem length_le_of_mem_separated {phrases : List (List TokenKind)} {ts : List TokenKind} (hts : ts ∈ phrases) :
    ts.length ≤ (separated phrases).length := by
  induction phrases with
  | nil => cases hts
  | cons us phrases ih =>
    cases phrases with
    | nil =>
      obtain rfl := List.mem_singleton.1 hts
      exact Nat.le_refl _
    | cons vs phrases =>
      rw [separated, List.length_append, List.length_cons]
      · rcases List.mem_cons.1 hts with rfl | hts
        · omega
        · have := ih hts
          omega
      · nofun

theorem mem_enclosed {opening closing : Mark} {args : Arguments} {a : List TokenKind × Expr} {k : TokenKind} (ha : a ∈ args)
    (hk : k ∈ a.1) : k ∈ enclosed opening closing args.phrases := by
  have hmem : k ∈ separated args.phrases := mem_separated (List.mem_map_of_mem ha) hk
  simp [enclosed, hmem]

/-- The trees of arguments are formed if those of the arguments one by one are. -/
theorem Arguments.formed {args : Arguments} (h : ∀ a ∈ args, a.2.Formed ok) : ∀ e ∈ args.trees, e.Formed ok := by
  intro e he
  obtain ⟨a, ha, rfl⟩ := List.mem_map.1 he
  exact h a ha

/-- The tree of a phrase is formed out of the tokens of the phrase. -/
theorem Derives.formed {p : Phrase} {n : Nat} {ts : List TokenKind} {e : Expr} (h : Derives p n ts e)
    (hts : ∀ k ∈ ts, ok k) : e.Formed ok := by
  induction h with
  | plain _ ih | tighter _ _ ih | operand _ ih | unsigned _ ih | bare _ ih => exact ih hts
  | conditional _ _ _ ihc ihy ihn =>
    simp only [List.mem_append, List.mem_cons] at hts
    exact .conditional (ihc fun k hk => hts k (.inl (.inl hk))) (ihy fun k hk => hts k (.inl (.inr (.inr hk))))
      (ihn fun k hk => hts k (.inr (.inr hk)))
  | chain op _ _ ihl ihr =>
    simp only [List.mem_append, List.mem_cons] at hts
    exact .binary op (ihl fun k hk => hts k (.inl hk)) (ihr fun k hk => hts k (.inr (.inr hk)))
  | signed op _ ih => exact .unary op (ih fun k hk => hts k (List.mem_cons_of_mem _ hk))
  | field name _ ih => exact .field name (hts _ (by simp)) (ih fun k hk => hts k (List.mem_append_left _ hk))
  | method name args _ _ hcall ih ihargs =>
    refine hcall.formed (fun _ => hts _ (by simp)) fun e he => ?_
    rcases List.mem_cons.1 he with rfl | he
    · exact ih fun k hk => hts k (List.mem_append_left _ hk)
    · refine Arguments.formed (fun a ha => ihargs a ha fun k hk => hts k ?_) e he
      exact List.mem_append_right _ (List.mem_cons_of_mem _ (List.mem_cons_of_mem _ (mem_enclosed ha hk)))
  | index _ _ ih ihp =>
    simp only [List.mem_append, List.mem_cons] at hts
    exact .index (ih fun k hk => hts k (.inl (.inl hk))) (ihp fun k hk => hts k (.inl (.inr (.inr hk))))
  | call name args _ hcall ih =>
    refine hcall.formed (fun _ => hts _ List.mem_cons_self) (Arguments.formed fun a ha => ih a ha fun k hk => hts k ?_)
    exact List.mem_cons_of_mem _ (mem_enclosed ha hk)
  | choice args _ hcall ih =>
    refine hcall.formed (fun hform => absurd rfl (hform .if)) (Arguments.formed fun a ha => ih a ha fun k hk => hts k ?_)
    exact List.mem_cons_of_mem _ (mem_enclosed ha hk)
  | group _ ih =>
    simp only [List.mem_append, List.mem_cons] at hts
    exact ih fun k hk => hts k (.inl (.inr hk))
  | array items _ ih => exact .array _ (Arguments.formed fun a ha => ih a ha fun k hk => hts k (mem_enclosed ha hk))
  | var name => exact .var name (hts _ List.mem_cons_self)
  | number | string | regex | boolean | null => exact .literal _ (hts _ List.mem_cons_self)

/-- Trees whose literals and names are of two sorts at once. -/
theorem Expr.Formed.and {ok' : TokenKind → Prop} {e : Expr} (h : e.Formed ok) (h' : e.Formed ok') :
    e.Formed fun k => ok k ∧ ok' k := by
  induction h with
  | literal l hl => cases h' with | literal _ hl' => exact .literal l ⟨hl, hl'⟩
  | var name hname => cases h' with | var _ hname' => exact .var name ⟨hname, hname'⟩
  | field name hname _ ih => cases h' with | field _ hname' hbase => exact .field name ⟨hname, hname'⟩ (ih hbase)
  | index _ _ ih ihp => cases h' with | index hbase hposition => exact .index (ih hbase) (ihp hposition)
  | array items _ ih => cases h' with | array _ hitems => exact .array items fun e he => ih e he (hitems e he)
  | call name args hname hform _ ih =>
    cases h' with
    | call _ _ hname' _ hargs => exact .call name args ⟨hname, hname'⟩ hform fun e he => ih e he (hargs e he)
  | choice _ _ _ ihc ihy ihn => cases h' with | choice hc hy hn => exact .choice (ihc hc) (ihy hy) (ihn hn)
  | binding form args params hform hlength hparams hnames _ _ ih ihbody =>
    cases h' with
    | binding _ _ _ _ _ _ hnames' hargs hbody =>
      exact .binding form args params hform hlength hparams (fun name hn => ⟨hnames name hn, hnames' name hn⟩)
        (fun e he => ih e he (hargs e he)) (ihbody hbody)
  | unary op _ ih => cases h' with | unary _ h => exact .unary op (ih h)
  | binary op _ _ ihl ihr => cases h' with | binary _ hl hr => exact .binary op (ihl hl) (ihr hr)
  | conditional _ _ _ ihc ihy ihn =>
    cases h' with
    | conditional hc hy hn => exact .conditional (ihc hc) (ihy hy) (ihn hn)

end CellExpr
