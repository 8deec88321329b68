import CellExpr.Syntax.Expr
import CellExpr.Syntax.Token

/-!
# Derivations

The grammar of expressions as a relation between the kinds of tokens and trees, apart from any reader. A phrase is derived
with a number of levels that may be open in it: an expression opens one, and so does an operator before an operand.

The ladder of operators has six rungs, the loosest first; what stands on the seventh is an operand with the operators
before it.
-/

namespace CellExpr

/-! ## Operators and their marks -/

namespace BinaryOp

/-- The rung of an operator. -/
def rank : BinaryOp → Nat
  | or => 0
  | and => 1
  | eq | ne => 2
  | gt | lt | ge | le => 3
  | add | sub => 4
  | mul | div | mod => 5

/-- The mark that stands for an operator. -/
def mark : BinaryOp → Mark
  | or => .either
  | and => .both
  | eq => .equal
  | ne => .notEqual
  | gt => .greater
  | lt => .less
  | ge => .greaterEqual
  | le => .lessEqual
  | add => .plus
  | sub => .minus
  | mul => .star
  | div => .slash
  | mod => .percent

/-- The rung below the last operators, where operands stand. -/
def rungs : Nat := 6

theorem rank_lt (op : BinaryOp) : op.rank < rungs := by
  cases op <;> decide

end BinaryOp

/-- The mark that stands for an operator before its operand. -/
def UnaryOp.mark : UnaryOp → Mark
  | minus => .minus
  | not => .bang

/-- The word for a truth value. -/
def Keyword.ofBool (b : Bool) : Keyword := if b then .true else .false

/-! ## Calls -/

/-- What a name with arguments stands for: the call of a function, or a control form in its shape. The parameters of a
control form are arguments that are plain variables; the body follows them, and after it the fallback, if the form has
one. -/
inductive CallOf : String → List Expr → Expr → Prop where
  | function {name : String} (args : List Expr) (hname : ∀ form : ControlForm, form.name ≠ name) :
      CallOf name args (.call name args)
  | choice (condition yes no : Expr) :
      CallOf ControlForm.if.name [condition, yes, no] (.control .if [condition, yes, no] none)
  | binding (form : ControlForm) (before : List Expr) (params : List String) (body : Expr) (after : List Expr)
      (hbefore : before.length = form.leading) (hparams : params.length = form.parameters)
      (hafter : after.length + 1 = form.trailing) :
      CallOf form.name (before ++ params.map .var ++ body :: after)
        (.control form (before ++ after) (some ⟨params, body⟩))

/-! ## Phrases -/

/-- The sorts of phrases. -/
inductive Phrase where
  | expr
  /-- Operands and operators of a rung and of those below it. -/
  | rung (k : Nat)
  /-- An operand with operators before it. -/
  | unary
  /-- An operand with what follows it. -/
  | suffixed
  | atom
  deriving DecidableEq, Repr

/-- Phrases with commas between them. -/
def separated : List (List TokenKind) → List TokenKind
  | [] => []
  | [ts] => ts
  | ts :: rest => ts ++ .mark .comma :: separated rest

/-- Phrases with commas between them, in a pair of marks. -/
def enclosed (opening closing : Mark) (phrases : List (List TokenKind)) : List TokenKind :=
  .mark opening :: separated phrases ++ [.mark closing]

/-- A list of arguments: each argument is a phrase with its tree. -/
abbrev Arguments := List (List TokenKind × Expr)

namespace Arguments

/-- The tokens of the arguments, each apart. -/
def phrases (args : Arguments) : List (List TokenKind) := args.map (·.1)

/-- The trees of the arguments. -/
def trees (args : Arguments) : List Expr := args.map (·.2)

end Arguments

/-- `Derives p n ts e`: the tokens are a phrase of a sort with the tree `e`, in which at most `n` levels are open at once. -/
inductive Derives : Phrase → Nat → List TokenKind → Expr → Prop where
  | plain {n ts e} (h : Derives (.rung 0) n ts e) : Derives .expr (n + 1) ts e
  | conditional {n cs c ys y ns no} (hc : Derives (.rung 0) n cs c) (hy : Derives .expr n ys y)
      (hn : Derives .expr n ns no) :
      Derives .expr (n + 1) (cs ++ .mark .question :: ys ++ .mark .colon :: ns) (.conditional c y no)
  | tighter {n k ts e} (hk : k < BinaryOp.rungs) (h : Derives (.rung (k + 1)) n ts e) : Derives (.rung k) n ts e
  | chain {n ls l rs r} (op : BinaryOp) (hl : Derives (.rung op.rank) n ls l)
      (hr : Derives (.rung (op.rank + 1)) n rs r) :
      Derives (.rung op.rank) n (ls ++ .mark op.mark :: rs) (.binary op l r)
  | operand {n ts e} (h : Derives .unary n ts e) : Derives (.rung BinaryOp.rungs) n ts e
  | signed {n ts e} (op : UnaryOp) (h : Derives .unary n ts e) :
      Derives .unary (n + 1) (.mark op.mark :: ts) (.unary op e)
  | unsigned {n ts e} (h : Derives .suffixed n ts e) : Derives .unary n ts e
  | bare {n ts e} (h : Derives .atom n ts e) : Derives .suffixed n ts e
  | field {n ts e} (name : String) (h : Derives .suffixed n ts e) :
      Derives .suffixed n (ts ++ [.mark .dot, .name name]) (.field e name)
  | method {n ts base e} (name : String) (args : Arguments) (h : Derives .suffixed n ts base)
      (hargs : ∀ a ∈ args, Derives .expr n a.1 a.2) (hcall : CallOf name (base :: args.trees) e) :
      Derives .suffixed n (ts ++ .mark .dot :: .name name :: enclosed .openParen .closeParen args.phrases) e
  | index {n ts base ps position} (h : Derives .suffixed n ts base) (hp : Derives .expr n ps position) :
      Derives .suffixed n (ts ++ .mark .openBracket :: ps ++ [.mark .closeBracket]) (.index base position)
  | number {n} (x : Float) : Derives .atom n [.number x] (.literal (.number x))
  | string {n} (s : String) : Derives .atom n [.string s] (.literal (.string s))
  | regex {n} (r : Regex) : Derives .atom n [.regex r.source r.ignoreCase] (.literal (.regex r))
  | boolean {n} (b : Bool) : Derives .atom n [.keyword (Keyword.ofBool b)] (.literal (.boolean b))
  | null {n} : Derives .atom n [.keyword .null] (.literal .null)
  | var {n} (name : String) : Derives .atom n [.name name] (.var name)
  | call {n e} (name : String) (args : Arguments) (hargs : ∀ a ∈ args, Derives .expr n a.1 a.2)
      (hcall : CallOf name args.trees e) :
      Derives .atom n (.name name :: enclosed .openParen .closeParen args.phrases) e
  | choice {n e} (args : Arguments) (hargs : ∀ a ∈ args, Derives .expr n a.1 a.2)
      (hcall : CallOf ControlForm.if.name args.trees e) :
      Derives .atom n (.keyword .if :: enclosed .openParen .closeParen args.phrases) e
  | group {n ts e} (h : Derives .expr n ts e) : Derives .atom n (.mark .openParen :: ts ++ [.mark .closeParen]) e
  | array {n} (items : Arguments) (hitems : ∀ a ∈ items, Derives .expr n a.1 a.2) :
      Derives .atom n (enclosed .openBracket .closeBracket items.phrases) (.array items.trees)

/-! ## How phrases begin -/

/-- Whether an operand without operators before it can begin with a token. -/
def TokenKind.beginsAtom : TokenKind → Bool
  | .number _ | .string _ | .regex .. | .keyword _ | .name _ | .mark .openParen | .mark .openBracket => true
  | _ => false

/-- Whether an expression can begin with a token. -/
def TokenKind.beginsExpr : TokenKind → Bool
  | .mark .minus | .mark .bang => true
  | k => k.beginsAtom

theorem TokenKind.beginsExpr_of_beginsAtom {k : TokenKind} (h : k.beginsAtom = true) : k.beginsExpr = true := by
  unfold TokenKind.beginsExpr
  split <;> first | rfl | exact h

/-- Whether a phrase of a sort can begin with a token. -/
def Phrase.begins : Phrase → TokenKind → Bool
  | suffixed, k | atom, k => k.beginsAtom
  | _, k => k.beginsExpr

/-- A phrase is not empty, and its first token is one that an expression can begin with; an atom and an operand with what
follows it do not begin with an operator. -/
theorem Derives.head {p : Phrase} {n : Nat} {ts : List TokenKind} {e : Expr} (h : Derives p n ts e) :
    ∃ k rest, ts = k :: rest ∧ p.begins k = true := by
  induction h with
  | plain _ ih | tighter _ _ ih | operand _ ih | bare _ ih => exact ih
  | unsigned _ ih =>
    obtain ⟨k, rest, rfl, hk⟩ := ih
    exact ⟨k, rest, rfl, TokenKind.beginsExpr_of_beginsAtom hk⟩
  | conditional _ _ _ ih _ _ | chain _ _ _ ih _ | field _ _ ih | method _ _ _ _ _ ih _ | index _ _ ih _ =>
    obtain ⟨k, rest, rfl, hk⟩ := ih
    exact ⟨k, _, rfl, hk⟩
  | signed op => cases op <;> exact ⟨_, _, rfl, rfl⟩
  | _ => exact ⟨_, _, rfl, rfl⟩

end CellExpr
