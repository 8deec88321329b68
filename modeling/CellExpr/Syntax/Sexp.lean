import CellExpr.Json.Writer
import CellExpr.Number.Layout
import CellExpr.Syntax.Expr

/-!
# Trees as text

An expression as nested lists in parentheses, the head of each list naming what it is.
-/

namespace CellExpr

/-- A list in parentheses. -/
def sexpList (items : List String) : String := "(" ++ " ".intercalate items ++ ")"

/-- The text of a literal. -/
def Literal.sexp : Literal → String
  | number x => sexpList ["num", Number.text x]
  | string s => sexpList ["str", Json.quote s]
  | boolean b => if b then "true" else "false"
  | null => "null"
  | regex r => sexpList (["regex", Json.quote r.source] ++ if r.ignoreCase then ["i"] else [])

/-- The head of a list with an operator before its operand. -/
def UnaryOp.sexpHead : UnaryOp → String
  | minus => "neg"
  | not => "not"

namespace Expr

mutual

/-- The text of a tree. -/
def sexp : Expr → String
  | literal l => l.sexp
  | var name => sexpList ["var", name]
  | field base name => sexpList ["field", base.sexp, name]
  | index base position => sexpList ["index", base.sexp, position.sexp]
  | array items => sexpList ("array" :: sexps items)
  | call name args => sexpList ("call" :: name :: sexps args)
  | control form args none => sexpList ("control" :: form.name :: sexps args)
  | control form args (some ⟨params, body⟩) =>
    sexpList ("control" :: form.name :: sexps args ++ [sexpList ["lambda", sexpList params, body.sexp]])
  | unary op operand => sexpList [op.sexpHead, operand.sexp]
  | binary op left right => sexpList [op.symbol, left.sexp, right.sexp]
  | conditional condition yes no => sexpList ["?", condition.sexp, yes.sexp, no.sexp]

/-- The texts of some trees. -/
def sexps : List Expr → List String
  | [] => []
  | e :: rest => e.sexp :: sexps rest

end

end Expr

end CellExpr
