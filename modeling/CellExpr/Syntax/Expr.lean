import CellExpr.Pattern.Regex

/-!
# Expressions

The trees of expressions. Calls are bound to functions by name when they are evaluated; control forms are part of the
language, and some of them have a body with parameters of its own.
-/

namespace CellExpr

/-- A literal. -/
inductive Literal where
  | number (x : Float)
  | string (s : String)
  | boolean (b : Bool)
  | null
  | regex (r : Regex)

/-- A control form. -/
inductive ControlForm where
  /-- `if(condition, then, else)` -/
  | if
  /-- `with(value, v, body)` -/
  | with
  /-- `forEach(array, v, body)` -/
  | forEach
  /-- `forEachIndex(array, i, v, body)` -/
  | forEachIndex
  /-- `forRange(from, to, step, v, body)` -/
  | forRange
  /-- `filter(array, v, condition)` -/
  | filter
  /-- `forNonBlank(value, v, body, fallback)` -/
  | forNonBlank
  deriving DecidableEq, Repr

namespace ControlForm

/-- All control forms. -/
def all : List ControlForm := [.if, .with, .forEach, .forEachIndex, .forRange, .filter, .forNonBlank]

/-- The name under which a form is called. -/
def name : ControlForm → String
  | .if => "if"
  | .with => "with"
  | .forEach => "forEach"
  | .forEachIndex => "forEachIndex"
  | .forRange => "forRange"
  | .filter => "filter"
  | .forNonBlank => "forNonBlank"

/-- The form that is called under a name. -/
def ofName? (name : String) : Option ControlForm := all.find? (·.name == name)

/-- How many arguments stand before the parameters. -/
def leading : ControlForm → Nat
  | .if | .forRange => 3
  | _ => 1

/-- How many parameters the body has. -/
def parameters : ControlForm → Nat
  | .if => 0
  | .forEachIndex => 2
  | _ => 1

/-- How many arguments follow the parameters: the body, and for one form what is evaluated in its place. -/
def trailing : ControlForm → Nat
  | .if => 0
  | .forNonBlank => 2
  | _ => 1

/-- How many arguments the form is written with. -/
def arity (f : ControlForm) : Nat := f.leading + f.parameters + f.trailing

end ControlForm

/-- An operator before its operand. -/
inductive UnaryOp where
  | minus
  | not
  deriving DecidableEq, Repr

/-- An operator between its operands. -/
inductive BinaryOp where
  | add
  | sub
  | mul
  | div
  | mod
  | gt
  | lt
  | ge
  | le
  | eq
  | ne
  | and
  | or
  deriving DecidableEq, Repr

/-- All operators between operands. -/
def BinaryOp.all : List BinaryOp := [add, sub, mul, div, mod, gt, lt, ge, le, eq, ne, and, or]

/-- How an operator is written. -/
def BinaryOp.symbol : BinaryOp → String
  | add => "+"
  | sub => "-"
  | mul => "*"
  | div => "/"
  | mod => "%"
  | gt => ">"
  | lt => "<"
  | ge => ">="
  | le => "<="
  | eq => "=="
  | ne => "!="
  | and => "&&"
  | or => "||"

/-- A body with parameters. -/
structure Lambda (α : Type) where
  params : List String
  body : α

/-- An expression. -/
inductive Expr where
  | literal (l : Literal)
  | var (name : String)
  | field (base : Expr) (name : String)
  | index (base position : Expr)
  | array (items : List Expr)
  | call (name : String) (args : List Expr)
  /-- A control form. The arguments are those outside the parameters and the body. -/
  | control (form : ControlForm) (args : List Expr) (body : Option (Lambda Expr))
  | unary (op : UnaryOp) (operand : Expr)
  | binary (op : BinaryOp) (left right : Expr)
  | conditional (condition yes no : Expr)

instance : Inhabited Expr := ⟨.literal .null⟩

end CellExpr
