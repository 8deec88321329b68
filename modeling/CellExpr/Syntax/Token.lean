/-!
# Tokens

The words of expressions: literals, names, the four words that are no names, operators and punctuation.
-/

namespace CellExpr

/-- A word that is no name. -/
inductive Keyword where
  | true
  | false
  | null
  | if
  deriving DecidableEq, Repr

/-- An operator or a mark of punctuation. -/
inductive Mark where
  | plus
  | minus
  | star
  | slash
  | percent
  | bang
  | question
  | equal
  | notEqual
  | less
  | lessEqual
  | greater
  | greaterEqual
  | both
  | either
  | dot
  | comma
  | colon
  | openParen
  | closeParen
  | openBracket
  | closeBracket
  | openBrace
  | closeBrace
  deriving DecidableEq, Repr

/-- What a token is. -/
inductive TokenKind where
  | number (x : Float)
  | name (s : String)
  | string (s : String)
  | regex (source : String) (ignoreCase : Bool)
  | keyword (k : Keyword)
  | mark (m : Mark)
  /-- The end of the text. -/
  | finish
  deriving Repr

/-- The coarse class of a token. -/
inductive TokenClass where
  | name
  | number
  | string
  | regex
  | operator
  | punctuation
  | keyword
  | finish
  deriving DecidableEq, Repr

/-- Whether a mark is an operator. -/
def Mark.isOperator : Mark → Bool
  | dot | comma | colon | openParen | closeParen | openBracket | closeBracket | openBrace | closeBrace => false
  | _ => true

namespace TokenKind

/-- The class of a kind. -/
def tokenClass : TokenKind → TokenClass
  | number _ => .number
  | name _ => .name
  | string _ => .string
  | regex .. => .regex
  | keyword _ => .keyword
  | mark m => if m.isOperator then .operator else .punctuation
  | finish => .finish

/-- Whether an operand can end with the token: then a slash after it divides. -/
def endsOperand : TokenKind → Bool
  | number _ | name _ | string _ | regex .. => true
  | keyword k => k ≠ .if
  | mark m => m = .closeParen || m = .closeBracket || m = .closeBrace
  | finish => false

end TokenKind

/-- A token: its kind, the characters it was read from, and the position of the first of them. -/
structure Token where
  kind : TokenKind
  lexeme : List Char
  position : Nat
  deriving Repr

namespace Token

/-- The end of a text at a position. -/
def ending (position : Nat) : Token := ⟨.finish, [], position⟩

/-- The position after the last character. -/
def stop (t : Token) : Nat := t.position + t.lexeme.length

/-- What an error shows of a token. -/
def description (t : Token) : String :=
  match t.kind with
  | .finish => "end of expression"
  | _ => String.ofList t.lexeme

end Token

end CellExpr
