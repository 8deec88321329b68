import CellExpr.Pattern.Regex

/-!
# Syntax errors

Why a text is not an expression, where that shows, and what stands there.
-/

namespace CellExpr

/-- Why a text is not an expression. -/
inductive SyntaxFault where
  | unexpectedCharacter
  | invalidNumber
  | invalidEscape
  | unterminatedString
  | unterminatedRegex
  | invalidPattern (fault : PatternFault)
  | tooDeep
  | missingOperand
  /-- The text ends where an operand has to stand. -/
  | missingLastOperand
  | missingEnd
  | missingColon
  | missingClosingParen
  | missingOpeningParen
  | missingIndexEnd
  | missingItemEnd
  | missingArgumentEnd
  | missingFieldName
  | missingArguments
  | wrongArgumentCount (form : String) (expected count : Nat)
  | missingParameter (form : String) (position : Nat)
  deriving DecidableEq, Repr

/-- The wording of a fault. -/
def SyntaxFault.message : SyntaxFault → String
  | unexpectedCharacter => "Unexpected character"
  | invalidNumber => "Invalid number"
  | invalidEscape => "Invalid unicode escape"
  | unterminatedString => "Unterminated string literal"
  | unterminatedRegex => "Unterminated regular expression"
  | invalidPattern fault => "Invalid regular expression: " ++ fault.message
  | tooDeep => "Expression nested too deeply"
  | missingOperand => "Expected an operand (literal, identifier, '(' or '[')"
  | missingLastOperand => "Unexpected end of expression, expected an operand"
  | missingEnd => "Expected end of expression"
  | missingColon => "Expected ':' in ternary expression"
  | missingClosingParen => "Expected ')'"
  | missingOpeningParen => "Expected '('"
  | missingIndexEnd => "Expected ']' to close index"
  | missingItemEnd => "Expected ',' or ']' in array"
  | missingArgumentEnd => "Expected ',' or ')' in argument list"
  | missingFieldName => "Expected identifier after '.'"
  | missingArguments => "Expected '(' after 'if'"
  | wrongArgumentCount form expected count => s!"{form} expects {expected} arguments, got {count}"
  | missingParameter form position => s!"{form} expects a variable name as argument {position}"

/-- A fault at a position, which counts characters from 0, and what was found there. -/
structure SyntaxError where
  fault : SyntaxFault
  position : Nat
  found : Option String := none
  deriving DecidableEq, Repr

namespace SyntaxError

/-- The message of a syntax error. -/
def message (e : SyntaxError) : String := e.fault.message

/-- The text of a syntax error: message, what was found, and position. -/
def text (e : SyntaxError) : String :=
  match e.found with
  | some found => e.message ++ " (found '" ++ found ++ "') at position " ++ toString e.position
  | none => e.message ++ " at position " ++ toString e.position

/-- The same error so many characters further on. -/
def shift (e : SyntaxError) (count : Nat) : SyntaxError := { e with position := e.position + count }

end SyntaxError

end CellExpr
