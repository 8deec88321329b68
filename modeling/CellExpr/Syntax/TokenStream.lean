import CellExpr.Number.Reading
import CellExpr.Syntax.Error
import CellExpr.Syntax.Token
import CellExpr.Text.Alphabet
import CellExpr.Text.Blank

/-!
# Token streams

The tokens of a text, from left to right. Blank characters and comments between tokens are passed over. A token takes as
many characters as it can; whether a slash divides or begins a regular expression depends on the token before it.
-/

namespace CellExpr

open CellExpr.Text CellExpr.Number

/-- Where the reader of tokens stands in a text. -/
structure TokenCursor where
  rest : List Char
  position : Nat := 0
  /-- Whether an operand ends here. -/
  afterOperand : Bool := false

namespace TokenCursor

/-- The blank characters and comments at the start of a text are so many characters. A comment runs from `#` to the end of
the line. -/
def gapLength : (inComment : Bool) → List Char → Nat
  | _, [] => 0
  | true, c :: rest => gapLength (c != '\n') rest + 1
  | false, c :: rest =>
    if isBlank c then gapLength false rest + 1
    else if c = '#' then gapLength true rest + 1
    else 0

/-- The number of digits that come next. -/
def digitRun (s : List Char) : Nat := (s.takeWhile isDigit).length

/-- The point and the digits after it, if there is one digit at least. -/
def fractionRun : List Char → Nat
  | '.' :: rest => if digitRun rest = 0 then 0 else digitRun rest + 1
  | _ => 0

/-- The exponent, if it has one digit at least. -/
def exponentRun : List Char → Nat
  | c :: rest =>
    if c = 'e' ∨ c = 'E' then
      match rest with
      | sign :: digits =>
        if sign = '+' ∨ sign = '-' then (if digitRun digits = 0 then 0 else digitRun digits + 2)
        else if digitRun rest = 0 then 0 else digitRun rest + 1
      | [] => 0
    else 0
  | [] => 0

/-- How far a number goes on after its first character, a digit or a point. -/
def numberRun (rest : List Char) : Nat :=
  let whole := digitRun rest
  let fraction := fractionRun (rest.drop whole)
  whole + fraction + exponentRun (rest.drop (whole + fraction))

/-- Whether a character goes on with a name. -/
def isNamePart (c : Char) : Bool := isAlphanumeric c || c = '_'

/-- A name or a word that is none. -/
def wordKind (word : String) : TokenKind :=
  match word with
  | "true" => .keyword .true
  | "false" => .keyword .false
  | "null" => .keyword .null
  | "if" => .keyword .if
  | _ => .name word

/-- The character that an escape in a string stands for, apart from those by code. -/
def unescape (c : Char) : Char :=
  match c with
  | 'n' => '\n'
  | 't' => '\t'
  | 'r' => '\r'
  | _ => c

/-- The value of a hexadecimal digit. -/
def hexDigit? (c : Char) : Option Nat :=
  if isDigit c then some (c.toNat - '0'.toNat)
  else if 'a' ≤ c ∧ c ≤ 'f' then some (c.toNat - 'a'.toNat + 10)
  else if 'A' ≤ c ∧ c ≤ 'F' then some (c.toNat - 'A'.toNat + 10)
  else none

/-- The value of hexadecimal digits. -/
def hexNumber? (digits : List Char) : Option Nat :=
  digits.foldlM (fun n c => (hexDigit? c).map fun d => 16 * n + d) 0

/-- The character with a code in hexadecimal digits, before which there may be a plus sign. -/
def codeChar? (code : List Char) : Option Char :=
  let digits := match code with
    | '+' :: digits => digits
    | digits => digits
  if digits.isEmpty then none
  else (hexNumber? digits).bind fun n =>
    if n < 0xD800 ∨ (0xDFFF < n ∧ n < 0x110000) then some (Char.ofNat n) else none

/-- How a string goes on after its opening quote: what it reads as, or at which character from here an escape is at fault
and what it is, or that it does not end; and how many characters that takes. -/
inductive StringRun where
  | closed (content : List Char) (length : Nat)
  | badEscape (place : Nat) (code : List Char) (length : Nat)
  | unclosed (length : Nat)

/-- The run with a character before it that takes up some places. -/
def StringRun.push (c : Char) (places : Nat) : StringRun → StringRun
  | closed content length => closed (c :: content) (length + places)
  | badEscape place code length => badEscape (place + places) code (length + places)
  | unclosed length => unclosed (length + places)

/-- The run after a code, of which so many characters were there. -/
def StringRun.afterCode (code : List Char) (run : StringRun) : StringRun :=
  match codeChar? code with
  | some c => run.push c (code.length + 2)
  | none => .badEscape 0 code (code.length + 2)

/-- Reads a string after its opening quote. A code has four characters, or what is left of the text. -/
def stringRun (quote : Char) : List Char → StringRun
  | [] => .unclosed 0
  | ['\\'] => .unclosed 1
  | '\\' :: 'u' :: a :: b :: c :: d :: rest => (stringRun quote rest).afterCode [a, b, c, d]
  | '\\' :: 'u' :: code => StringRun.afterCode code (.unclosed 0)
  | '\\' :: c :: rest => (stringRun quote rest).push (unescape c) 2
  | c :: rest => if c = quote then .closed [] 1 else (stringRun quote rest).push c 1

/-- The source of a regular expression after its opening slash, and how many characters it takes, the closing slash among
them. A slash in it has a backslash before it. -/
def regexRun : List Char → Except Nat (List Char × Nat)
  | [] => .error 0
  | '/' :: _ => .ok ([], 1)
  | ['\\'] => .error 1
  | '\\' :: c :: rest =>
    match regexRun rest with
    | .ok (source, length) => .ok (if c = '/' then '/' :: source else '\\' :: c :: source, length + 2)
    | .error length => .error (length + 2)
  | c :: rest =>
    match regexRun rest with
    | .ok (source, length) => .ok (c :: source, length + 1)
    | .error length => .error (length + 1)

/-- The mark that is one character. -/
def singleMark? (c : Char) : Option Mark :=
  match c with
  | '/' => some .slash
  | '+' => some .plus
  | '-' => some .minus
  | '*' => some .star
  | '%' => some .percent
  | '?' => some .question
  | '!' => some .bang
  | '<' => some .less
  | '>' => some .greater
  | '.' => some .dot
  | ',' => some .comma
  | ':' => some .colon
  | '(' => some .openParen
  | ')' => some .closeParen
  | '[' => some .openBracket
  | ']' => some .closeBracket
  | '\x7b' => some .openBrace
  | '\x7d' => some .closeBrace
  | _ => none

/-- The mark that is two characters. -/
def doubleMark? (first second : Char) : Option Mark :=
  match first, second with
  | '!', '=' => some .notEqual
  | '<', '=' => some .lessEqual
  | '>', '=' => some .greaterEqual
  | '=', '=' => some .equal
  | '&', '&' => some .both
  | '|', '|' => some .either
  | _, _ => none

/-- The mark that a character begins, and how many characters after it belong to it. -/
def markRun (c : Char) (rest : List Char) : Option (Mark × Nat) :=
  match rest.head?.bind (doubleMark? c) with
  | some m => some (m, 1)
  | none => (singleMark? c).map (·, 0)

/-- The token that begins with a character at a position, and how many characters after the first belong to it. -/
def tokenRun (afterOperand : Bool) (start : Nat) (c : Char) (rest : List Char) : Except SyntaxError TokenKind × Nat :=
  if isDigit c ∨ (c = '.' ∧ !afterOperand ∧ digitRun rest ≠ 0) then
    let length := numberRun rest
    let lexeme := c :: rest.take length
    match Number.read? lexeme with
    | some x => (.ok (.number x), length)
    | none => (.error ⟨.invalidNumber, start, some (String.ofList lexeme)⟩, length)
  else if isAlphabetic c ∨ c = '_' then
    let tail := rest.takeWhile isNamePart
    (.ok (wordKind (String.ofList (c :: tail))), tail.length)
  else if c = '"' ∨ c = '\x27' then
    match stringRun c rest with
    | .closed content length => (.ok (.string (String.ofList content)), length)
    | .badEscape place code length =>
      (.error ⟨.invalidEscape, start + 1 + place, some (String.ofList ('\\' :: 'u' :: code))⟩, length)
    | .unclosed length => (.error ⟨.unterminatedString, start, some c.toString⟩, length)
  else if c = '/' ∧ !afterOperand then
    match regexRun rest with
    | .ok (source, length) =>
      let ignoreCase := (rest.drop length).head? == some 'i'
      (.ok (.regex (String.ofList source) ignoreCase), if ignoreCase then length + 1 else length)
    | .error length => (.error ⟨.unterminatedRegex, start, some "/"⟩, length)
  else match markRun c rest with
    | some (m, length) => (.ok (.mark m), length)
    | none => (.error ⟨.unexpectedCharacter, start, some c.toString⟩, 0)

/-- The cursor after the gap at which it stands. -/
def skipGap (s : TokenCursor) : TokenCursor :=
  let length := gapLength false s.rest
  { s with rest := s.rest.drop length, position := s.position + length }

/-- The next token or error, and the cursor after the characters it took. At the end there is the same token for ever. -/
def next (s : TokenCursor) : Except SyntaxError Token × TokenCursor :=
  let s := s.skipGap
  match s.rest with
  | [] => (.ok (.ending s.position), s)
  | c :: rest =>
    let (kind, length) := tokenRun s.afterOperand s.position c rest
    let after : TokenCursor := { s with rest := rest.drop length, position := s.position + 1 + length }
    match kind with
    | .ok kind =>
      (.ok ⟨kind, c :: rest.take length, s.position⟩, { after with afterOperand := kind.endsOperand })
    | .error e => (.error e, after)

end TokenCursor

/-- Tokens as they come, the last one perhaps an error. -/
abbrev TokenStream := List (Except SyntaxError Token)

namespace TokenStream

/-- The tokens from a cursor on, up to the end of the text or the first error. `fuel` is more than the characters left. -/
def fromCursor : (fuel : Nat) → TokenCursor → TokenStream
  | 0, _ => []
  | fuel + 1, s =>
    match s.next with
    | (.error e, _) => [.error e]
    | (.ok t, after) =>
      match t.kind with
      | .finish => [.ok t]
      | _ => .ok t :: fromCursor fuel after

/-- The tokens of a text. -/
def ofText (text : List Char) : TokenStream := fromCursor (text.length + 1) { rest := text }

/-- The stream of some tokens. -/
def ofTokens (tokens : List Token) : TokenStream := tokens.map .ok

end TokenStream

/-- Tokens handed out one at a time. -/
structure TokenSource where
  cursor : TokenCursor
  /-- Whether the end of the text has been handed out, or an error to one who asks for no more after it. -/
  ended : Bool := false

namespace TokenSource

/-- The tokens of a text. -/
def ofText (text : List Char) : TokenSource := { cursor := { rest := text } }

/-- Whether a token is the end of the text. -/
def isEnd : Except SyntaxError Token → Bool
  | .ok ⟨.finish, _, _⟩ => true
  | _ => false

/-- The next token or error. There always is one: after an error tokens come from where it left off. -/
def read (s : TokenSource) : Except SyntaxError Token × TokenSource :=
  let (token, cursor) := s.cursor.next
  (token, { cursor, ended := s.ended || isEnd token })

/-- The next token or error, unless the end or an error has come before. -/
def next? (s : TokenSource) : Option (Except SyntaxError Token) × TokenSource :=
  if s.ended then (none, s)
  else match s.read with
    | (.ok t, after) => (some (.ok t), after)
    | (.error e, after) => (some (.error e), { after with ended := true })

end TokenSource

/-- The tokens of a text that has no errors in them. The last one is the end. -/
def tokenize (text : List Char) : Except SyntaxError (List Token) := (TokenStream.ofText text).mapM id

end CellExpr
