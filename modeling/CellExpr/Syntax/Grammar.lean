import CellExpr.Syntax.Expr
import CellExpr.Syntax.TokenStream

/-!
# The grammar of expressions

Tokens are read from left to right with one token of sight, each level of operators built from the next tighter one. At
most 128 expressions and operators before an operand are open at once. Of a wrong text the first token that fits nothing
is reported.
-/

namespace CellExpr

/-- How many levels may be open at once. -/
def maxNesting : Nat := 128

/-- Where a reader stands: the token in sight and those after it. -/
structure TokenView where
  current : Token
  rest : TokenStream

/-- Reads a part of an expression. -/
abbrev TokenReader := StateT TokenView (Except SyntaxError)

namespace TokenReader

/-- The next token of a stream; after its last one the text ends at a position. -/
def pull (stop : Nat) : TokenStream → Except SyntaxError TokenView
  | [] => .ok ⟨.ending stop, []⟩
  | .ok t :: rest => .ok ⟨t, rest⟩
  | .error e :: _ => .error e

/-- The kind of the token in sight. -/
def peek : TokenReader TokenKind := return (← get).current.kind

/-- Passes the token in sight. -/
def bump : TokenReader Token := do
  let s ← get
  set (← (pull s.current.stop s.rest : Except SyntaxError TokenView))
  return s.current

/-- Reports the token in sight. -/
def fail {α : Type} (fault : SyntaxFault) : TokenReader α := do
  let t := (← get).current
  throw ⟨fault, t.position, some t.description⟩

/-- Passes a mark that has to come next. -/
def expect (m : Mark) (fault : SyntaxFault) : TokenReader Unit := do
  match ← peek with
  | .mark n => if n = m then discard bump else fail fault
  | _ => fail fault

/-- Whether a mark is in sight. -/
def sees (m : Mark) : TokenReader Bool := do
  match ← peek with
  | .mark n => return n = m
  | _ => return false

/-! ## Operators -/

/-- A level of operators: which marks stand for which operators. -/
abbrev Operators := Mark → Option BinaryOp

/-- Operands of the next tighter level after the first one, joined from the left. `fuel` is the number of tokens left. -/
def chainFrom (operators : Operators) (operand : TokenReader Expr) : (fuel : Nat) → Expr → TokenReader Expr
  | 0, left => return left
  | fuel + 1, left => do
    match ← peek with
    | .mark m =>
      match operators m with
      | some op =>
        discard bump
        let right ← operand
        chainFrom operators operand fuel (.binary op left right)
      | none => return left
    | _ => return left

/-- Operands of the next tighter level, joined from the left. -/
def chain (fuel : Nat) (operators : Operators) (operand : TokenReader Expr) : TokenReader Expr := do
  chainFrom operators operand fuel (← operand)

/-- The levels of operators, the loosest first. -/
def levels : List Operators := [
  fun m => match m with | .either => some .or | _ => none,
  fun m => match m with | .both => some .and | _ => none,
  fun m => match m with | .equal => some .eq | .notEqual => some .ne | _ => none,
  fun m => match m with
    | .greater => some .gt | .less => some .lt | .greaterEqual => some .ge | .lessEqual => some .le | _ => none,
  fun m => match m with | .plus => some .add | .minus => some .sub | _ => none,
  fun m => match m with | .star => some .mul | .slash => some .div | .percent => some .mod | _ => none]

/-- Operands with all operators between them. -/
def binary (fuel : Nat) (unary : TokenReader Expr) : TokenReader Expr := levels.foldr (chain fuel) unary

/-- An expression: operands and operators, or a condition with two cases. -/
def conditional (fuel : Nat) (expr unary : TokenReader Expr) : TokenReader Expr := do
  let condition ← binary fuel unary
  if ← sees .question then
    discard bump
    let yes ← expr
    expect .colon .missingColon
    let no ← expr
    return .conditional condition yes no
  else return condition

/-! ## Calls and control forms -/

/-- Names of parameters, which are plain variables. The first argument has a number. -/
def parameterNames (form : ControlForm) (position : Nat) : (number : Nat) → List Expr → Except SyntaxError (List String)
  | _, [] => .ok []
  | number, .var name :: rest => (parameterNames form position (number + 1) rest).map (name :: ·)
  | number, _ :: _ => .error ⟨.missingParameter form.name number, position, some form.name⟩

/-- A control form with its arguments as written: those before the parameters, the parameters, the body and what
follows it. -/
def controlOf (form : ControlForm) (args : List Expr) (position : Nat) : Except SyntaxError Expr :=
  if args.length ≠ form.arity then
    .error ⟨.wrongArgumentCount form.name form.arity args.length, position, some form.name⟩
  else
    let before := args.take form.leading
    let params := (args.drop form.leading).take form.parameters
    match parameterNames form position (form.leading + 1) params, args.drop (form.leading + form.parameters) with
    | .error e, _ => .error e
    | .ok _, [] => .ok (.control form before none)
    | .ok params, body :: after => .ok (.control form (before ++ after) (some ⟨params, body⟩))

/-- A call, or the control form of that name. -/
def callOf (name : String) (args : List Expr) (position : Nat) : Except SyntaxError Expr :=
  match ControlForm.ofName? name with
  | some form => controlOf form args position
  | none => .ok (.call name args)

/-- Expressions between commas up to a closing mark, the first of which is still to be read. -/
def itemsFrom (expr : TokenReader Expr) (close : Mark) (fault : SyntaxFault) : (fuel : Nat) → TokenReader (List Expr)
  | 0 => fail fault
  | fuel + 1 => do
    let item ← expr
    if ← sees .comma then
      discard bump
      let rest ← itemsFrom expr close fault fuel
      return item :: rest
    else if ← sees close then
      discard bump
      return [item]
    else fail fault

/-- Expressions between commas up to a closing mark. -/
def items (fuel : Nat) (expr : TokenReader Expr) (close : Mark) (fault : SyntaxFault) : TokenReader (List Expr) := do
  if ← sees close then
    discard bump
    return []
  else itemsFrom expr close fault fuel

/-- Arguments in parentheses. -/
def arguments (fuel : Nat) (expr : TokenReader Expr) : TokenReader (List Expr) := do
  expect .openParen .missingOpeningParen
  items fuel expr .closeParen .missingArgumentEnd

/-! ## Operands -/

/-- The regular expression with a source, for a token at a position. -/
def regexOf (source : String) (ignoreCase : Bool) (position : Nat) : Except SyntaxError Regex :=
  (Regex.build source ignoreCase).mapError fun f => ⟨.invalidPattern f, position, some ("/" ++ source ++ "/")⟩

/-- A literal that is one token. -/
def literal (l : Literal) : TokenReader Expr := do
  discard bump
  return .literal l

/-- An operand without what may follow it. -/
def atom (fuel : Nat) (expr : TokenReader Expr) : TokenReader Expr := do
  match ← peek with
  | .number x => literal (.number x)
  | .string s => literal (.string s)
  | .regex source ignoreCase =>
    let r ← regexOf source ignoreCase (← get).current.position
    literal (.regex r)
  | .keyword .true => literal (.boolean true)
  | .keyword .false => literal (.boolean false)
  | .keyword .null => literal .null
  | .keyword .if =>
    let t ← bump
    if ← sees .openParen then
      let args ← arguments fuel expr
      callOf ControlForm.if.name args t.position
    else fail .missingArguments
  | .name name =>
    let t ← bump
    if ← sees .openParen then
      let args ← arguments fuel expr
      callOf name args t.position
    else return .var name
  | .mark .openParen =>
    discard bump
    let e ← expr
    expect .closeParen .missingClosingParen
    return e
  | .mark .openBracket =>
    discard bump
    return .array (← items fuel expr .closeBracket .missingItemEnd)
  | .finish => fail .missingLastOperand
  | .mark _ => fail .missingOperand

/-- What follows an operand: fields, calls on the operand, and positions. -/
def suffixesFrom (fuel : Nat) (expr : TokenReader Expr) : (count : Nat) → Expr → TokenReader Expr
  | 0, base => return base
  | count + 1, base => do
    if ← sees .dot then
      discard bump
      match ← peek with
      | .name name =>
        let t ← bump
        if ← sees .openParen then
          let args ← arguments fuel expr
          suffixesFrom fuel expr count (← callOf name (base :: args) t.position)
        else suffixesFrom fuel expr count (.field base name)
      | _ => fail .missingFieldName
    else if ← sees .openBracket then
      discard bump
      let position ← expr
      expect .closeBracket .missingIndexEnd
      suffixesFrom fuel expr count (.index base position)
    else return base

/-- An operand with what follows it. -/
def suffixed (fuel : Nat) (expr : TokenReader Expr) : TokenReader Expr := do
  suffixesFrom fuel expr fuel (← atom fuel expr)

/-- The operator before an operand that a kind of token stands for. -/
def unaryOp? : TokenKind → Option UnaryOp
  | .mark .minus => some .minus
  | .mark .bang => some .not
  | _ => none

/-- An operand with operators before it, those after the first read by `inner`. -/
def unaryWith (fuel : Nat) (inner expr : TokenReader Expr) : TokenReader Expr := do
  match unaryOp? (← peek) with
  | some op =>
    discard bump
    return .unary op (← inner)
  | none => suffixed fuel expr

/-- The two readers that go down a level: of an expression, and of an operand with operators before it. -/
structure Level where
  expr : TokenReader Expr
  unary : TokenReader Expr

/-- The readers when so many levels may still be opened. -/
def level (fuel : Nat) : (budget : Nat) → Level
  | 0 =>
    let expr := fail .tooDeep
    ⟨expr, unaryWith fuel (fail .tooDeep) expr⟩
  | budget + 1 =>
    let inner := level fuel budget
    let expr := conditional fuel inner.expr inner.unary
    ⟨expr, unaryWith fuel inner.unary expr⟩

/-- A whole text: an expression and nothing after it. -/
def whole (fuel : Nat) : TokenReader Expr := do
  let e ← (level fuel maxNesting).expr
  match ← peek with
  | .finish => return e
  | _ => fail .missingEnd

end TokenReader

namespace Expr

/-- The expression that a stream of tokens is. -/
def ofStream (s : TokenStream) : Except SyntaxError Expr := do
  let view ← TokenReader.pull 0 s
  let (e, _) ← (TokenReader.whole (s.length + 1)).run view
  return e

/-- The expression that some tokens are. -/
def ofTokens (tokens : List Token) : Except SyntaxError Expr := ofStream (.ofTokens tokens)

/-- The expression that a text is, without what may stand before it. -/
def ofChars (text : List Char) : Except SyntaxError Expr := ofStream (.ofText text)

/-- What may stand before an expression, after blank characters. -/
def languageMark : List Char := ['g', 'r', 'e', 'l', ':']

/-- The text after blank characters and the mark of the language, if it is there. -/
def dropLanguageMark? (text : List Char) : Option (List Char) :=
  let rest := Text.trimStart text
  if languageMark.isPrefixOf rest then some (rest.drop languageMark.length) else none

/-- The expression that a text is. The mark of the language may stand before it; positions count it too. -/
def parse (text : String) : Except SyntaxError Expr :=
  match dropLanguageMark? text.toList with
  | some rest => (ofChars rest).mapError (·.shift (text.toList.length - rest.length))
  | none => ofChars text.toList

end Expr

end CellExpr
