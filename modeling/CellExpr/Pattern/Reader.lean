import CellExpr.Number.Reading
import CellExpr.Pattern.Node
import CellExpr.Pattern.Property
import CellExpr.Pattern.Words
import CellExpr.Text.Alphabet
import CellExpr.Text.Occurrence

/-!
# Reading patterns

The notation of patterns: literals, escapes, classes, groups, repetitions and flags. A text that does not follow it has no
tree. Trees are nested at most 250 levels deep.
-/

namespace CellExpr.Pattern

open CellExpr.Text CellExpr.Number

/-- The options that hold at a place of a pattern. -/
structure Flags where
  ignoreCase : Bool := false
  /-- Lines have starts and ends of their own. -/
  multiLine : Bool := false
  /-- A point stands for line ends too. -/
  dotAll : Bool := false
  swapGreed : Bool := false
  /-- Classes and case are those of Unicode. -/
  unicode : Bool := true
  /-- `\r` ends a line too. -/
  crlf : Bool := false
  /-- Blank characters and comments in the pattern are passed over. -/
  free : Bool := false
  deriving DecidableEq, Repr

/-- The deepest nesting of trees. -/
def maxDepth : Nat := 250

/-- Where a reader stands. -/
structure Cursor where
  rest : List Char
  flags : Flags
  /-- The number of groups opened so far. -/
  groupCount : Nat := 0
  /-- The names given to groups so far. -/
  names : List String := []

/-- A reader of a part of a pattern. -/
abbrev Reader := StateT Cursor Option

namespace Reader

/-- What is still to be read. -/
def rest : Reader (List Char) := return (← get).rest

/-- The options that hold. -/
def flags : Reader Flags := return (← get).flags

/-- Goes on at a place. -/
def goto (rest : List Char) : Reader Unit := modify fun s => { s with rest }

/-- Goes on with other options. -/
def setFlags (flags : Flags) : Reader Unit := modify fun s => { s with flags }

/-- The next character, which is there. -/
def peek : Reader Char := do
  match ← rest with
  | [] => failure
  | c :: _ => return c

/-- Passes the next character, which is there. -/
def bump : Reader Char := do
  match ← rest with
  | [] => failure
  | c :: r => goto r; return c

end Reader

/-- What follows blank characters and comments, which run from `#` to the end of the line. -/
def skipFree : (inComment : Bool) → List Char → List Char
  | _, [] => []
  | true, c :: r => skipFree (c != '\n') r
  | false, c :: r => if isBlank c then skipFree false r else if c = '#' then skipFree true r else c :: r

namespace Reader

/-- Passes what may be passed over. -/
def skip : Reader Unit := do
  if (← flags).free then goto (skipFree false (← rest))

/-- Passes the next character and what may be passed over after it. -/
def bumpSkip : Reader Char := do
  let c ← bump
  skip
  return c

/-- Passes a character if it comes next. -/
def bumpIf (c : Char) : Reader Bool := do
  match ← rest with
  | d :: r => if d = c then goto r; return true else return false
  | [] => return false

end Reader

open Reader

/-- Characters that mean something in patterns. -/
def isMeta (c : Char) : Bool :=
  ['\\', '.', '+', '*', '?', '(', ')', '|', '[', ']', '\x7b', '\x7d', '^', '$', '#', '&', '-', '~'].contains c

/-- Characters that stand for themselves after a backslash. -/
def isEscapable (c : Char) : Bool :=
  isMeta c || (c.toNat < 128 && !c.isAlphanum && c != '<' && c != '>')

/-- A hexadecimal digit. -/
def isHex (c : Char) : Bool := isDigit c || ('a' ≤ c && c ≤ 'f') || ('A' ≤ c && c ≤ 'F')

/-- The character whose code some hexadecimal digits give. -/
def hexChar? (digits : List Char) : Option Char :=
  let n := Text.hexValue (digits.map asciiLowered)
  if n < 0xD800 ∨ (0xE000 ≤ n ∧ n ≤ lastCode) then some (Char.ofNat n) else none

/-- The hexadecimal digits up to a closing brace, each of which may be followed by what may be passed over. -/
def readBracedHex : (fuel : Nat) → List Char → Reader (List Char)
  | 0, _ => failure
  | fuel + 1, digits => do
    let _ ← bumpSkip
    let c ← peek
    if c = '\x7d' then return digits.reverse
    else if isHex c then readBracedHex fuel (c :: digits)
    else failure

/-- Exactly so many hexadecimal digits. -/
def readFixedHex : (count : Nat) → Reader (List Char)
  | 0 => return []
  | count + 1 => do
    let c ← peek
    if isHex c then
      let _ ← bumpSkip
      return c :: (← readFixedHex count)
    else failure

/-- What an escape stands for. -/
inductive Escape where
  /-- A character, and whether two hexadecimal digits gave it. -/
  | char (c : Char) (byte : Bool)
  | chars (k : CharClass)
  | look (l : Look)

/-- The character given by hexadecimal digits after `\x`, `\u` or `\U`, which need so many digits outside braces. -/
def readHex (count : Nat) : Reader Escape := do
  let _ ← bumpSkip
  if (← peek) = '\x7b' then
    let digits ← readBracedHex ((← rest).length + 1) []
    let _ ← bumpSkip
    if digits.isEmpty then failure
    let c ← hexChar? digits
    return .char c false
  else
    let digits ← readFixedHex count
    let c ← hexChar? digits
    return .char c (count == 2)

/-- A class with case set aside if the options say so. -/
def Flags.fold (f : Flags) (k : CharClass) : CharClass :=
  if f.ignoreCase then (if f.unicode then k.foldCase else k.foldAsciiCase) else k

/-- The complement of a class, if it is asked for. Without Unicode there is none, as it would not be text. -/
def Flags.negate? (f : Flags) (negated : Bool) (k : CharClass) : Option CharClass :=
  if !negated then some k else if f.unicode then some k.complement else none

/-- The characters up to a closing brace. -/
def readBracedName : (fuel : Nat) → List Char → Reader (List Char)
  | 0, _ => failure
  | fuel + 1, name => do
    let _ ← bumpSkip
    let c ← peek
    if c = '\x7d' then return name.reverse else readBracedName fuel (c :: name)

/-- The parts of a text before and after the first place of a needle. -/
def cutAt? (needle s : List Char) : Option (List Char × List Char) :=
  (Text.firstPosition? needle s).map fun i => (s.take i, s.drop (i + needle.length))

/-- The class that the text between the braces of `\p` names, and whether the characters outside it are meant. -/
def bracedClass? (name : List Char) : Option (CharClass × Bool) :=
  match cutAt? ['!', '='] name with
  | some (property, value) => (valueClass? property value).map (·, true)
  | none => match cutAt? [':'] name with
    | some (property, value) => (valueClass? property value).map (·, false)
    | none => match cutAt? ['='] name with
      | some (property, value) => (valueClass? property value).map (·, false)
      | none => (namedClass? name).map (·, false)

/-- The class that the text after `\p` names, one letter or a text between braces, and whether the characters outside it
are meant. -/
def readPropertyClass : Reader (CharClass × Bool) := do
  let c ← peek
  if c = '\x7b' then
    let name ← readBracedName ((← rest).length + 1) []
    let _ ← bump
    bracedClass? name
  else if c = '\\' then failure
  else
    let _ ← bumpSkip
    (namedClass? [c]).map (·, false)

/-- The class after `\p` or `\P`. Case is set aside before the class is negated, and two negations cancel out. -/
def readProperty (negated : Bool) : Reader Escape := do
  let f ← flags
  let _ ← bumpSkip
  let (k, outside) ← readPropertyClass
  if !f.unicode then failure
  let k ← f.negate? (negated != outside) (f.fold k)
  return .chars k

/-- The letters and hyphens up to a closing brace. -/
def readEdgeName : (fuel : Nat) → List Char → Reader (List Char)
  | 0, _ => failure
  | fuel + 1, name => do
    let c ← peek
    if c.isAlpha || c = '-' then
      let _ ← bumpSkip
      readEdgeName fuel (c :: name)
    else if c = '\x7d' then
      let _ ← bump
      return name.reverse
    else failure

/-- The edge of a word after `\b`: between braces it has a name, and braces with anything but letters are no part of
it. -/
def readEdge : Reader WordEdge := do
  let start ← rest
  match start with
  | '\x7b' :: _ =>
    let _ ← bumpSkip
    let c ← peek
    if c.isAlpha || c = '-' then
      match String.ofList (← readEdgeName (start.length + 1) []) with
      | "start" => return .start
      | "end" => return .finish
      | "start-half" => return .halfStart
      | "end-half" => return .halfFinish
      | _ => failure
    else
      goto start
      return .boundary
  | _ => return .boundary

/-- A class with a name of one letter. -/
def letterClass? (f : Flags) (letter : Char) : Option CharClass :=
  let pick := fun (all ascii : CharClass) => if f.unicode then all else ascii
  if letter = 'd' ∨ letter = 'D' then f.negate? (letter == 'D') (pick digitClass asciiDigitClass)
  else if letter = 's' ∨ letter = 'S' then f.negate? (letter == 'S') (pick blankClass asciiBlankClass)
  else f.negate? (letter == 'W') (pick wordClass asciiWordClass)

/-- The escape after a backslash, at which the reader stands. -/
def readEscape : Reader Escape := do
  let _ ← bump
  let f ← flags
  let c ← peek
  if c = 'x' then readHex 2
  else if c = 'u' then readHex 4
  else if c = 'U' then readHex 8
  else if c = 'p' || c = 'P' then readProperty (c == 'P')
  else
    let _ ← bump
    if ['d', 'D', 's', 'S', 'w', 'W'].contains c then return .chars (← letterClass? f c)
    else if isEscapable c then return .char c false
    else match c with
      | 'a' => return .char '\x07' false
      | 'f' => return .char '\x0c' false
      | 't' => return .char '\t' false
      | 'n' => return .char '\n' false
      | 'r' => return .char '\r' false
      | 'v' => return .char '\x0b' false
      | 'A' => return .look .textStart
      | 'z' => return .look .textEnd
      | 'b' => return .look (.word (← readEdge) (!f.unicode))
      | 'B' => return .look (.word .noBoundary (!f.unicode))
      | '<' => return .look (.word .start (!f.unicode))
      | '>' => return .look (.word .finish (!f.unicode))
      | _ => failure

/-- The characters that a literal stands for. Without Unicode two hexadecimal digits give a byte, and one of 128 and more
is no text. -/
def literal? (f : Flags) (c : Char) (byte : Bool) : Option CharClass :=
  if !f.unicode && byte && 128 ≤ c.toNat then none
  else if f.ignoreCase then
    if f.unicode then some (.ofIntervals ((c.toNat :: caseVariants c.toNat).map fun n => (n, n)))
    else some (CharClass.foldAsciiCase (.single c))
  else some (.single c)

/-! ## Classes in brackets -/

/-- A set under construction and how deep it is nested. -/
structure SetPart where
  chars : CharClass := .empty
  count : Nat := 0
  depth : Nat := 0

/-- The set with another member. -/
def SetPart.add (s : SetPart) (k : CharClass) (depth : Nat := 0) : SetPart :=
  ⟨s.chars.union k, s.count + 1, max s.depth depth⟩

/-- The set as one operand: two members and more make up one level. -/
def SetPart.level (s : SetPart) : Nat := if 2 ≤ s.count then s.depth + 1 else s.depth

/-- An operation on sets. -/
inductive SetOp where
  | inter
  | diff
  | symmDiff

/-- The result of an operation. -/
def SetOp.apply : SetOp → CharClass → CharClass → CharClass
  | inter, a, b => a.inter b
  | diff, a, b => a.diff b
  | symmDiff, a, b => a.symmDiff b

/-- A left operand and its operation, waiting for the right operand. -/
abbrev Pending := Option (SetOp × CharClass × Nat)

/-- The set after a pending operation. -/
def Pending.finish (f : Flags) (pending : Pending) (s : SetPart) : CharClass × Nat :=
  match pending with
  | none => (s.chars, s.level)
  | some (op, left, depth) => (op.apply (f.fold left) (f.fold s.chars), max depth s.level + 1)

/-- A single character of a class: it must be text of its own. -/
def classChar? (f : Flags) (c : Char) (byte : Bool) : Option Char :=
  if !f.unicode && 128 ≤ c.toNat then none else if byte && !f.unicode && 128 ≤ c.toNat then none else some c

/-- A member of a class that may be the end of a range. -/
def readSetItem : Reader Escape := do
  if (← peek) = '\\' then readEscape else return .char (← bump) false

/-- The character after the next one, with blank characters and the mark of a comment passed over if they may be. -/
def peekSecond (f : Flags) : List Char → Option Char
  | _ :: r =>
    if !f.free then r.head?
    else match r.dropWhile isBlank with
      | [] => r.head?
      | '#' :: r' => (r'.dropWhile isBlank).head?.or r.head?
      | c :: _ => some c
  | [] => none

/-- A member of a class: a class, a character or a range. -/
def readSetRange : Reader CharClass := do
  let f ← flags
  let first ← readSetItem
  skip
  let next ← peek
  let second := peekSecond f (← rest)
  if next ≠ '-' ∨ second = some ']' ∨ second = some '-' then
    match first with
    | .char c byte => return .single (← classChar? f c byte)
    | .chars k => return k
    | .look _ => failure
  else
    let _ ← bumpSkip
    let _ ← peek
    match first, ← readSetItem with
    | .char a byteA, .char b byteB =>
      let a ← classChar? f a byteA
      let b ← classChar? f b byteB
      if a ≤ b then return .range a b else failure
    | _, _ => failure

/-- What follows a named class such as `[:alpha:]`, and the class. -/
def namedSet? (f : Flags) : List Char → Option (Option CharClass × List Char)
  | '[' :: ':' :: r =>
    let (negated, r) := match r with
      | '^' :: r => (true, r)
      | r => (false, r)
    match r.dropWhile (· ≠ ':') with
    | ':' :: ']' :: after =>
      (asciiClass? (String.ofList (r.takeWhile (· ≠ ':')))).map fun k => (f.negate? negated (f.fold k), after)
    | _ => none
  | _ => none

/-- The hyphens at the start of a class. -/
def readHyphens : (fuel : Nat) → SetPart → Reader SetPart
  | 0, s => return s
  | fuel + 1, s => do
    if (← peek) = '-' then
      let _ ← bumpSkip
      let _ ← peek
      readHyphens fuel (s.add (.single '-'))
    else return s

/-- The start of a class: whether it is negated, and the members that only stand there. -/
def readSetStart : Reader (Bool × SetPart) := do
  let _ ← bumpSkip
  let negated := (← peek) == '^'
  if negated then
    let _ ← bumpSkip
  let s ← readHyphens ((← rest).length + 1) {}
  if s.count = 0 ∧ (← peek) = ']' then
    let _ ← bumpSkip
    let _ ← peek
    return (negated, s.add (.single ']'))
  else return (negated, s)

/-- The members of a class up to the closing bracket, with the classes inside it. -/
def readSetItems : (fuel : Nat) → (negated : Bool) → Pending → SetPart → Reader (CharClass × Nat)
  | 0, _, _, _ => failure
  | fuel + 1, negated, pending, s => do
    skip
    let f ← flags
    match ← rest with
    | [] => failure
    | '[' :: r =>
      match namedSet? f ('[' :: r) with
      | some (k, after) =>
        goto after
        readSetItems fuel negated pending (s.add (← k))
      | none =>
        let (innerNegated, inner) ← readSetStart
        let (k, depth) ← readSetItems fuel innerNegated none inner
        readSetItems fuel negated pending (s.add k depth)
    | ']' :: r =>
      goto r
      let (k, depth) := pending.finish f s
      return (← f.negate? negated (f.fold k), depth + 1)
    | '&' :: '&' :: r => goto r; readSetItems fuel negated (waiting f .inter pending s) {}
    | '-' :: '-' :: r => goto r; readSetItems fuel negated (waiting f .diff pending s) {}
    | '~' :: '~' :: r => goto r; readSetItems fuel negated (waiting f .symmDiff pending s) {}
    | _ => readSetItems fuel negated pending (s.add (← readSetRange))
where
  /-- What waits after an operator. -/
  waiting (f : Flags) (op : SetOp) (pending : Pending) (s : SetPart) : Pending :=
    some (op, pending.finish f s)

/-! ## Groups and repetitions -/

/-- A part of a pattern. -/
structure Part where
  node : Node
  depth : Nat := 0
  /-- It only sets options and cannot be repeated. -/
  isFlags : Bool := false

/-- Parts in a row. -/
def Part.row (parts : List Part) : Part :=
  match parts with
  | [] => ⟨.empty, 0, false⟩
  | [p] => p
  | _ => ⟨Node.row (parts.map (·.node)), parts.foldl (fun d p => max d p.depth) 0 + 1, false⟩

/-- Branches side by side. -/
def Part.branches (first : Part) (rest : List Part) : Part :=
  match rest with
  | [] => first
  | _ =>
    ⟨Node.choice ((first :: rest).map (·.node)), (first :: rest).foldl (fun d p => max d p.depth) 0 + 1, false⟩

/-- A flag by its letter, set or cleared. -/
def Flags.set? (f : Flags) (letter : Char) (on : Bool) : Option Flags :=
  match letter with
  | 'i' => some { f with ignoreCase := on }
  | 'm' => some { f with multiLine := on }
  | 's' => some { f with dotAll := on }
  | 'U' => some { f with swapGreed := on }
  | 'u' => some { f with unicode := on }
  | 'R' => some { f with crlf := on }
  | 'x' => some { f with free := on }
  | _ => none

/-- Flags up to `:` or `)`, which is not passed. Each occurs once, there is one minus sign, and a flag follows it. -/
def readFlags : (fuel : Nat) → (seen : List Char) → Flags → Reader (List Char × Flags)
  | 0, _, _ => failure
  | fuel + 1, seen, f => do
    let c ← peek
    if c = ':' || c = ')' then
      if seen.head? = some '-' then failure else return (seen, f)
    else if seen.contains c then failure
    else
      let f ← if c = '-' then pure f else f.set? c (!seen.contains '-')
      let _ ← bump
      readFlags fuel (c :: seen) f

/-- The name of a group, up to `>`. -/
def readGroupName : (fuel : Nat) → List Char → Reader String
  | 0, _ => failure
  | fuel + 1, name => do
    let c ← bump
    if c = '>' then if name.isEmpty then failure else return String.ofList name.reverse
    else if c = '_' || isAlphabetic c then readGroupName fuel (c :: name)
    else if !name.isEmpty && (c = '.' || c = '[' || c = ']' || isAlphanumeric c) then readGroupName fuel (c :: name)
    else failure

/-- What an opening parenthesis begins. -/
inductive Opening where
  /-- Options for the rest of the group around it. -/
  | flags (f : Flags)
  /-- A group, remembered if it has a number. -/
  | group (index : Option (Nat × Option String)) (f : Flags)

/-- Numbers the next group. -/
def nextGroup : Reader Nat := do
  let index := (← get).groupCount + 1
  modify fun s => { s with groupCount := index }
  return index

/-- The start of a group. Conditions on what stands before or after it are not part of the notation. -/
def readOpening : Reader Opening := do
  let _ ← bumpSkip
  let f ← flags
  match ← rest with
  | '?' :: '=' :: _ => failure
  | '?' :: '!' :: _ => failure
  | '?' :: '<' :: '=' :: _ => failure
  | '?' :: '<' :: '!' :: _ => failure
  | '?' :: 'P' :: '<' :: r => goto r; named f
  | '?' :: '<' :: r => goto r; named f
  | '?' :: r =>
    goto r
    let (seen, inner) ← readFlags (r.length + 1) [] f
    if (← bump) = ')' then
      if seen.isEmpty then failure else return .flags inner
    else return .group none inner
  | _ => return .group (some (← nextGroup, none)) f
where
  /-- A group with a name that no other group has. -/
  named (f : Flags) : Reader Opening := do
    let index ← nextGroup
    let name ← readGroupName ((← rest).length + 1) []
    if (← get).names.contains name then failure
    modify fun s => { s with names := name :: s.names }
    return .group (some (index, some name)) f

/-- The digits of a count, between which there may stand what may be passed over. -/
def readCountDigits : (fuel : Nat) → List Char → Reader (List Char)
  | 0, digits => return digits.reverse
  | fuel + 1, digits => do
    match ← rest with
    | c :: _ =>
      if isDigit c then
        let _ ← bumpSkip
        readCountDigits fuel (c :: digits)
      else return digits.reverse
    | [] => return digits.reverse

/-- Passes blank characters. -/
def skipBlanks : (fuel : Nat) → Reader Unit
  | 0 => return
  | fuel + 1 => do
    match ← rest with
    | c :: _ =>
      if isBlank c then
        let _ ← bumpSkip
        skipBlanks fuel
    | [] => return

/-- A count of repetitions below `2^32`. -/
def readCount : Reader Nat := do
  let start ← rest
  goto (start.dropWhile isBlank)
  let digits ← readCountDigits start.length []
  skipBlanks start.length
  if digits.isEmpty then failure
  let n := digitsValue digits
  if n < Nat.pow 2 32 then return n else failure

/-- The counts between braces: the least number of turns, and the greatest if there is one. -/
def readCounts : Reader (Nat × Option Nat) := do
  let _ ← bumpSkip
  let _ ← peek
  let least ← readCount
  let most ← if (← peek) = ',' then do
      let _ ← bumpSkip
      if (← peek) = '\x7d' then pure none else some <$> readCount
    else pure (some least)
  if (← peek) ≠ '\x7d' then failure
  if most.any (· < least) then failure
  return (least, most)

/-- A question mark that makes a repetition prefer fewer turns. -/
def readGreed : Reader Bool := do
  let lazy ← bumpIf '?'
  return lazy == (← flags).swapGreed

/-- The last part repeated. -/
def repeatLast (items : List Part) (least : Nat) (most : Option Nat) (greedy : Bool) : Option (List Part) :=
  match items with
  | [] => none
  | p :: rest => if p.isFlags then none else some (⟨p.node.repeated least most greedy, p.depth + 1, false⟩ :: rest)

/-- The class of a point. -/
def dotClass? (f : Flags) : Option CharClass :=
  if !f.unicode then none
  else if f.dotAll then some .all
  else if f.crlf then some (CharClass.complement ⟨[(10, 10), (13, 13)]⟩)
  else some (CharClass.complement ⟨[(10, 10)]⟩)

/-- A part that is neither a group nor a class in brackets nor a repetition. -/
def readSimple : Reader Node := do
  let f ← flags
  match ← peek with
  | '\\' =>
    match ← readEscape with
    | .char c byte => return .chars (← literal? f c byte)
    | .chars k => return .chars k
    | .look l => return .look l
  | '.' =>
    let _ ← bump
    return .chars (← dotClass? f)
  | '^' =>
    let _ ← bump
    return .look (if f.multiLine then (if f.crlf then .anyLineStart else .lineStart) else .textStart)
  | '$' =>
    let _ ← bump
    return .look (if f.multiLine then (if f.crlf then .anyLineEnd else .lineEnd) else .textEnd)
  | c =>
    let _ ← bump
    return .chars (← literal? f c false)

/-- The branches up to a closing parenthesis or the end. `done` are the branches before this one and `items` its parts so
far, both the last one first. -/
def readBranches : (fuel : Nat) → (done items : List Part) → Reader Part
  | 0, _, _ => failure
  | fuel + 1, done, items => do
    skip
    match ← rest with
    | [] => return close done items
    | ')' :: _ => return close done items
    | '|' :: r =>
      goto r
      readBranches fuel (Part.row items.reverse :: done) []
    | '(' :: _ =>
      let outer ← flags
      match ← readOpening with
      | .flags f =>
        setFlags f
        readBranches fuel done (⟨.empty, 0, true⟩ :: items)
      | .group index f =>
        setFlags f
        let body ← readBranches fuel [] []
        if (← bump) ≠ ')' then failure
        setFlags outer
        let node := match index with
          | some (i, name) => .group i name body.node
          | none => body.node
        readBranches fuel done (⟨node, body.depth + 1, false⟩ :: items)
    | '[' :: r =>
      let (negated, s) ← readSetStart
      let (k, depth) ← readSetItems (r.length + 1) negated none s
      readBranches fuel done (⟨.chars k, depth, false⟩ :: items)
    | '?' :: r =>
      goto r
      readBranches fuel done (← repeatLast items 0 (some 1) (← readGreed))
    | '*' :: r =>
      goto r
      readBranches fuel done (← repeatLast items 0 none (← readGreed))
    | '+' :: r =>
      goto r
      readBranches fuel done (← repeatLast items 1 none (← readGreed))
    | '\x7b' :: _ =>
      let (least, most) ← readCounts
      let _ ← bumpSkip
      readBranches fuel done (← repeatLast items least most (← readGreed))
    | _ => readBranches fuel done (⟨← readSimple, 0, false⟩ :: items)
where
  /-- All branches together. -/
  close (done items : List Part) : Part :=
    match (Part.row items.reverse :: done).reverse with
    | [] => Part.row []
    | first :: rest => Part.branches first rest

/-- The tree of a pattern. -/
def read? (source : List Char) (ignoreCase : Bool) : Option Node := do
  let start : Cursor := { rest := source, flags := { ignoreCase } }
  let (part, s) ← (readBranches (source.length + 1) [] []).run start
  if s.rest.isEmpty ∧ part.depth ≤ maxDepth then some part.node else none

end CellExpr.Pattern
