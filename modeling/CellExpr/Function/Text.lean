import CellExpr.Evaluation.Position
import CellExpr.Function.Arguments
import CellExpr.Number.Count
import CellExpr.Pattern.Splitting
import CellExpr.Pattern.Template
import CellExpr.Text.Editing

/-!
# Functions on texts

Splitting, changing and searching texts. Patterns are regular expressions or literal texts.
-/

namespace CellExpr.TextFunctions

open CellExpr.Args CellExpr.Text

/-- The text of the first argument, changed. -/
def mapText (f : List Char → List Char) : Body := body fun args => do
  return .ofChars (f (← nth args 0).text.toList)

/-- What is asked of two texts. -/
def testTexts (test : List Char → List Char → Bool) : Body := body fun args => do
  let s ← textAt args 0
  let other ← textAt args 1
  return .boolean (test other.toList s.toList)

/-- The pieces of a text between matches, from a byte on. -/
def cutFrom (s : List Char) (byte : Nat) : List Pattern.Match → Outcome (List (List Char))
  | [] => return [← .textBetween s byte (byteLength s)]
  | m :: rest => do
    let piece ← .textBetween s byte (← .byteAt s m.start)
    return piece :: (← cutFrom s (← .byteAt s m.stop) rest)

/-- The pieces of a text between the matches of a regular expression. Where empty pieces are kept, the text is cut at the
bytes of the matches. -/
def cutAtMatches (r : Regex) (keepEmpty : Bool) (s : List Char) : Outcome (List (List Char)) :=
  if keepEmpty then
    match (r.findAll s).filter (!·.isEmptyAtStart) with
    | [] => return [s]
    | found => Pattern.dropLastEmpty <$> cutFrom s 0 found
  else return r.splitPieces false s

/-- `split(s, separator, [keepEmpty])` -/
def split : Body := body fun args => do
  let s := (← nth args 0).text.toList
  let keepEmpty ← flagAt args 2 false
  match ← nth args 1 with
  | .string separator => return .ofTexts (splitLiteral separator.toList keepEmpty s)
  | .regex r => return .ofTexts (← cutAtMatches r keepEmpty s)
  | _ => .fault (.expected "string or regex separator")

/-- A number that is a count. A number beyond the greatest count stands for this one. -/
def count (v : Value) : Outcome Nat := do
  match Number.exact (← number v) with
  | .finite negative units =>
    if units % Number.unitsInOne ≠ 0 ∨ (negative ∧ units ≠ 0) then .fault (.notACount v.text)
    else return Number.saturate (units / Number.unitsInOne)
  | _ => .fault (.notACount v.text)

/-- Pieces of the given lengths from a place on, as long as there is something left. -/
def cutByLengths (s : List Char) (start : Nat) : List Value → Outcome (List (List Char))
  | [] => return []
  | length :: rest => do
    if s.length ≤ start then return []
    let stop := min (Number.saturate (start + (← count length))) s.length
    let piece ← .part s start stop
    return piece :: (← cutByLengths s stop rest)

/-- `splitByLengths(s, n, …)` -/
def splitByLengths : Body := body fun args => do
  let s ← textAt args 0
  return .ofTexts (← cutByLengths s.toList 0 (← after args 1))

/-- `chomp(s, end)` -/
def chomp : Body := body fun args => do
  let s ← textAt args 0
  let ending ← textAt args 1
  return .ofChars ((dropBack? ending.toList s.toList).getD s.toList)

/-- The part of a text between two bounds. -/
def textPart (s : String) (first : Float) (last : Option Float) : Outcome Value := do
  let chars := s.toList
  let (start, stop) ← .stretch chars.length first last
  return .ofChars (← .part chars start stop)

/-- `substring(s, from, [to])` -/
def substring : Body := body fun args => do
  let s ← textAt args 0
  textPart s (← numberAt args 1) (← numberAt? args 2)

/-- `contains(s, pattern)` -/
def contains : Body := body fun args => do
  let s ← textAt args 0
  match ← nth args 1 with
  | .regex r => return .boolean (r.isMatch s.toList)
  | other => return .boolean (occurs (← text other).toList s.toList)

/-- `replace(s, pattern, replacement)`. A regular expression takes the replacement as a template. -/
def replace : Body := body fun args => do
  let s ← textAt args 0
  let replacement ← textAt args 2
  match ← nth args 1 with
  | .regex r => return .ofChars (r.replaceAll replacement.toList s.toList)
  | other => return .ofChars (replaceEach (← text other).toList replacement.toList s.toList)

/-- `replaceChars(s, from, into)` -/
def replaceChars : Body := body fun args => do
  let s ← textAt args 0
  let targets ← textAt args 1
  let into ← textAt args 2
  return .ofChars (exchange targets.toList into.toList s.toList)

/-- The regular expression, or the fault that there is none. -/
def compiled (r : Except PatternFault Regex) : Outcome Regex :=
  match r with
  | .ok r => .ok r
  | .error f => .error (.error (Fault.invalidPattern.toError.causedBy { kind := .semantic, message := f.message }))

/-- The regular expression that a pattern stands for. -/
def regexOf : Value → Outcome Regex
  | .regex r => .ok r
  | .string s => compiled (Regex.ofLiteral s)
  | _ => .fault (.expected "string or regex")

/-- `match(s, pattern)`: the groups, if the whole text matches. -/
def matchGroups : Body := body fun args => do
  let s ← textAt args 0
  let r ← compiled (← regexOf (← nth args 1)).anchored
  match r.firstMatch? s.toList with
  | none => return .null
  | some m =>
    let group := fun i => ((m.groupText? s.toList (i + 1)).map Value.ofChars).getD .null
    return .array ((List.range (r.program.groupCount - 1)).map group)

/-- `find(s, pattern)` -/
def find : Body := body fun args => do
  let s ← textAt args 0
  let r ← regexOf (← nth args 1)
  return .ofTexts ((r.findAll s.toList).map (·.text s.toList))

/-- What precedes a match, the match and what follows it. Without a match all of the text is on one side. -/
def cutAt (fromEnd : Bool) (s : List Char) : Option Pattern.Match → Outcome (List Char × List Char × List Char)
  | some m => do
    let before ← .textBetween s 0 (← .byteAt s m.start)
    let after ← .textBetween s (← .byteAt s m.stop) (byteLength s)
    return (before, m.text s, after)
  | none => return if fromEnd then ([], [], s) else (s, [], [])

/-- `partition(s, pattern, [omit])` and `rpartition` -/
def partition (fromEnd : Bool) : Body := body fun args => do
  let s ← textAt args 0
  let omitMatch ← flagAt args 2 false
  let r ← regexOf (← nth args 1)
  let found := if fromEnd then (r.findAll s.toList).getLast? else r.firstMatch? s.toList
  let (before, middle, after) ← cutAt fromEnd s.toList found
  return .ofTexts (if omitMatch then [before, after] else [before, middle, after])

/-- `unicode(s)` -/
def unicode : Body := body fun args => do
  return .array ((← textAt args 0).toList.map fun c => .ofNat c.toNat)

/-- The functions on texts. -/
def all : List Function := [
  ((Function.new "split" split).taking [.textLike, .pattern]).optionally [.boolean]
    |>.describedAs "split(s, sep, [includeEmptyTokens]) splits on a literal or regex separator",
  (((Function.new "splitByLengths" splitByLengths).withArity 2 none).taking [.string, .number]).variadic .number
    |>.describedAs "splitByLengths(s, n1, n2, ...) cuts consecutive substrings",
  (Function.new "toUppercase" (mapText upper)).taking [.textLike],
  (Function.new "toLowercase" (mapText lower)).taking [.textLike],
  (Function.new "toTitlecase" (mapText title)).taking [.textLike],
  (Function.new "trim" (mapText trim)).taking [.string],
  (Function.new "strip" (mapText trim)).taking [.string],
  (Function.new "chomp" chomp).taking [.string, .string],
  ((Function.new "substring" substring).taking [.string, .number]).optionally [.number],
  (Function.new "startsWith" (testTexts beginsWith)).taking [.string, .string],
  (Function.new "endsWith" (testTexts finishesWith)).taking [.string, .string],
  (Function.new "contains" contains).taking [.string, .pattern],
  (Function.new "replace" replace).taking [.string, .pattern, .string],
  (Function.new "replaceChars" replaceChars).taking [.string, .string, .string],
  (Function.new "match" matchGroups).taking [.string, .pattern]
    |>.describedAs "match(s, pattern) returns capture groups when the whole string matches, else null",
  (Function.new "find" find).taking [.string, .pattern],
  ((Function.new "partition" (partition false)).taking [.string, .pattern]).optionally [.boolean],
  ((Function.new "rpartition" (partition true)).taking [.string, .pattern]).optionally [.boolean],
  (Function.new "unicode" unicode).taking [.string],
  (Function.new "fingerprint" (mapText fingerprint)).taking [.any]]

end CellExpr.TextFunctions
