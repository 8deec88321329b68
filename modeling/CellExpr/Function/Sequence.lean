import CellExpr.Evaluation.Operators
import CellExpr.Function.Text

/-!
# Functions on sequences

Length, parts, positions and order of texts and arrays.
-/

namespace CellExpr.SequenceFunctions

open CellExpr.Args CellExpr.Text

/-- The number of characters or elements. -/
def lengthOf : Value → Outcome Nat
  | .string s => .ok s.toList.length
  | v => return (← array v).length

/-- `length(sequence)` -/
def length : Body := body fun args => do
  return .ofNat (← lengthOf (← nth args 0))

/-- `join(array, separator)`: blank elements are left out. -/
def join : Body := body fun args => do
  let separator ← textAt args 1
  let items ← arrayAt args 0
  return .string (separator.intercalate ((items.filter (!·.isBlank)).map Value.text))

/-- The part of a text or an array between two bounds. -/
def partOf (v : Value) (first : Float) (last : Option Float) : Outcome Value := do
  match v with
  | .string s => TextFunctions.textPart s first last
  | v =>
    let items ← array v
    let (start, stop) ← .stretch items.length first last
    return .array (← .part items start stop)

/-- `slice(sequence, from, [to])` -/
def slice : Body := body fun args => do
  let first ← numberAt args 1
  let last ← numberAt? args 2
  partOf (← nth args 0) first last

/-- The character or element at a place that the sequence has. -/
def elementOf (v : Value) (place : Nat) : Outcome Value := do
  match v with
  | .string s => return .ofChars [← .elementAt s.toList place]
  | v => .elementAt (← array v) place

/-- `get(sequence, from, [to])` -/
def get : Body := body fun args => do
  match ← nth args 0, ← nth args 1 with
  | .object o, key => .orFault (.noField o.typeName key.text) (o.entry? key)
  | v, .number x =>
    if args.length = 3 then
      let first ← numberAt args 1
      let last ← numberAt? args 2
      partOf v first last
    else
      let place ← .orFault (.outsideSequence (Value.number x).text) (← .placeOf (← lengthOf v) x)
      elementOf v place
  | _, _ => .fault (.expected "number")

/-- `reverse(sequence)` -/
def reverse : Body := body fun args => do
  match ← nth args 0 with
  | .string s => return .ofChars s.toList.reverse
  | v => return .array (← array v).reverse

/-- The order of two elements that are to be sorted. Texts are compared as texts even where both are numbers. -/
def compareElements (a b : Value) : Result Ordering :=
  match a, b with
  | .string s, .string t => .ok (Value.compareTexts s t)
  | a, b => Value.compare a b

/-- The order that sorting goes by: elements that do not compare count as equal. -/
def elementOrder (a b : Value) : Ordering :=
  match compareElements a b with
  | .ok o => o
  | .error _ => .eq

/-- Whether two elements that are to be sorted are in order. -/
def inOrder (a b : Value) : Bool := elementOrder a b != .gt

/-- Why the kinds of some elements keep these from being sorted: the kind of the first, or that there are several. -/
def kindFault? (items : List Value) : Option Fault :=
  match items with
  | [] => none
  | first :: rest =>
    if !(([.string, .number, .date] : List Kind).contains first.kind) then some (.cannotSort first.typeName)
    else if rest.any (·.kind != first.kind) then some .mixedSort
    else none

/-- Why an array cannot be sorted: the kinds of its elements, or an element among several that has no place in the order. -/
def sortFault? (items : List Value) : Option Fault :=
  match kindFault? items with
  | some f => some f
  | none => if 1 < items.length && items.any (fun v => !v.same v) then some .cannotCompareNaN else none

/-- `sort(array)` -/
def sort : Body := body fun args => do
  let items ← arrayAt args 0
  match sortFault? items with
  | some f => .fault f
  | none => return .array (items.mergeSort inOrder)

/-- The elements that equal none before them, after some that have been kept. -/
def uniqueAfter (kept : List Value) : List Value → List Value
  | [] => []
  | v :: rest =>
    if kept.any (·.same v) then uniqueAfter kept rest else v :: uniqueAfter (kept ++ [v]) rest

/-- `uniques(array)` -/
def uniques : Body := body fun args => do
  return .array (uniqueAfter [] (← arrayAt args 0))

/-- `inArray(array, value)` -/
def inArray : Body := body fun args => do
  let items ← arrayAt args 0
  let v ← nth args 1
  return .boolean (items.any (·.same v))

/-- The place of the first element that equals a value, or of the last one. -/
def placeOfElement? (last : Bool) (items : List Value) (v : Value) : Option Nat :=
  if last then (items.reverse.findIdx? (·.same v)).map (items.length - 1 - ·) else items.findIdx? (·.same v)

/-- The number of characters before the first occurrence of a text in a text, or before the last one. -/
def charsBefore? (last : Bool) (needle s : List Char) : Outcome (Option Nat) :=
  match if last then lastPosition? needle s else firstPosition? needle s with
  | some i => do return some (← .textBetween s 0 (← .byteAt s i)).length
  | none => return none

/-- The place of a text in a text, or of a value in an array; -1 if there is none. -/
def position (last : Bool) : Body := body fun args => do
  let found ← match ← nth args 0 with
    | .string s => do
      let needle ← textAt args 1
      charsBefore? last needle.toList s.toList
    | v => do
      let items ← array v
      pure (placeOfElement? last items (← nth args 1))
  return match found with
    | some i => .ofNat i
    | none => .number (-1)

/-- The functions on sequences. -/
def all : List Function := [
  (Function.new "length" length).taking [.sequence],
  (Function.new "join" join).taking [.array, .string],
  ((Function.new "slice" slice).taking [.sequence, .number]).optionally [.number],
  ((Function.new "get" get).taking [.kinds [.string, .array, .object], .any]).optionally [.number]
    |>.describedAs "get(o, from, [to]) indexes or slices a string or array, or reads an object field",
  (Function.new "reverse" reverse).taking [.sequence],
  (Function.new "sort" sort).taking [.array],
  (Function.new "uniques" uniques).taking [.array],
  (Function.new "inArray" inArray).taking [.array, .any],
  (Function.new "indexOf" (position false)).taking [.sequence, .any],
  (Function.new "lastIndexOf" (position true)).taking [.sequence, .any]]

end CellExpr.SequenceFunctions
