import CellExpr.Calendar.Reading
import CellExpr.Function.Arguments
import CellExpr.Json.Reader

/-!
# Conversions

Values as texts, numbers, dates and JSON, and back.
-/

namespace CellExpr.ConversionFunctions

open CellExpr.Args CellExpr.Calendar

/-- `toString(value, [layout])`. Only dates have layouts. -/
def toText : Body := body fun args => do
  match ← nth args 0, args[1]? with
  | v, none => return .string v.text
  | .date d, some layout => return .ofChars (d.format (Layout.ofLetters (← text layout).toList))
  | v, some _ => .fault (.formatOfOther v.typeName)

/-- `toNumber(value)` -/
def toNumber : Body := body fun args => do
  match ← nth args 0 with
  | .number x => return .number x
  | .string s => return .number (← .orFault (.notANumber s) (Number.parse? s))
  | v => .fault (.notConvertible v.typeName)

/-- `toDate(text, [layout, …])` -/
def toDate : Body := body fun args => do
  match ← nth args 0 with
  | .date d => return .date d
  | .string s =>
    let layouts ← (← after args 1).mapM text
    return .date (← .orFault (.notADate s) (Instant.read? s.toList (layouts.map fun l => .ofLetters l.toList)))
  | _ => .fault (.expected "string or date")

/-- `parseJson(text)` -/
def parseJson : Body := body fun args => do
  match Json.parse? (← textAt args 0) with
  | some j => return .ofJson j
  | none => .error (.error (Fault.invalidJson.toError.causedBy { kind := .semantic, message := "invalid JSON" }))

/-- `jsonize(value)` -/
def jsonize : Body := body fun args => do
  return .string (← nth args 0).jsonText

/-- The conversions. -/
def all : List Function := [
  ((Function.new "toString" toText).taking [.any]).optionally [.string],
  (Function.new "toNumber" toNumber).taking [.any],
  (((Function.new "toDate" toDate).withArity 1 none).taking [.kinds [.string, .date]]).variadic .string
    |>.describedAs "toDate(s, [format, ...]) tries each yyyy-MM-dd style format in turn",
  (Function.new "parseJson" parseJson).taking [.string],
  (Function.new "jsonize" jsonize).taking [.any]]

end CellExpr.ConversionFunctions
