import CellExpr.Calendar.Writing
import CellExpr.Json.Writer
import CellExpr.Number.Layout
import CellExpr.Value.Basic

/-!
# Values and documents

The JSON document of a value in its two forms, the value of a document, and the text of a value. The forms differ in
numbers that are not finite: the document of a value names them, its written form has null in their place unless they
stand inside an object.
-/

namespace CellExpr

open CellExpr.Calendar

namespace Value

mutual

/-- The document of a value. -/
def toJson : Value → Json
  | string s => .string s
  | number x => if x.isFinite then .double x else .string (Number.text x)
  | boolean b => .boolean b
  | date d => .string d.text
  | array items => .array (itemsToJson items)
  | regex r => .string r.source
  | error e => .object [("error", .string e.message)]
  | null => .null
  | object (.cell v) => .object [("value", v.toJson)]
  | object (.cells ⟨_, _, _, cells⟩) => .object (Json.ofFields (cellsToJson cells))
  | object (.row ⟨index, starred, flagged, cells⟩) =>
    .object [("index", .whole index), ("starred", .boolean starred), ("flagged", .boolean flagged),
      ("cells", .object (Json.ofFields (valuesToJson cells)))]
  | object (.record fields) => .object fields

/-- The documents of some values. -/
def itemsToJson : List Value → List Json
  | [] => []
  | v :: rest => v.toJson :: itemsToJson rest

/-- The documents of named values. -/
def valuesToJson : List (String × Value) → List (String × Json)
  | [] => []
  | (column, v) :: rest => (column, v.toJson) :: valuesToJson rest

/-- The documents of named cells: objects with a value. -/
def cellsToJson : List (String × Value) → List (String × Json)
  | [] => []
  | (column, v) :: rest => (column, .object [("value", v.toJson)]) :: cellsToJson rest

end

mutual

/-- The written form of a value. -/
def toWritten : Value → Json
  | string s => .string s
  | number x => if x.isFinite then .double x else .null
  | boolean b => .boolean b
  | date d => .string d.text
  | array items => .array (itemsToWritten items)
  | regex r => .string r.source
  | error e => .object [("error", .string e.message)]
  | null => .null
  | object o => (object o).toJson

/-- The written forms of some values. -/
def itemsToWritten : List Value → List Json
  | [] => []
  | v :: rest => v.toWritten :: itemsToWritten rest

end

/-- The JSON text of a value. -/
def jsonText (v : Value) : String := v.toWritten.render

/-- The text of a value: what joining and splitting see of it. -/
def text : Value → String
  | string s => s
  | number x => Number.text x
  | boolean b => if b then "true" else "false"
  | date d => d.text
  | regex r => r.source
  | error e => e.text
  | null => ""
  | v => v.toJson.render

mutual

/-- The value of a document. Objects stay documents. -/
def ofJson : Json → Value
  | .null => .null
  | .boolean b => .boolean b
  | .whole n => .number (Number.ofInt n)
  | .double x => .number x
  | .string s => .string s
  | .array items => .array (ofJsonItems items)
  | .object fields => .object (.record fields)

/-- The values of some documents. -/
def ofJsonItems : List Json → List Value
  | [] => []
  | j :: rest => ofJson j :: ofJsonItems rest

end

end Value

/-- The row with named columns whose cells are fields of an object. -/
def Row.ofFields (index : Nat) (columns : List String) (fields : List (String × Json)) : Row Value :=
  { index, cells := columns.map fun column => (column, ((fields.lookup column).map Value.ofJson).getD .null) }

/-- The field of an object with a name. -/
def HostObject.field? (o : HostObject Value) (name : String) : Option Value :=
  match o with
  | cell v => if name = "value" then some v else none
  | cells r => (r.cell? name).map fun v => .object (.cell v)
  | row r =>
    if name = "index" then some (.ofNat r.index)
    else if name = "starred" then some (.boolean r.starred)
    else if name = "flagged" then some (.boolean r.flagged)
    else if name = "cells" then some (.object (.cells r))
    else if name = "columnNames" then some (.array (r.columns.map .string))
    else none
  | record fields => (fields.lookup name).map Value.ofJson

/-- What an object has under a key: the field, if the key is a text. -/
def HostObject.entry? (o : HostObject Value) : Value → Option Value
  | .string name => o.field? name
  | _ => none

end CellExpr
