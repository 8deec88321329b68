import CellExpr.Json.Document
import CellExpr.Number.Layout

/-!
# Writing JSON

The compact text of a document: no blanks between tokens, fields in their order.
-/

namespace CellExpr.Json

/-- Four hexadecimal digits of a code below `0x10000`. -/
def hexDigits4 (n : Nat) : List Char :=
  [n / 4096 % 16, n / 256 % 16, n / 16 % 16, n % 16].map Nat.digitChar

/-- A character inside a string. Quotes, backslashes and controls are escaped. -/
def escapeChar (c : Char) : List Char :=
  if c = '"' then ['\\', '"']
  else if c = '\\' then ['\\', '\\']
  else if c = '\n' then ['\\', 'n']
  else if c = '\r' then ['\\', 'r']
  else if c = '\t' then ['\\', 't']
  else if c.toNat = 8 then ['\\', 'b']
  else if c.toNat = 12 then ['\\', 'f']
  else if c.toNat < 32 then '\\' :: 'u' :: hexDigits4 c.toNat
  else [c]

/-- A string between quotes. -/
def quote (s : String) : String := String.ofList ('"' :: s.toList.flatMap escapeChar ++ ['"'])

/-- A finite double, or `null` for any other. -/
def doubleText (x : Float) : String :=
  match Number.exact x with
  | .finite negative units => Number.jsonText negative units
  | _ => "null"

mutual

/-- The compact text. -/
def render : Json → String
  | .null => "null"
  | .boolean b => if b then "true" else "false"
  | .whole n => toString n
  | .double x => doubleText x
  | .string s => quote s
  | .array items => "[" ++ ",".intercalate (renderItems items) ++ "]"
  | .object fields => "\x7b" ++ ",".intercalate (renderFields fields) ++ "\x7d"

def renderItems : List Json → List String
  | [] => []
  | item :: rest => item.render :: renderItems rest

def renderFields : List (String × Json) → List String
  | [] => []
  | (key, value) :: rest => (quote key ++ ":" ++ value.render) :: renderFields rest

end

end CellExpr.Json
