/-!
# JSON documents

A document keeps the order in which its objects name their fields, and keeps whole numbers apart from doubles. Equality
leaves the order of fields aside.
-/

namespace CellExpr

/-- A JSON document. -/
inductive Json where
  | null
  | boolean (b : Bool)
  /-- A whole number as written without point or exponent. -/
  | whole (n : Int)
  /-- Any other number. It is finite. -/
  | double (x : Float)
  | string (s : String)
  | array (items : List Json)
  | object (fields : List (String × Json))

namespace Json

/-- The fields with one of them set: a known name keeps its place, a new one comes last. -/
def setField (key : String) (value : Json) : List (String × Json) → List (String × Json)
  | [] => [(key, value)]
  | (k, v) :: rest => if k = key then (key, value) :: rest else (k, v) :: setField key value rest

/-- Named values set one after the other. -/
def ofFields (named : List (String × Json)) : List (String × Json) :=
  named.foldl (fun fields (key, value) => setField key value fields) []

/-- Puts a field before the first one whose name is greater. -/
def insertByName (key : String) (value : Json) : List (String × Json) → List (String × Json)
  | [] => [(key, value)]
  | (k, v) :: rest => if key < k then (key, value) :: (k, v) :: rest else (k, v) :: insertByName key value rest

mutual

/-- The document with the fields of each object in the order of their names; of a repeated name the last one stays. -/
def canonical : Json → Json
  | .array items => .array (canonicalItems items)
  | .object fields => .object (canonicalFields fields)
  | other => other

def canonicalItems : List Json → List Json
  | [] => []
  | item :: rest => item.canonical :: canonicalItems rest

def canonicalFields : List (String × Json) → List (String × Json)
  | [] => []
  | (key, value) :: rest =>
    let later := canonicalFields rest
    if later.any (·.1 == key) then later else insertByName key value.canonical later

end

mutual

/-- Equality that minds the order of fields. -/
def identical : Json → Json → Bool
  | .null, .null => true
  | .boolean a, .boolean b => a == b
  | .whole a, .whole b => a == b
  | .double a, .double b => a == b
  | .string a, .string b => a == b
  | .array as, .array bs => identicalItems as bs
  | .object as, .object bs => identicalFields as bs
  | _, _ => false

def identicalItems : List Json → List Json → Bool
  | [], [] => true
  | a :: as, b :: bs => identical a b && identicalItems as bs
  | _, _ => false

def identicalFields : List (String × Json) → List (String × Json) → Bool
  | [], [] => true
  | (k, a) :: as, (l, b) :: bs => k == l && identical a b && identicalFields as bs
  | _, _ => false

end

/-- Equality of documents. A whole number differs from a double of the same value. -/
instance : BEq Json := ⟨fun a b => identical a.canonical b.canonical⟩

end Json

end CellExpr
