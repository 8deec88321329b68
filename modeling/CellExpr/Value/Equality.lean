import CellExpr.Value.Documents

/-!
# Equality of values

Values of one kind are compared by their contents, numbers as numbers, and objects by their documents. Values of two kinds
are never equal.
-/

namespace CellExpr.Value

mutual

/-- Whether two values are equal. -/
def same : Value → Value → Bool
  | string a, string b => a == b
  | number a, number b => a == b
  | boolean a, boolean b => a == b
  | date a, date b => a == b
  | array a, array b => sameItems a b
  | regex a, regex b => a == b
  | error a, error b => a == b
  | null, null => true
  | object a, object b => (object a).toJson == (object b).toJson
  | _, _ => false

/-- Whether two lists have equal values at all places. -/
def sameItems : List Value → List Value → Bool
  | [], [] => true
  | a :: as, b :: bs => same a b && sameItems as bs
  | _, _ => false

end

end CellExpr.Value
