import CellExpr.Number.Exact
import CellExpr.Syntax.Grammar

/-!
# The cache of expressions

Parsed texts are kept, up to a number of them, so that a text that comes again is not parsed again. A full cache is emptied
before another text goes in. Texts that are not expressions are not kept.
-/

namespace CellExpr

/-- An expression and the number of the parse that it comes from. Two with one number are the same tree in memory. -/
structure SharedExpr where
  expr : Expr
  serial : Nat

/-- Parsed texts, and how often a text was there already or was not. -/
structure ExprCache where
  capacity : Nat
  capacity_pos : 0 < capacity
  /-- The texts and their expressions, the latest one first. Each text occurs once. -/
  entries : List (String × SharedExpr) := []
  hits : Nat := 0
  misses : Nat := 0

namespace ExprCache

/-- The empty cache for a number of texts, or for one text if the number is 0. -/
def new (capacity : Nat) : ExprCache := { capacity := max capacity 1, capacity_pos := by omega }

/-- The number of texts that a cache holds unless it is told otherwise. -/
def defaultCapacity : Nat := 1000

/-- The number of texts in the cache. -/
def size (c : ExprCache) : Nat := c.entries.length

/-- Whether there is no text in the cache. -/
def isEmpty (c : ExprCache) : Bool := c.entries.isEmpty

/-- The expression of a text that is in the cache. -/
def get? (c : ExprCache) (text : String) : Option SharedExpr := c.entries.lookup text

/-- The cache without its texts. What was counted stays. -/
def clear (c : ExprCache) : ExprCache := { c with entries := [] }

/-- The cache with another text. -/
def insert (c : ExprCache) (text : String) (shared : SharedExpr) : ExprCache :=
  { c with entries := (text, shared) :: if c.capacity ≤ c.size then [] else c.entries }

/-- The expression of a text, from the cache or parsed, and the cache afterwards. Each parse has the number of its miss. -/
def getOrParse (c : ExprCache) (text : String) : Except SyntaxError SharedExpr × ExprCache :=
  match c.get? text with
  | some shared => (.ok shared, { c with hits := c.hits + 1 })
  | none =>
    let c := { c with misses := c.misses + 1 }
    match Expr.parse text with
    | .error e => (.error e, c)
    | .ok expr =>
      let shared := ⟨expr, c.misses⟩
      (.ok shared, c.insert text shared)

/-- The share of texts that were there already: 0 before the first one. -/
def hitRate (c : ExprCache) : Float :=
  if c.hits + c.misses = 0 then 0 else Number.ofNat c.hits / Number.ofNat (c.hits + c.misses)

end ExprCache

end CellExpr
