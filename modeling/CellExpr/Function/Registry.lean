import CellExpr.Function.Descriptor

/-!
# Registries

The functions that expressions can call, by their names. A name stands for the first function that was registered under it
for good.
-/

namespace CellExpr

/-- Why a function is not registered. -/
inductive RegistryError where
  | emptyName
  | duplicate (name : String)
  | invalidArity (name : String) (least most : Nat)
  /-- It declares more places than it takes arguments. -/
  | tooManyKinds (name : String) (declared most : Nat)
  deriving DecidableEq, Repr

/-- The message of a registry error. -/
def RegistryError.message : RegistryError → String
  | emptyName => "function name cannot be empty"
  | duplicate name => s!"function '{name}' is already registered"
  | invalidArity name least most => s!"function '{name}': min_args {least} is greater than max_args {most}"
  | tooManyKinds name declared most =>
    s!"function '{name}': declares {declared} parameter kinds but accepts at most {most} arguments"

/-- What is wrong with a declaration. -/
def Function.declarationError? (f : Function) : Option RegistryError :=
  if f.name = "" then some .emptyName
  else match f.maxArgs with
    | none => none
    | some most =>
      if most < f.minArgs then some (.invalidArity f.name f.minArgs most)
      else if most < f.params.length then some (.tooManyKinds f.name f.params.length most)
      else none

/-- The functions that can be called, the latest registered first. -/
structure Registry where
  functions : List Function := []

namespace Registry

/-- The registry without functions. -/
def empty : Registry := {}

/-- The function with a name. Case matters. -/
def lookup? (r : Registry) (name : String) : Option Function := r.functions.find? (·.name == name)

/-- Whether there is a function with a name. -/
def has (r : Registry) (name : String) : Bool := (r.lookup? name).isSome

/-- The number of functions. -/
def size (r : Registry) : Nat := r.functions.length

/-- The registry with another function, if its declaration is right and its name is new. -/
def register (r : Registry) (f : Function) : Except RegistryError Registry :=
  match f.declarationError? with
  | some e => .error e
  | none => if r.has f.name then .error (.duplicate f.name) else .ok ⟨f :: r.functions⟩

/-- The registry of some functions, whose names differ. -/
def ofFunctions (fs : List Function) : Registry := ⟨fs⟩

end Registry

end CellExpr
