import CellExpr.Number.Count

/-!
# Settings of batches

How many workers a batch has and how many rows they take at a time. The environment may say otherwise than the defaults.
-/

namespace CellExpr

/-- The settings of a batch. -/
structure BatchSettings where
  /-- The number of workers. -/
  threads : Nat
  /-- The number of rows that a worker takes at a time. -/
  chunkSize : Nat := 64
  deriving DecidableEq, Repr

namespace BatchSettings

/-- The count that a setting of the environment gives. Anything but a positive count is left aside. -/
def fromSetting? (environment : String → Option String) (name : String) : Option Nat :=
  (environment name).bind fun text => Number.positiveCount? text.toList

/-- The setting with the number of workers. -/
def threadsSetting : String := "GREL_THREADS"

/-- The setting with the number of rows at a time. -/
def chunkSizeSetting : String := "GREL_CHUNK_SIZE"

/-- A worker for each processor, unless the environment says otherwise. -/
def fromEnvironment (processors : Nat) (environment : String → Option String) : BatchSettings :=
  let standard : BatchSettings := { threads := processors }
  { threads := (fromSetting? environment threadsSetting).getD standard.threads
    chunkSize := (fromSetting? environment chunkSizeSetting).getD standard.chunkSize }

end BatchSettings

end CellExpr
