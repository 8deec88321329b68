import CellExpr.Function.Conversion
import CellExpr.Function.Dates
import CellExpr.Function.Logic
import CellExpr.Function.Math
import CellExpr.Function.Registry
import CellExpr.Function.Sequence
import CellExpr.Function.Text

/-!
# The standard functions
-/

namespace CellExpr

/-- All standard functions, called at an instant. -/
def standardFunctions (now : Calendar.Instant) : List Function :=
  TextFunctions.all ++ SequenceFunctions.all ++ MathFunctions.all ++ LogicFunctions.all ++ ConversionFunctions.all ++
    DateFunctions.all now

/-- The registry of the standard functions. -/
def Registry.standard (now : Calendar.Instant) : Registry := .ofFunctions (standardFunctions now)

end CellExpr
