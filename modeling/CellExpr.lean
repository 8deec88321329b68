import CellExpr.Batch.Basic
import CellExpr.Batch.Pool
import CellExpr.Batch.Settings
import CellExpr.Calendar.Civil
import CellExpr.Calendar.Instant
import CellExpr.Calendar.Layout
import CellExpr.Calendar.Reading
import CellExpr.Calendar.TimeUnit
import CellExpr.Calendar.Writing
import CellExpr.CommandLine.Command
import CellExpr.CommandLine.Options
import CellExpr.CommandLine.Table
import CellExpr.Evaluation.Eval
import CellExpr.Evaluation.Operators
import CellExpr.Evaluation.Position
import CellExpr.Evaluation.Range
import CellExpr.Evaluation.Scope
import CellExpr.Evaluation.Traced
import CellExpr.ExprCache
import CellExpr.Function.Arguments
import CellExpr.Function.Conversion
import CellExpr.Function.Dates
import CellExpr.Function.Descriptor
import CellExpr.Function.Logic
import CellExpr.Function.Math
import CellExpr.Function.Registry
import CellExpr.Function.Sequence
import CellExpr.Function.Standard
import CellExpr.Function.Text
import CellExpr.Json.Document
import CellExpr.Json.Reader
import CellExpr.Json.Writer
import CellExpr.Main
import CellExpr.Number.Count
import CellExpr.Number.Exact
import CellExpr.Number.Layout
import CellExpr.Number.Reading
import CellExpr.Number.Rounding
import CellExpr.Number.Shortest
import CellExpr.Pattern.CharClass
import CellExpr.Pattern.Footprint
import CellExpr.Pattern.Node
import CellExpr.Pattern.Program
import CellExpr.Pattern.Property
import CellExpr.Pattern.Reader
import CellExpr.Pattern.Regex
import CellExpr.Pattern.Search
import CellExpr.Pattern.Splitting
import CellExpr.Pattern.Template
import CellExpr.Pattern.Utf8
import CellExpr.Pattern.Words
import CellExpr.Syntax.Error
import CellExpr.Syntax.Expr
import CellExpr.Syntax.Grammar
import CellExpr.Syntax.Sexp
import CellExpr.Syntax.Token
import CellExpr.Syntax.TokenStream
import CellExpr.Text.Age
import CellExpr.Text.Alphabet
import CellExpr.Text.Blank
import CellExpr.Text.CaseMap
import CellExpr.Text.CaseTable
import CellExpr.Text.Category
import CellExpr.Text.CharTable
import CellExpr.Text.Editing
import CellExpr.Text.FoldTable
import CellExpr.Text.GraphemeBreak
import CellExpr.Text.Occurrence
import CellExpr.Text.Property
import CellExpr.Text.Script
import CellExpr.Text.SentenceBreak
import CellExpr.Text.WordBreak
import CellExpr.Value.Basic
import CellExpr.Value.Documents
import CellExpr.Value.Equality
import CellExpr.Value.Error
import CellExpr.Proofs.Grammar.Calls
import CellExpr.Proofs.Grammar.Reading
import CellExpr.Proofs.Grammar.Completeness
import CellExpr.Proofs.Grammar.Formed
import CellExpr.Proofs.Grammar.Neighbours
import CellExpr.Proofs.Grammar.Recognition
import CellExpr.Proofs.Height
import CellExpr.Proofs.Writing.RoundTrip
import CellExpr.Proofs.Evaluation.Complete
import CellExpr.Proofs.Evaluation.Positions
import CellExpr.Proofs.Calendar.Extent
import CellExpr.Proofs.Evaluation.Bodies
import CellExpr.Proofs.Evaluation.Safety
import CellExpr.Proofs.Syntax.Parts
import CellExpr.Proofs.Evaluation.Strictness
import CellExpr.Proofs.Evaluation.Exposure
import CellExpr.Proofs.Evaluation.Openness
import CellExpr.Proofs.Evaluation.Reach
import CellExpr.Proofs.Evaluation.Selection
import CellExpr.Proofs.Batch.Steps
import CellExpr.Proofs.Batch.Results
import CellExpr.Proofs.Function.Invocation
import CellExpr.Proofs.Function.Registration
import CellExpr.Proofs.Evaluation.CalledNames
import CellExpr.Proofs.Batch.SingleWorker
import CellExpr.Proofs.Evaluation.FreeVariables
import CellExpr.Proofs.Scanning.Tiling
import CellExpr.Proofs.Scanning.Insertion
import CellExpr.Proofs.Grammar.FrontEnds
import CellExpr.Proofs.Grammar.ErrorPlaces
import CellExpr.Proofs.Grammar.Slashes
import CellExpr.Proofs.CacheHistory
import CellExpr.Proofs.Evaluation.Renaming
import CellExpr.Proofs.Evaluation.OtherForms
import CellExpr.Proofs.Grammar.CallFaults
import CellExpr.Proofs.Grammar.Shapes
import CellExpr.Proofs.Json.Documents
import CellExpr.Proofs.Json.Equality
import CellExpr.Proofs.Json.RoundTrip
import CellExpr.Proofs.CommandLine.InputModes
import CellExpr.Proofs.Evaluation.BooleanLaws
import CellExpr.Proofs.Evaluation.Loops
import CellExpr.Proofs.Number.Order
import CellExpr.Proofs.Number.Addition
import CellExpr.Proofs.Evaluation.Ranges
import CellExpr.Proofs.CommandLine.RowFiles
import CellExpr.Proofs.Json.Paths
import CellExpr.Proofs.Json.WrittenForms
import CellExpr.Proofs.Function.ElementOrder
import CellExpr.Proofs.Value.Equality
import CellExpr.Proofs.Value.Comparison
import CellExpr.Proofs.Evaluation.Filters
import CellExpr.Proofs.Function.Comparing
import CellExpr.Proofs.Function.Sorting
import CellExpr.Proofs.Function.Uniques
import CellExpr.Proofs.Number.Whole
import CellExpr.Proofs.Function.Stretches
import CellExpr.Proofs.Function.Indexing
import CellExpr.Proofs.Text.Occurrences
import CellExpr.Proofs.Function.Searching
import CellExpr.Proofs.Text.Pieces
import CellExpr.Proofs.Function.Splitting
import CellExpr.Proofs.Pattern.Matches
import CellExpr.Proofs.Pattern.Emission
import CellExpr.Proofs.Pattern.Exploration
import CellExpr.Proofs.Pattern.Reading
import CellExpr.Proofs.Pattern.Literals
import CellExpr.Proofs.Pattern.Anchored
import CellExpr.Proofs.Pattern.LiteralMatches
import CellExpr.Proofs.Pattern.Tails
import CellExpr.Proofs.Pattern.TailReaders
import CellExpr.Proofs.Function.WholeMatches
import CellExpr.Proofs.Function.Patterns
import CellExpr.Proofs.Function.LiteralPatterns
import CellExpr.Proofs.Function.Partitions
import CellExpr.Proofs.Function.CuttingByLengths
import CellExpr.Proofs.Text.Words
import CellExpr.Proofs.Text.LowerCase
import CellExpr.Proofs.Function.Fingerprints
import CellExpr.Proofs.Number.Nearest
import CellExpr.Proofs.Number.Accuracy
import CellExpr.Proofs.Number.Decimals
import CellExpr.Proofs.Number.Spellings
import CellExpr.Proofs.Evaluation.NumericTexts
import CellExpr.Proofs.Scanning.Numbers
import CellExpr.Proofs.Number.Shortest
import CellExpr.Proofs.Number.WholeTexts
import CellExpr.Proofs.Evaluation.ShownNumbers
import CellExpr.Proofs.Scanning.Strings
import CellExpr.Proofs.Evaluation.Rows
import CellExpr.Proofs.Function.ArgumentKinds
import CellExpr.Proofs.Evaluation.NestedFrames
import CellExpr.Proofs.Calendar.Months
import CellExpr.Proofs.Calendar.Shifts
import CellExpr.Proofs.Calendar.Differences
import CellExpr.Proofs.Number.Negation
import CellExpr.Proofs.Function.DateArithmetic
import CellExpr.Proofs.Number.Sums
import CellExpr.Proofs.Number.HalfUp
import CellExpr.Proofs.Function.Rounding
import CellExpr.Proofs.Calendar.LetterPatterns
import CellExpr.Proofs.Calendar.WrittenDates
import CellExpr.Proofs.Calendar.FieldPatterns
import CellExpr.Proofs.Function.DateTexts
import CellExpr.Proofs.Scanning.Progress
