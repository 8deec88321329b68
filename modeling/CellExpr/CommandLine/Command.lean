import CellExpr.Batch.Pool
import CellExpr.Batch.Settings
import CellExpr.CommandLine.Options
import CellExpr.CommandLine.Table
import CellExpr.Function.Standard
import CellExpr.Syntax.Grammar

/-!
# The command

What the command answers to a request: what it prints, and with which code it ends. It prints nothing but the failure if one
stops it. Errors of single rows do not.
-/

namespace CellExpr.CommandLine

open CellExpr.Calendar

/-- Why a file cannot be read. -/
inductive ReadFailure where
  | cannotOpen
  | unreadable (message : String)
  deriving DecidableEq, Repr

/-- What the command finds around it. -/
structure Surroundings where
  now : Instant
  processors : Nat
  environment : String → Option String
  /-- The text of a file. -/
  file : String → Except ReadFailure String

/-- Why the command fails. -/
inductive CommandFailure where
  | syntaxError (error : SyntaxError)
  | invalidRow
  | cannotOpen (path : String)
  | unreadable (message : String)
  | invalidLine (path : String) (number : Nat)
  | evaluation (error : EvalError)

/-- The message of a failure. -/
def CommandFailure.message : CommandFailure → String
  | syntaxError error => "syntax error: " ++ error.text
  | invalidRow => "invalid --row"
  | cannotOpen path => "cannot open " ++ path
  | unreadable message => message
  | invalidLine path number => path ++ ":" ++ toString number
  | evaluation error => error.text

/-- What the command prints, and the code with which it ends. -/
structure Reply where
  code : Nat := 0
  output : String := ""
  /-- What is printed where failures are shown. -/
  complaint : String := ""
  deriving DecidableEq, Repr

namespace Reply

/-- A reply that prints something and ends well. -/
def printing (output : String) : Reply := { output }

/-- The reply to wrong arguments. -/
def ofUsageError (e : UsageError) : Reply := { code := 2, complaint := "error: " ++ e.message ++ "\n" }

/-- The reply when the command fails. -/
def ofFailure (f : CommandFailure) : Reply := { code := 1, complaint := "Error: " ++ f.message ++ "\n" }

/-- What is printed, or the failure. -/
def ofOutput : Except CommandFailure String → Reply
  | .ok output => printing output
  | .error f => ofFailure f

end Reply

/-! ## One row -/

/-- The column from which a row is looked at: the one asked for, or else the first one. -/
def columnOf (column : Option String) (r : Row Value) : String :=
  (column.or r.columns.head?).getD "value"

/-- The only row: that of a text, that of one cell, or one without cells. -/
def singleRow (o : Options) : Except CommandFailure (Row Value) :=
  match o.value, o.row with
  | some text, _ => .ok (.ofCells 0 [o.column.getD "value"] [.string text] .null)
  | none, some text =>
    match readObject? text with
    | some fields => .ok (.ofFields 0 (fieldNames fields) fields)
    | none => .error .invalidRow
  | none, none => .ok (.ofCells 0 [] [] .null)

/-- How the value of a single row is shown. An error is a failure, unless it is shown in JSON. -/
def showValue (outputJson : Bool) (v : Value) : Except CommandFailure String :=
  if outputJson then .ok ((Json.object [("result", v.toWritten)]).render ++ "\n")
  else match v with
    | .error e => .error (.evaluation e)
    | v => .ok (v.text ++ "\n")

/-- Evaluates an expression for a single row. -/
def evaluateSingle (s : Surroundings) (o : Options) (expr : Expr) : Except CommandFailure String :=
  (singleRow o).bind fun r =>
    showValue o.outputJson (expr.eval (.standard s.now) (.ofCell r (columnOf o.column r))).value

/-! ## Many rows -/

/-- The rows of a file. -/
def fileRows (s : Surroundings) (path : String) : Except CommandFailure (List (Row Value)) :=
  match s.file path with
  | .error .cannotOpen => .error (.cannotOpen path)
  | .error (.unreadable message) => .error (.unreadable message)
  | .ok text => (readRows text).mapError (.invalidLine path)

/-- How the result of one of many rows is shown. -/
def showResult (outputJson : Bool) (r : RowResult) : String :=
  if outputJson then r.line ++ "\n" else toString r.row ++ "\t" ++ r.value.text ++ "\n"

/-- The settings of a batch: those of the environment, and the number of workers asked for. -/
def settingsOf (s : Surroundings) (o : Options) : BatchSettings :=
  let settings := BatchSettings.fromEnvironment s.processors s.environment
  { settings with threads := (o.threads.map (max · 1)).getD settings.threads }

/-- The results of all rows. -/
def resultsOf (s : Surroundings) (o : Options) (b : Batch) (rows : List (Row Value)) : List RowResult :=
  if o.parallel then
    let settings := settingsOf s o
    (b.runParallel settings.threads settings.chunkSize false rows).results
  else (b.run (fun _ _ => ((), false)) () false rows).results

/-- Evaluates an expression for the rows of a file. All of them are read before the first one is looked at. -/
def evaluateRows (s : Surroundings) (o : Options) (path : String) (expr : Expr) : Except CommandFailure String :=
  (fileRows s path).map fun rows =>
    match rows with
    | [] => ""
    | first :: _ =>
      let b : Batch := { registry := .standard s.now, expr, column := columnOf o.column first }
      String.join ((resultsOf s o b rows).map (showResult o.outputJson))

/-! ## Requests -/

/-- Evaluates what is asked for. -/
def evaluate (s : Surroundings) (o : Options) : Except CommandFailure String :=
  match Expr.parse o.expression with
  | .error e => .error (.syntaxError e)
  | .ok expr =>
    match o.rows with
    | some path => evaluateRows s o path expr
    | none => evaluateSingle s o expr

/-- The name and the version of the command. -/
def versionText : String := "grel 0.1.0\n"

/-- What the command is for and how it is called. -/
def helpText : String :=
  "\n".intercalate [
    "Evaluate a GREL expression against a value, a row, or every row of a JSON-lines file",
    "",
    "Usage: grel [OPTIONS] <EXPRESSION>",
    "",
    "Arguments:",
    "  <EXPRESSION>  Expression to evaluate, e.g. \"value.split(',').length()\"",
    "",
    "Options:",
    "      --value <VALUE>      Cell value bound to \x60value\x60",
    "      --row <ROW>          Single row as a JSON object keyed by column name",
    "      --rows <ROWS>        JSON-lines file with one row object per line",
    "      --column <COLUMN>    Column whose cell is bound to \x60value\x60 (defaults to the first column)",
    "      --parallel           Evaluate rows on a thread pool",
    "      --threads <THREADS>  Worker threads for --parallel (overrides GREL_THREADS)",
    "      --output-json        Print results as JSON",
    "  -h, --help               Print help",
    "  -V, --version            Print version",
    ""]

/-- The reply to a request. -/
def answer (s : Surroundings) : Request → Reply
  | .evaluate o => .ofOutput (evaluate s o)
  | .help => .printing helpText
  | .version => .printing versionText

/-- The reply to some arguments. -/
def run (s : Surroundings) (args : List String) : Reply :=
  match Request.read args with
  | .ok request => answer s request
  | .error e => .ofUsageError e

end CellExpr.CommandLine
