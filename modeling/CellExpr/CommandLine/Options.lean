import CellExpr.Number.Count

/-!
# Options

What the arguments of the command ask for. An option has a long name; its value is the next argument, or stands after an equals
sign. After two hyphens alone no argument is an option any more.
-/

namespace CellExpr.CommandLine

/-- An option that takes a value. -/
inductive ValueOption where
  | value
  | row
  | rows
  | column
  | threads
  deriving DecidableEq, Repr

/-- An option without a value. -/
inductive Flag where
  | parallel
  | outputJson
  | help
  | version
  deriving DecidableEq, Repr

/-- The name of an option, without hyphens before it. -/
def ValueOption.name : ValueOption → String
  | value => "value"
  | row => "row"
  | rows => "rows"
  | column => "column"
  | threads => "threads"

/-- The name of a flag, without hyphens before it. -/
def Flag.name : Flag → String
  | parallel => "parallel"
  | outputJson => "output-json"
  | help => "help"
  | version => "version"

/-- What is wrong with the arguments. -/
inductive UsageError where
  | noExpression
  | unexpected (argument : String)
  | noValue (option : ValueOption)
  | invalidValue (option : ValueOption) (text : String)
  | valueOfFlag (flag : Flag)
  | repeatedOption (option : ValueOption)
  | repeatedFlag (flag : Flag)
  | conflict (first second : ValueOption)
  | parallelWithoutRows
  deriving DecidableEq, Repr

/-- The message of a usage error. -/
def UsageError.message : UsageError → String
  | noExpression => "the expression is missing"
  | unexpected argument => "unexpected argument '" ++ argument ++ "'"
  | noValue option => "a value is required for --" ++ option.name
  | invalidValue option text => "invalid value '" ++ text ++ "' for --" ++ option.name
  | valueOfFlag flag => "--" ++ flag.name ++ " takes no value"
  | repeatedOption option => "--" ++ option.name ++ " cannot be used more than once"
  | repeatedFlag flag => "--" ++ flag.name ++ " cannot be used more than once"
  | conflict first second => "--" ++ first.name ++ " cannot be used with --" ++ second.name
  | parallelWithoutRows => "--parallel needs --rows"

/-- What an expression is to be evaluated for, and how that is shown. -/
structure Options where
  expression : String
  /-- The value of the only cell. -/
  value : Option String := none
  /-- The text of one row. -/
  row : Option String := none
  /-- The name of a file with rows. -/
  rows : Option String := none
  column : Option String := none
  parallel : Bool := false
  threads : Option Nat := none
  outputJson : Bool := false
  deriving DecidableEq, Repr

/-- What the command is asked for. -/
inductive Request where
  | evaluate (options : Options)
  | help
  | version
  deriving DecidableEq, Repr

/-- What has been read of the arguments. -/
structure Draft where
  expression : Option String := none
  values : List (ValueOption × String) := []
  flags : List Flag := []

namespace Draft

/-- The value of an option. -/
def valueOf (d : Draft) (option : ValueOption) : Option String := d.values.lookup option

/-- Whether an option can have a value. -/
def allows (option : ValueOption) (text : String) : Bool :=
  match option with
  | .rows => text ≠ ""
  | .threads => (Number.count? text.toList).isSome
  | _ => true

/-- The draft with an option. -/
def setValue (d : Draft) (option : ValueOption) (text : String) : Except UsageError Draft :=
  if !allows option text then .error (.invalidValue option text)
  else if (d.valueOf option).isSome then .error (.repeatedOption option)
  else .ok { d with values := (option, text) :: d.values }

/-- The draft with a flag. -/
def setFlag (d : Draft) (flag : Flag) : Except UsageError Draft :=
  if d.flags.contains flag then .error (.repeatedFlag flag) else .ok { d with flags := flag :: d.flags }

/-- The draft with an argument that is no option. -/
def setExpression (d : Draft) (text : String) : Except UsageError Draft :=
  match d.expression with
  | none => .ok { d with expression := some text }
  | some _ => .error (.unexpected text)

/-- Options that exclude one another. -/
def conflicts : List (ValueOption × ValueOption) := [(.value, .row), (.value, .rows), (.row, .rows)]

/-- The request that has been read in full. -/
def finish (d : Draft) : Except UsageError Request :=
  match d.expression with
  | none => .error .noExpression
  | some expression =>
    match conflicts.find? fun (a, b) => (d.valueOf a).isSome && (d.valueOf b).isSome with
    | some (a, b) => .error (.conflict a b)
    | none =>
      if d.flags.contains .parallel && (d.valueOf .rows).isNone then .error .parallelWithoutRows
      else .ok <| .evaluate {
        expression
        value := d.valueOf .value
        row := d.valueOf .row
        rows := d.valueOf .rows
        column := d.valueOf .column
        parallel := d.flags.contains .parallel
        threads := (d.valueOf .threads).bind fun text => Number.count? text.toList
        outputJson := d.flags.contains .outputJson }

end Draft

/-- The shape of an argument. -/
inductive Argument where
  | plain (text : String)
  /-- Two hyphens alone. -/
  | divider
  | long (name : String) (attached : Option String)
  /-- A hyphen and some letters. -/
  | short (letters : List Char)

/-- The shape of an argument. A hyphen alone is plain. -/
def Argument.ofText (text : String) : Argument :=
  match text.toList with
  | ['-', '-'] => .divider
  | '-' :: '-' :: rest =>
    let name := rest.takeWhile (· ≠ '=')
    .long (String.ofList name) ((rest.drop name.length).tail?.map String.ofList)
  | '-' :: c :: rest => .short (c :: rest)
  | _ => .plain text

/-- Whether an argument cannot be the value of the option before it. -/
def Argument.isOption : Argument → Bool
  | plain _ => false
  | _ => true

/-- The option with a name. -/
def valueOption? (name : String) : Option ValueOption :=
  [ValueOption.value, .row, .rows, .column, .threads].find? (·.name == name)

/-- The flag with a name. -/
def flag? (name : String) : Option Flag := [Flag.parallel, .outputJson, .help, .version].find? (·.name == name)

namespace Request

/-- Reads arguments that are no options. -/
def ofPlain (d : Draft) : List String → Except UsageError Request
  | [] => d.finish
  | text :: rest => (d.setExpression text).bind fun d => ofPlain d rest

/-- Reads arguments one after the other. A request for help or for the version is the last one that is read. -/
def ofArgs (d : Draft) : List String → Except UsageError Request
  | [] => d.finish
  | text :: rest =>
    match Argument.ofText text with
    | .plain text => (d.setExpression text).bind fun d => ofArgs d rest
    | .divider => ofPlain d rest
    | .short ('h' :: _) => .ok .help
    | .short ('V' :: _) => .ok .version
    | .short _ => .error (.unexpected text)
    | .long name attached =>
      match flag? name, attached with
      | some flag, some _ => .error (.valueOfFlag flag)
      | some .help, none => .ok .help
      | some .version, none => .ok .version
      | some flag, none => (d.setFlag flag).bind fun d => ofArgs d rest
      | none, attached =>
        match valueOption? name, attached, rest with
        | none, _, _ => .error (.unexpected text)
        | some option, some value, rest => (d.setValue option value).bind fun d => ofArgs d rest
        | some option, none, [] => .error (.noValue option)
        | some option, none, value :: rest =>
          if (Argument.ofText value).isOption then .error (.noValue option)
          else (d.setValue option value).bind fun d => ofArgs d rest

/-- The request of some arguments. -/
def read (args : List String) : Except UsageError Request := ofArgs {} args

end Request

end CellExpr.CommandLine
