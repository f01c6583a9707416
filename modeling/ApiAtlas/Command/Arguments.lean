import ApiAtlas.Config
import ApiAtlas.Document.Format

/-!
# Command-line arguments

Arguments are read from left to right. An option with a value takes it after an equals sign, right
after its letter, or from the next argument. A value is checked when the next option or operand
begins, so that of two faults the earlier one counts, unless the later argument is unknown.
-/

namespace ApiAtlas.Command

open Document (Format)

/-- Why arguments are not accepted, or what they ask for instead of a run. -/
inductive Usage
  | missingOperand
  | unknownOption
  | invalidValue
  | repeatedOption
  | unexpectedValue
  | help
  | version
  deriving DecidableEq, Repr

/-- The arguments of a run. -/
structure Arguments where
  /-- The directories with types and handlers. -/
  sources : List String := []
  /-- The files with routes. -/
  routes : List String := []
  config : Option String := none
  format : Option Format := none
  output : Option String := none
  title : Option String := none
  version : Option String := none
  style : Option ParameterStyle := none
  writesAccessors : Bool := false
  isVerbose : Bool := false
  deriving DecidableEq, Repr

/-- The options. -/
inductive Flag
  | routes
  | config
  | format
  | output
  | title
  | version
  | style
  | accessors
  | verbose
  | showHelp
  | showVersion
  deriving DecidableEq, Repr

namespace Flag

/-- The long names of the options. -/
def longNames : List (String × Flag) :=
  [("routes", .routes), ("config", .config), ("format", .format), ("output", .output),
    ("title", .title), ("api-version", .version), ("parameter-style", .style),
    ("write-accessors", .accessors), ("verbose", .verbose), ("help", .showHelp),
    ("version", .showVersion)]

/-- The letters of the options. -/
def letters : List (Char × Flag) :=
  [('r', .routes), ('c', .config), ('f', .format), ('o', .output), ('v', .verbose),
    ('h', .showHelp), ('V', .showVersion)]

/-- Whether an option takes a value. -/
def takesValue : Flag → Bool
  | .routes | .config | .format | .output | .title | .version | .style => true
  | .accessors | .verbose | .showHelp | .showVersion => false

end Flag

/-! ## Single options -/

/-- A path, which may not be empty. -/
def path (value : String) : Except Usage String :=
  if value.isEmpty then .error .invalidValue else .ok value

/-- A value that must be known. -/
def known {α : Type} (value : Option α) : Except Usage α :=
  match value with
  | some a => .ok a
  | none => .error .invalidValue

/-- A setting that is given once. -/
def once {α : Type} (previous : Option α) (value : Except Usage α) : Except Usage (Option α) :=
  if previous.isSome then .error .repeatedOption else value.map some

/-- A switch that is given once. -/
def switch (previous : Bool) : Except Usage Bool :=
  if previous then .error .repeatedOption else .ok true

/-- Applies an option with its value, which is empty for one that takes none. -/
def Flag.apply (a : Arguments) (value : String) : Flag → Except Usage Arguments
  | .routes => (path value).map fun file ↦ { a with routes := a.routes ++ [file] }
  | .config => (once a.config (path value)).map fun config ↦ { a with config := config }
  | .format =>
    (once a.format (known (Format.ofName? value))).map fun format ↦ { a with format := format }
  | .output => (once a.output (path value)).map fun output ↦ { a with output := output }
  | .title => (once a.title (.ok value)).map fun title ↦ { a with title := title }
  | .version => (once a.version (.ok value)).map fun version ↦ { a with version := version }
  | .style =>
    (once a.style (known (ParameterStyle.ofName? value))).map fun style ↦ { a with style := style }
  | .accessors =>
    (switch a.writesAccessors).map fun on ↦ { a with writesAccessors := on }
  | .verbose => (switch a.isVerbose).map fun on ↦ { a with isVerbose := on }
  | .showHelp => .error .help
  | .showVersion => .error .version

/-! ## Reading -/

/-- What was read but not yet checked. -/
inductive Pending
  | nothing
  | operands (values : List String)
  /-- An option whose value is the next argument. -/
  | waiting (flag : Flag)
  | option (flag : Flag) (value : String)
  deriving DecidableEq, Repr

/-- The state of reading. -/
structure State where
  arguments : Arguments := {}
  pending : Pending := .nothing

namespace State

/-- Checks what is pending. -/
def settle (s : State) : Except Usage Arguments :=
  match s.pending with
  | .nothing => .ok s.arguments
  | .operands values =>
    (values.mapM path).map fun values ↦
      { s.arguments with sources := s.arguments.sources ++ values }
  | .waiting _ => .error .invalidValue
  | .option flag value => flag.apply s.arguments value

/-- Applies an option at once, after what is pending. -/
def applyNow (s : State) (flag : Flag) (value : String) : Except Usage State := do
  let a ← s.settle
  return { arguments := ← flag.apply a value }

/-- Waits for the value of an option. -/
def await (s : State) (flag : Flag) : Except Usage State := do
  return { arguments := ← s.settle, pending := .waiting flag }

/-- Reads an operand. -/
def operand (s : State) (value : String) : Except Usage State :=
  match s.pending with
  | .operands values => .ok { s with pending := .operands (values ++ [value]) }
  | _ => do return { arguments := ← s.settle, pending := .operands [value] }

/-- Reads an argument that begins with two dashes. -/
def long (s : State) (body : List Char) : Except Usage State :=
  let name := String.ofList (body.takeWhile fun c ↦ c != '=')
  let attached := body.dropWhile fun c ↦ c != '='
  match Flag.longNames.lookup name with
  | none => .error .unknownOption
  | some flag =>
    match attached, flag.takesValue with
    | _ :: value, true => s.applyNow flag (String.ofList value)
    | _ :: _, false => .error .unexpectedValue
    | [], true => s.await flag
    | [], false => s.applyNow flag ""

/-- Reads the letters after a dash. -/
def short (s : State) : List Char → Except Usage State
  | [] => .ok s
  | c :: rest =>
    match Flag.letters.lookup c with
    | none => .error .unknownOption
    | some flag =>
      if flag.takesValue then
        match rest with
        | [] => s.await flag
        | '=' :: value => s.applyNow flag (String.ofList value)
        | value => s.applyNow flag (String.ofList value)
      else (s.applyNow flag "").bind fun s ↦ s.short rest

/-- Reads an argument before the end of the options. -/
def argument (s : State) (text : String) : Except Usage State :=
  match text.toList, s.pending with
  | '-' :: '-' :: body, _ => s.long body
  | '-' :: c :: body, _ => s.short (c :: body)
  | _, .waiting flag => .ok { s with pending := .option flag text }
  | _, _ => s.operand text

end State

/-- Reads arguments; after two dashes all that follow are operands. -/
def readArguments (s : State) : List String → Except Usage State
  | [] => .ok s
  | text :: rest =>
    if text == "--" then rest.foldlM State.operand s
    else (s.argument text).bind fun s ↦ readArguments s rest

/-- The arguments of a run. At least one source directory is needed. -/
def Arguments.parse (args : List String) : Except Usage Arguments := do
  let a ← (← readArguments {} args).settle
  if a.sources.isEmpty then throw .missingOperand
  return a

end ApiAtlas.Command
