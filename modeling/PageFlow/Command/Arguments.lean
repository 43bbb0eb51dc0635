/-
# The arguments of a command

A command line is `uiflow [options] task [options and operands]`. The options
that hold for every task may stand before or behind the name of the task; if
they stand in both places the later ones count. An option stands at most once
in each of them. A value follows its option as the next argument or behind `=`.
Behind `--` there are only operands.

Key definitions: `OutputFormat`, `Options`, `Task`, `Invocation`, `Halt`,
`Invocation.parse`.
-/
import PageFlow.Dict
import PageFlow.Explanation
import PageFlow.Text.Split

namespace PageFlow

/-- How results and errors are shown. -/
inductive OutputFormat where
  | text
  | json
  deriving DecidableEq

/-- The options of every task. -/
structure Options where
  output : OutputFormat
  quiet : Bool
  config : Option String
  logLevel : Option String

/-- The operand and the options of a step. -/
structure StepArguments where
  bundle : String
  event : String
  state : Option String
  context : Option String
  data : Option String
  response : Option String
  traceOut : Option String

/-- What is to be done. -/
inductive Task where
  | step (arguments : StepArguments)
  | validate (bundle : String)
  | explain (file : String) (format : ExplainFormat) (verbose : Bool)

/-- A task and the options it is done with. -/
structure Invocation where
  options : Options
  task : Task

/-- Why arguments do not make sense. -/
inductive UsageError where
  | unknownOption (argument : String)
  | missingValue (name : String)
  | invalidValue (name value : String)
  | unexpectedValue (name : String)
  | repeated (name : String)
  | unexpectedOperand (argument : String)
  | unknownTask (name : String)
  | missingTask
  | missingOperand (name : String)
  | missingOption (name : String)

/-- The wording of a usage error. -/
def UsageError.message : UsageError → String
  | .unknownOption a => "unexpected argument '" ++ a ++ "'"
  | .missingValue name => "option '--" ++ name ++ "' needs a value"
  | .invalidValue name value => "invalid value '" ++ value ++ "' for '" ++ name ++ "'"
  | .unexpectedValue name => "option '--" ++ name ++ "' takes no value"
  | .repeated name => "option '--" ++ name ++ "' is given twice"
  | .unexpectedOperand a => "unexpected argument '" ++ a ++ "'"
  | .unknownTask name => "unrecognized subcommand '" ++ name ++ "'"
  | .missingTask => "a subcommand is required"
  | .missingOperand name => "the argument <" ++ name ++ "> is required"
  | .missingOption name => "the option '--" ++ name ++ "' is required"

/-- Why arguments name no task to do. -/
inductive Halt where
  | usage (error : UsageError)
  | version
  | help

/-- What an option takes. -/
inductive OptionKind where
  | flag
  | text
  /-- A path, which is not empty. -/
  | path
  | oneOf (values : List String)

/-- Whether a value is one of those an option takes. -/
def OptionKind.accepts : OptionKind → String → Bool
  | .flag, _ => false
  | .text, _ => true
  | .path, value => value ≠ ""
  | .oneOf values, value => values.contains value

/-- An option that may be given. -/
structure OptionSpec where
  name : String
  kind : OptionKind

/-- The options and operands that were given, the options in any order. -/
structure Given where
  options : Dict String
  operands : List String

namespace Given

/-- Nothing. -/
def nothing : Given := ⟨[], []⟩

/-- Adds an option with its value; a flag has an empty one. -/
def addOption (given : Given) (spec : OptionSpec) (value : String) : Except Halt Given :=
  if Dict.has spec.name given.options then .error (.usage (.repeated spec.name))
  else .ok { given with options := (spec.name, value) :: given.options }

/-- Adds an option with a value that it has to accept. -/
def addValue (given : Given) (spec : OptionSpec) (value : String) : Except Halt Given :=
  if spec.kind.accepts value then given.addOption spec value
  else .error (.usage (.invalidValue spec.name value))

/-- Adds an operand, a path, of which there may be only one. -/
def addOperand (given : Given) (operand : String) : Except Halt Given :=
  if !given.operands.isEmpty then .error (.usage (.unexpectedOperand operand))
  else if operand = "" then .error (.usage (.invalidValue "path" operand))
  else .ok { given with operands := [operand] }

/-- The value of an option. -/
def value? (given : Given) (name : String) : Option String := Dict.find? name given.options

/-- The operand. -/
def operand (given : Given) (name : String) : Except Halt String :=
  match given.operands with
  | [] => .error (.usage (.missingOperand name))
  | operand :: _ => .ok operand

end Given

/-- Where options stand: before the name of the task or behind it. -/
inductive Level where
  | program
  | task
  deriving DecidableEq

/-- How an argument reads. -/
inductive Argument where
  | word
  | endOfOptions
  | long (name : String) (value : Option String)
  | short (letters : List Char)

/-- How an argument reads; a single `-` is a word. -/
def Argument.read (argument : String) : Argument :=
  match argument.toList with
  | ['-'] => .word
  | ['-', '-'] => .endOfOptions
  | '-' :: '-' :: rest =>
    match Text.splitOnce '=' rest with
    | some (name, value) => .long (String.ofList name) (some (String.ofList value))
    | none => .long (String.ofList rest) none
  | '-' :: letters => .short letters
  | _ => .word

/-- Whether an argument can be the value of the option before it. -/
def Argument.isValue : Argument → Bool
  | .word => true
  | _ => false

/-- Reads the options and operands of a level, at the level of the program up to
the name of the task. An option before may wait for its value. -/
def scan (level : Level) (specs : List OptionSpec) :
    Option OptionSpec → Given → List String → Except Halt (Given × List String)
  | none, given, [] => .ok (given, [])
  | some spec, _, [] => .error (.usage (.missingValue spec.name))
  | some spec, given, argument :: rest =>
    if (Argument.read argument).isValue then do
      scan level specs none (← given.addValue spec argument) rest
    else .error (.usage (.missingValue spec.name))
  | none, given, argument :: rest =>
    match Argument.read argument with
    | .word =>
      if level = .program then .ok (given, argument :: rest)
      else do scan level specs none (← given.addOperand argument) rest
    | .endOfOptions =>
      match level, rest with
      | .program, operand :: _ => .error (.usage (.unexpectedOperand operand))
      | .program, [] => .ok (given, [])
      | .task, operands => do return (← operands.foldlM Given.addOperand given, [])
    | .short ('h' :: _) => .error .help
    | .short ('V' :: _) =>
      .error (if level = .program then .version else .usage (.unknownOption argument))
    | .short _ => .error (.usage (.unknownOption argument))
    | .long "help" none => .error .help
    | .long "version" none =>
      .error (if level = .program then .version else .usage (.unknownOption argument))
    | .long name value =>
      match specs.find? fun spec => spec.name == name, value with
      | none, _ => .error (.usage (.unknownOption argument))
      | some ⟨name, .flag⟩, some _ => .error (.usage (.unexpectedValue name))
      | some ⟨name, .flag⟩, none => do
        scan level specs none (← given.addOption ⟨name, .flag⟩ "") rest
      | some spec, some value => do scan level specs none (← given.addValue spec value) rest
      | some spec, none => scan level specs (some spec) given rest

/-- The options of every task. -/
def commonOptions : List OptionSpec :=
  [⟨"output", .oneOf ["text", "json"]⟩, ⟨"quiet", .flag⟩, ⟨"config", .path⟩, ⟨"log-level", .text⟩]

/-- The options of a step. -/
def stepOptions : List OptionSpec :=
  [⟨"event", .text⟩, ⟨"state", .text⟩, ⟨"context", .path⟩, ⟨"data", .path⟩, ⟨"response", .path⟩,
    ⟨"trace-out", .path⟩]

/-- The options of an explanation. -/
def explainOptions : List OptionSpec :=
  [⟨"format", .oneOf ["terminal", "markdown"]⟩, ⟨"verbose", .flag⟩]

/-- The options of every task as they are given before and behind its name. -/
def Options.ofGiven (before behind : Given) : Options :=
  let value? (name : String) : Option String := (behind.value? name).or (before.value? name)
  { output := if value? "output" = some "json" then .json else .text
    quiet := (value? "quiet").isSome
    config := value? "config"
    logLevel := value? "log-level" }

/-- The tasks, each with its options and how it is made of what is given. -/
def tasks : List (String × List OptionSpec × (Given → Except Halt Task)) :=
  [("step", stepOptions, fun given => do
      let bundle ← given.operand "BUNDLE"
      match given.value? "event" with
      | none => .error (.usage (.missingOption "event"))
      | some event =>
        .ok (.step ⟨bundle, event, given.value? "state", given.value? "context",
          given.value? "data", given.value? "response", given.value? "trace-out"⟩)),
    ("validate", [], fun given => return .validate (← given.operand "BUNDLE")),
    ("explain", explainOptions, fun given => do
      let format := if given.value? "format" = some "markdown" then .markdown else .terminal
      return .explain (← given.operand "FILE") format (given.value? "verbose").isSome)]

/-- Reads the name of a task and its arguments. -/
def Invocation.parseTask (before : Given) : List String → Except Halt Invocation
  | [] => .error (.usage .missingTask)
  | "help" :: [] => .error .help
  | "help" :: name :: _ =>
    if (tasks.find? fun t => t.1 == name).isSome || name = "help" then .error .help
    else .error (.usage (.unknownTask name))
  | name :: arguments =>
    match tasks.find? fun t => t.1 == name with
    | none => .error (.usage (.unknownTask name))
    | some (_, specs, build) => do
      let (given, _) ← scan .task (specs ++ commonOptions) none Given.nothing arguments
      return ⟨Options.ofGiven before given, ← build given⟩

/-- Reads the arguments of a command. -/
def Invocation.parse (arguments : List String) : Except Halt Invocation := do
  let (before, rest) ← scan .program commonOptions none Given.nothing arguments
  parseTask before rest

end PageFlow
