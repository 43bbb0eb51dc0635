/-
# Commands

A command takes a step, checks a bundle or explains a trace. It loads what it
needs from files, one after the other, and stops at the first one that cannot
be used. It ends with a code: 0 when all went well, 1 when the files or the step
did not allow it and 2 when the arguments did not make sense.

Key definitions: `CommandError`, `CommandOutcome`, `StepArguments.run`,
`validateBundle`, `explainFile`, `Command.run`.
-/
import PageFlow.Command.Arguments
import PageFlow.Command.Surroundings
import PageFlow.Document.Decoder
import PageFlow.Explanation
import PageFlow.Loading
import PageFlow.Step
import PageFlow.Text.Clock
import PageFlow.Transport
import PageFlow.Validation

namespace PageFlow
open Document

-- Powers are those of the core library, whatever else is imported.
attribute [local instance (2000)] instPowNat

/-- Why a task cannot be done. -/
inductive CommandError where
  | unreadableSettings (path : String) (error : FileError)
  | invalidSettings (path : String)
  | unreadableFile (path : String) (error : FileError)
  | invalidDocument (path : String) (error : DecodeError) (text : String)
  | inconsistentBundle (path : String) (problems : List Problem)
  | noTrace (path : String) (error : DecodeError)
  | unwritableTrace (path : String) (error : FileError)

/-- The wording of a command error. -/
def CommandError.message : CommandError → String
  | .unreadableSettings path e => "error: could not read '" ++ path ++ "': " ++ e.message
  | .invalidSettings path => "error: could not parse '" ++ path ++ "': invalid settings"
  | .unreadableFile path e => "error reading file '" ++ path ++ "': " ++ e.message
  | .invalidDocument path e text =>
    "error parsing JSON in '" ++ path ++ "': " ++ e.message text.toList
  | .inconsistentBundle path problems =>
    "error: invalid bundle '" ++ path ++ "': " ++ reportProblems problems
  | .noTrace path e => "error: '" ++ path ++ "' is not a step trace: " ++ e.complaint.message
  | .unwritableTrace path e => "error writing trace to '" ++ path ++ "': " ++ e.message

/-- What a command leaves behind besides files. -/
structure CommandOutcome where
  code : Nat
  stdout : String
  stderr : String
  deriving DecidableEq

/-- The line about an error, unless nothing is to be said. -/
def Options.errorLine (options : Options) (message : String) : String :=
  if options.quiet then ""
  else
    match options.output with
    | .text => message ++ "\n"
    | .json => (Json.object [("error", .string message)]).compact ++ "\n"

/-- The outcome of a task that cannot be done. -/
def CommandError.outcome (options : Options) (e : CommandError) : CommandOutcome :=
  ⟨1, "", options.errorLine e.message⟩

namespace Surroundings

variable {m : Type → Type} [Monad m]

/-- Reads a file. -/
def readText (here : Surroundings m) (path : String) : ExceptT CommandError m String := do
  match ← here.readFile path with
  | .ok text => return text
  | .error e => throw (.unreadableFile path e)

/-- Loads a document from a file. -/
def load {α : Type} (here : Surroundings m) (decode : Decoder α) (path : String) :
    ExceptT CommandError m α := do
  let text ← here.readText path
  match parse decode text.toList with
  | .ok x => return x
  | .error e => throw (.invalidDocument path e text)

/-- Loads a document from a file if one is named. -/
def loadOr {α : Type} (here : Surroundings m) (decode : Decoder α) (default : α) :
    Option String → ExceptT CommandError m α
  | none => return default
  | some path => here.load decode path

/-- Writes a trace to a file. -/
def saveTrace (here : Surroundings m) (path : String) (trace : Trace) :
    ExceptT CommandError m Unit := do
  match ← here.writeFile path trace.json.pretty with
  | .ok () => return ()
  | .error e => throw (.unwritableTrace path e)

/-- Loads settings from a file. -/
def loadSettings (here : Surroundings m) (path : String) : ExceptT CommandError m Settings := do
  match ← here.readFile path with
  | .error e => throw (.unreadableSettings path e)
  | .ok text =>
    match Settings.parse text.toList with
    | some settings => return settings
    | none => throw (.invalidSettings path)

/-- The file that settings are loaded from when no other one is named. -/
def settingsFile : String := "uiflow.toml"

/-- Finds the settings: in the file that is named, or else in the usual one if
there is such a file. -/
def settings (here : Surroundings m) : Option String → ExceptT CommandError m Settings
  | some path => here.loadSettings path
  | none => do
    if ← here.isFile settingsFile then here.loadSettings settingsFile
    else return Settings.default

/-- The transport for a step: a canned response if a file with one is named. -/
def transport (here : Surroundings m) (settings : HttpSettings) :
    Option String → ExceptT CommandError m Transport
  | none =>
    return HttpSettings.transport
      { settings with authToken := settings.authToken.or here.token } here.exchange
  | some path => do
    return (CannedResponses.always (← here.load decodeCannedResponse path)).transport

end Surroundings

/-- What a step shows of its outcome. -/
def StepOutcome.shown (o : StepOutcome) : OutputFormat → String
  | .json => o.json.pretty ++ "\n"
  | .text =>
    o.trace.flow.fromStateId ++ " --" ++ o.trace.flow.event ++ "--> " ++ o.nextStateId ++
      " (" ++ o.trace.flow.reason.name ++ ")\ndata: " ++ (Json.object o.updatedData).compact ++
      "\n\n" ++ o.trace.explain .terminal false

/-- The time between two moments. -/
def Timing.between (start stop : Nat) : Timing :=
  ⟨Text.momentText start, (stop - start) / 10 ^ (6 : Nat)⟩

/-- Takes a step. -/
def StepArguments.run {m : Type → Type} [Monad m] (arguments : StepArguments)
    (here : Surroundings m) (settings : Settings) (options : Options) :
    ExceptT CommandError m CommandOutcome := do
  let bundle ← here.load decodeBundle arguments.bundle
  if !bundle.problems.isEmpty then
    throw (.inconsistentBundle arguments.bundle bundle.problems)
  let context ← here.loadOr decodeContext Context.empty arguments.context
  let data ← here.loadOr (decodeDict decodeJson) [] arguments.data
  let transport ← here.transport settings.transport arguments.response
  let start ← here.now
  let run := bundle.application.run ⟨arguments.state, context, data⟩ arguments.event transport
  let stop ← here.now
  let timing := Timing.between start stop
  let outcome := run.outcome ⟨timing, timing⟩
  match arguments.traceOut with
  | none => pure ()
  | some path => here.saveTrace path outcome.trace
  return ⟨if outcome.trace.flow.reason = .error then 1 else 0,
    if options.quiet then "" else outcome.shown options.output, ""⟩

/-- What the check of a bundle without problems shows. -/
def Bundle.validReport (bundle : Bundle) (path : String) : OutputFormat → String
  | .json => (Json.object [("valid", .bool true)]).compact ++ "\n"
  | .text =>
    "Valid: " ++ path ++ " (" ++ toString bundle.flow.states.length ++ " states, " ++
      toString bundle.rules.rules.length ++ " rules, " ++
      toString bundle.apiMappings.length ++ " API mappings)\n"

/-- What the check of a bundle with problems leaves behind. -/
def invalidReport (path : String) (problems : List Problem) : OutputFormat → CommandOutcome
  | .json =>
    ⟨1, (Json.object [("problems", Json.ofTexts (problems.map (·.message))),
      ("valid", .bool false)]).pretty ++ "\n", ""⟩
  | .text =>
    ⟨1, "", unlines (("Invalid: " ++ path) :: problems.map fun p => "  - " ++ p.message)⟩

/-- Checks a bundle. -/
def validateBundle {m : Type → Type} [Monad m] (path : String) (here : Surroundings m)
    (options : Options) : ExceptT CommandError m CommandOutcome := do
  let bundle ← here.load decodeBundle path
  if bundle.problems.isEmpty then
    return ⟨0, if options.quiet then "" else bundle.validReport path options.output, ""⟩
  else if options.quiet then return ⟨1, "", ""⟩
  else return invalidReport path bundle.problems options.output

/-- The trace in a value: that of the outcome of a step, or else the value itself. -/
def Trace.ofDocument (document : Json) : Decoded Trace :=
  let outcome :=
    match document with
    | .object fields => Dict.has "trace" fields
    | _ => false
  if outcome then (decodeStepOutcome .value (Node.ofJson document)).map (·.trace)
  else decodeTrace .value (Node.ofJson document)

/-- Explains the trace in a file. -/
def explainFile {m : Type → Type} [Monad m] (path : String) (format : ExplainFormat)
    (verbose : Bool) (here : Surroundings m) (options : Options) :
    ExceptT CommandError m CommandOutcome := do
  let document ← here.load decodeJson path
  match Trace.ofDocument document with
  | .error e => throw (.noTrace path e)
  | .ok trace => return ⟨0, if options.quiet then "" else trace.explain format verbose, ""⟩

/-- Does a task. -/
def Invocation.run {m : Type → Type} [Monad m] (invocation : Invocation)
    (here : Surroundings m) : ExceptT CommandError m CommandOutcome := do
  let settings ← here.settings invocation.options.config
  match invocation.task with
  | .step arguments => arguments.run here settings invocation.options
  | .validate path => validateBundle path here invocation.options
  | .explain path format verbose => explainFile path format verbose here invocation.options

namespace Command

/-- The name and the version of the program. -/
def versionLine : String := "uiflow 0.1.0\n"

/-- How the program is called. -/
def usage : String :=
  unlines
    ["uiflow step engine harness", "",
      "Usage: uiflow [OPTIONS] step BUNDLE --event EVENT [--state STATE] [--context FILE]",
      "         [--data FILE] [--response FILE] [--trace-out FILE]",
      "       uiflow [OPTIONS] validate BUNDLE",
      "       uiflow [OPTIONS] explain FILE [--format terminal|markdown] [--verbose]", "",
      "Options: --output text|json, --quiet, --config FILE, --log-level LEVEL, --help, --version"]

/-- What arguments leave behind that name no task. -/
def haltOutcome : Halt → CommandOutcome
  | .version => ⟨0, versionLine, ""⟩
  | .help => ⟨0, usage, ""⟩
  | .usage e => ⟨2, "", "error: " ++ e.message ++ "\n\n" ++ usage⟩

/-- Runs a command with its arguments. -/
def run {m : Type → Type} [Monad m] (here : Surroundings m) (arguments : List String) :
    m CommandOutcome :=
  match Invocation.parse arguments with
  | .error halt => return haltOutcome halt
  | .ok invocation => do
    match ← (invocation.run here).run with
    | .ok outcome => return outcome
    | .error e => return e.outcome invocation.options

end Command
end PageFlow
