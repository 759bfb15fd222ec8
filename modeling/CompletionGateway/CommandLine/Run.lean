import CompletionGateway.CommandLine.Help
import CompletionGateway.CommandLine.Log
import CompletionGateway.Text.Quoted
import CompletionGateway.Text.Utf8

/-!
# Running a command

A command is a computation over whatever the program needs from its surroundings: files, standard
input, a log, and a place to listen.  Its result says what to print and how the program ends.
-/

namespace CompletionGateway.CommandLine

/-- Why the surroundings fail. -/
inductive SystemFault where
  | notFound
  | permissionDenied
  | notDirectory
  | isDirectory
  | nameTooLong
  /-- What was read is not UTF-8. -/
  | notText
  /-- Anything else. -/
  | other (message : String)
deriving DecidableEq

/-- The wording of a fault of the surroundings. -/
def SystemFault.message : SystemFault → String
  | notFound => "No such file or directory (os error 2)"
  | permissionDenied => "Permission denied (os error 13)"
  | notDirectory => "Not a directory (os error 20)"
  | isDirectory => "Is a directory (os error 21)"
  | nameTooLong => "File name too long (os error 36)"
  | notText => "stream did not contain valid UTF-8"
  | other message => message

/-- What the program needs from its surroundings. -/
structure Surroundings (m : Type → Type) where
  /-- Reads a file. -/
  contentsOf : (path : String) → m (Except SystemFault (List UInt8))
  /-- Reads standard input. -/
  input : m (Except SystemFault (List UInt8))
  /-- Runs the service until it is stopped; a fault means that it could not begin to listen. -/
  listen : Gateway.Config → m (Except SystemFault Unit)
  /-- Writes a line of the log. -/
  log : LogLine → m Unit
  /-- The environment variables. -/
  environment : String → Option String

/-- What a command leaves to be printed, and whether it succeeded. -/
structure Result where
  success : Bool
  output : Option String
  errors : Option String
deriving DecidableEq

namespace Result

/-- Success, with something to print. -/
def done (text : String) : Result := ⟨true, some text, none⟩

/-- Failure, with its explanation. -/
def failed (text : String) : Result := ⟨false, none, some s!"❌ {text}"⟩

end Result

/-- The names of arguments in a report, in parentheses unless there are none. -/
def argumentNames (arguments : Arguments) : String :=
  match Dict.names arguments with
  | [] => ""
  | names => "(" ++ ", ".intercalate names ++ ")"

/-- What is reported of an operation: its type, its name, its fields and their arguments. -/
def describe (operation : Operation) : String :=
  let name :=
    match operation.name with
    | some name => s!"`{name}`"
    | none => "(anonymous)"
  s!"✅ Parsed {operation.type.keyword} operation {name}:" ++
    String.join (operation.fields.map fun field =>
      s!"\n  * {field.name}{argumentNames field.arguments}")

variable {m : Type → Type} [Monad m]

namespace Surroundings

/-- Writes those lines that reach a level. -/
def logFrom (surroundings : Surroundings m) (level : LogLevel) (lines : List LogLine) : m Unit :=
  lines.forM fun line => if level.rank ≤ line.level.rank then surroundings.log line else pure ()

/-- Reads the document that is to be checked. -/
def readDocument (surroundings : Surroundings m) (path : String) :
    m (Except SystemFault (List Char)) := do
  let bytes ← if path = "-" then surroundings.input else surroundings.contentsOf path
  return bytes.bind fun bytes =>
    match Utf8.decode? bytes with
    | some text => .ok text
    | none => .error .notText

/-- Checks a document.  There is no result if the report of its error breaks off. -/
def check (surroundings : Surroundings m) (level : LogLevel) (path : String) :
    m (Except WidthOverflow Result) := do
  let shown := Text.quoted path
  surroundings.logFrom level
    [⟨.debug, "gqlproxy::commands::check", s!"Reading query from {shown}..."⟩]
  match ← surroundings.readDocument path with
  | .error fault => return .ok (.failed s!"Failed to read {shown}: {fault.message}")
  | .ok source => do
      let (outcome, events) := Operation.read source
      surroundings.logFrom level (events.map LogLine.ofReading)
      match outcome with
      | .ok operation => return .ok (.done (describe operation))
      | .error diagnostic => return (diagnostic.detailed (some source)).map Result.failed

/-- Runs the service. -/
def serve (surroundings : Surroundings m) (level : LogLevel) (config : Gateway.Config) :
    m Result := do
  let address := config.address
  let url := config.trimmedBaseUrl
  let warning : LogLine := ⟨.warn, "gqlproxy::server",
    "no upstream API key configured, every request will fail with CONFIGURATION_ERROR"⟩
  surroundings.logFrom level
    [⟨.debug, "gqlproxy::commands::serve", s!"Starting proxy on {address} (upstream: {url})."⟩]
  surroundings.logFrom level (if config.hasKey then [] else [warning])
  surroundings.logFrom level
    [⟨.info, "gqlproxy::server", s!"gqlproxy listening addr={address} upstream={url}"⟩]
  match ← surroundings.listen config with
  | .ok () => return ⟨true, none, none⟩
  | .error fault =>
      return .failed s!"Proxy server stopped: failed to bind {address}: {fault.message}"

/-- Runs a command. -/
def run (surroundings : Surroundings m) (level : LogLevel) :
    Command → m (Except WidthOverflow Result)
  | .check path => surroundings.check level path
  | .serve config => return .ok (← surroundings.serve level config)

/-- Writes what the log has to say before a command runs, and chooses its level. -/
def startLog (surroundings : Surroundings m) (verbose : Bool) : m LogLevel := do
  let (level, lines) := chooseLevel verbose surroundings.environment
  surroundings.logFrom level lines
  return level

end Surroundings

/-- How the whole program ends. -/
inductive Ending where
  /-- It only had something to say about itself. -/
  | printed (text : String)
  /-- The arguments make no sense. -/
  | misuse
  /-- A command ran. -/
  | ran (result : Result)
  /-- A command broke off in the middle of a report. -/
  | brokeOff (overflow : WidthOverflow)
deriving DecidableEq

/-- Runs the program. -/
def program (surroundings : Surroundings m) (arguments : List String) : m Ending :=
  match readArguments surroundings.environment false arguments with
  | .error (.help topic) => return .printed (topic.text surroundings.environment)
  | .error .version => return .printed versionText
  | .error .misuse => return .misuse
  | .ok invocation => do
      let level ← surroundings.startLog invocation.verbose
      match invocation.command with
      | none => return .printed gatewayHelp
      | some command =>
          match ← surroundings.run level command with
          | .ok result => return .ran result
          | .error overflow => return .brokeOff overflow

end CompletionGateway.CommandLine
