import CompletionGateway.Operation.Document
import CompletionGateway.Diagnostic.Report
import CompletionGateway.Text.Blank

/-!
# The log

Lines of the log have a level and name the part of the program that they come from.  Lines below
the level that is set are not written.
-/

namespace CompletionGateway.CommandLine

/-- How much a line of the log matters. -/
inductive LogLevel where
  | trace
  | debug
  | info
  | warn
  | error
deriving DecidableEq

namespace LogLevel

/-- How the level is written. -/
def name : LogLevel → String
  | trace => "TRACE"
  | debug => "DEBUG"
  | info => "INFO"
  | warn => "WARN"
  | error => "ERROR"

/-- The rank of the level among all levels. -/
def rank : LogLevel → Nat
  | trace => 0
  | debug => 1
  | info => 2
  | warn => 3
  | error => 4

/-- The levels, the least important first. -/
def all : List LogLevel := [trace, debug, info, warn, error]

/-- The level that a setting names, in any mixture of ASCII cases and with blanks around it. -/
def ofText? (text : String) : Option LogLevel :=
  let word := String.ofList ((Text.trim text.toList).map Char.toUpper)
  if word = "VERBOSE" then some debug else all.find? fun level => level.name == word

end LogLevel

/-- A line of the log. -/
structure LogLine where
  level : LogLevel
  /-- The part of the program that the line comes from. -/
  source : String
  message : String
deriving DecidableEq

/-- The text of a line. -/
def LogLine.text (line : LogLine) : String := s!"{line.level.name} {line.source}: {line.message}"

/-- The environment variable for the level. -/
def levelVariable : String := "LOG_LEVEL"

/-- The level to use, and what the log has to say about that. -/
def chooseLevel (verbose : Bool) (environment : String → Option String) :
    LogLevel × List LogLine :=
  let (level, complaints) : LogLevel × List LogLine :=
    if verbose then (.debug, [])
    else
      match environment levelVariable with
      | none => (.info, [])
      | some value =>
          match LogLevel.ofText? value with
          | some level => (level, [])
          | none =>
              (.info, [⟨.warn, "gqlproxy",
                s!"Invalid `LOG_LEVEL` environment variable value: `{value}`"⟩])
  (level, ⟨.trace, "gqlproxy", s!"Initial logging level set to `{level.name}`."⟩ :: complaints)

/-- The line for something that happened while a document was read. -/
def LogLine.ofReading : ReadingEvent → LogLine
  | .literalEmptied start reason =>
      let place := s!"{start.line + 1}:{start.column + 1}"
      ⟨.debug, "gqlproxy_parser::graphql_parser",
        s!"malformed literal at {place}, using an empty value error={reason.oneLine}"⟩
  | .operationRead type count =>
      ⟨.trace, "gqlproxy_parser::graphql_parser",
        s!"parsed operation operation_type={type.keyword} field_count={count}"⟩

end CompletionGateway.CommandLine
