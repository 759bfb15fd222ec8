import CompletionGateway.CommandLine.Run

/-!
# The program

The surroundings of the program as the operating system provides them.  This system gives the
program no place to listen, so the serving command ends with a fault.
-/

namespace CompletionGateway

open CommandLine

/-- The fault behind an exception. -/
def systemFault : IO.Error → SystemFault
  | .noFileOrDirectory .. => .notFound
  | .permissionDenied .. => .permissionDenied
  | .inappropriateType .. => .isDirectory
  | error => .other (toString error)

/-- The result of reading, with exceptions as faults. -/
def attempt (read : IO ByteArray) : IO (Except SystemFault (List UInt8)) := do
  match ← read.toBaseIO with
  | .ok bytes => return .ok bytes.toList
  | .error error => return .error (systemFault error)

/-- Reads standard input to its end. -/
def readInput : IO ByteArray := do
  (← IO.getStdin).readBinToEnd

/-- The surroundings that the operating system provides. -/
def surroundings (environment : String → Option String) : Surroundings IO where
  contentsOf path := attempt (IO.FS.readBinFile path)
  input := attempt readInput
  listen _ := return .error (.other "Operation not supported (os error 95)")
  log line := IO.println line.text
  environment := environment

/-- The environment variables that the program looks at. -/
def variableNames : List String := levelVariable :: Setting.all.map (·.variableName)

/-- Prints how the program ended, and gives its exit code. -/
def finish : Ending → IO UInt32
  | .printed text => do
      IO.print text
      return 0
  | .misuse => do
      IO.eprintln "error: unexpected arguments\n\nFor more information, try '--help'."
      return 2
  | .ran result => do
      match result.output with
      | some text => IO.println text
      | none => pure ()
      match result.errors with
      | some text => IO.eprintln text
      | none => pure ()
      return if result.success then 0 else 1
  | .brokeOff _ => do
      IO.eprintln "Formatting argument out of range"
      return 101

/-- Runs the program with the given arguments. -/
def runProgram (arguments : List String) : IO UInt32 := do
  let values ← variableNames.mapM fun name => do return (name, ← IO.getEnv name)
  let environment := fun name => (values.find? fun entry => entry.1 == name).bind (·.2)
  finish (← program (surroundings environment) arguments)

end CompletionGateway

/-- The entry point of the program. -/
def main (arguments : List String) : IO UInt32 := CompletionGateway.runProgram arguments
