import CompletionGateway.CommandLine.Setting

/-!
# Arguments

Arguments are read from the left.  The first one that asks for help or for the version ends the
reading, and so does the first one that is out of place.  Options that follow the name of a command
belong to that command; two dashes by themselves end the options.
-/

namespace CompletionGateway.CommandLine

/-- What help can be about. -/
inductive Topic where
  | gateway
  | check
  | serve
  | help
deriving DecidableEq

/-- What the program can be told to do. -/
inductive Command where
  /-- To check the document in a file, or on standard input if the path is a dash. -/
  | check (path : String)
  /-- To run the service. -/
  | serve (config : Gateway.Config)
deriving DecidableEq

/-- Why arguments do not lead to a command. -/
inductive Stop where
  | help (topic : Topic)
  | version
  /-- The arguments make no sense. -/
  | misuse
deriving DecidableEq

/-- What a sequence of arguments asks for. -/
structure Invocation where
  verbose : Bool
  /-- There may be no command. -/
  command : Option Command
deriving DecidableEq

/-- Whether an argument can only be an option: a dash and something behind it. -/
def looksLikeOption (argument : String) : Bool :=
  match argument.toList with
  | '-' :: _ :: _ => true
  | _ => false

/-- Whether an argument of a command asks for help about it. -/
def asksForHelp (argument : String) : Bool :=
  argument == "--help" || ['-', 'h'].isPrefixOf argument.toList

/-- Reads the arguments of the checking command: exactly one path, which is not empty.  `onlyPaths`
says whether the options have ended. -/
def readCheck (path : Option String) (onlyPaths : Bool) : List String → Except Stop String
  | [] =>
      match path with
      | some path => .ok path
      | none => .error .misuse
  | argument :: rest =>
      if !onlyPaths && argument == "--" then readCheck path true rest
      else if !onlyPaths && looksLikeOption argument then
        .error (if asksForHelp argument then .help .check else .misuse)
      else if path.isSome || argument == "" then .error .misuse
      else readCheck (some argument) onlyPaths rest

/-- Adds a setting, unless it is given already or does not accept the value. -/
def addSetting (settings : Settings) (setting : Setting) (value : String) :
    Except Stop Settings :=
  if (settings.find? setting).isSome || !setting.accepts value then .error .misuse
  else .ok (settings ++ [(setting, value)])

/-- The name of a long option and the value behind an equals sign, if there is one. -/
def splitOption? (argument : String) : Option (String × Option String) :=
  match argument.toList with
  | '-' :: '-' :: text =>
      let name := String.ofList (text.takeWhile (· ≠ '='))
      match text.dropWhile (· ≠ '=') with
      | [] => some (name, none)
      | _ :: value => some (name, some (String.ofList value))
  | _ => none

/-- Reads the arguments of the serving command: options with values. -/
def readServe (settings : Settings) : List String → Except Stop Settings
  | [] => .ok settings
  | argument :: rest =>
      if argument == "--" then if rest.isEmpty then .ok settings else .error .misuse
      else if asksForHelp argument then .error (.help .serve)
      else
        match splitOption? argument with
        | none => .error .misuse
        | some (name, attached) =>
            match Setting.ofOptionName? name, attached, rest with
            | none, _, _ => .error .misuse
            | some setting, some value, rest => do
                readServe (← addSetting settings setting value) rest
            | some _, none, [] => .error .misuse
            | some setting, none, value :: rest =>
                if looksLikeOption value then .error .misuse
                else do readServe (← addSetting settings setting value) rest

/-- Reads the arguments of the helping command: the name of at most one command. -/
def readHelp : List String → Stop
  | [] => .help .gateway
  | ["check"] => .help .check
  | ["serve"] => .help .serve
  | ["help"] => .help .help
  | _ => .misuse

/-- Reads a run of short options.  Verbosity can be asked for once. -/
def readShort (verbose : Bool) : List Char → Except Stop Bool
  | [] => .ok verbose
  | 'v' :: rest => if verbose then .error .misuse else readShort true rest
  | 'h' :: _ => .error (.help .gateway)
  | 'V' :: _ => .error .version
  | _ => .error .misuse

/-- Reads a command and its arguments. -/
def readCommand (environment : String → Option String) (name : String) (arguments : List String) :
    Except Stop Command :=
  match name with
  | "check" => (readCheck none false arguments).map .check
  | "serve" => do
      let settings := (← readServe [] arguments).withVariables environment
      if settings.areAccepted then .ok (.serve settings.config) else .error .misuse
  | "help" => .error (readHelp arguments)
  | _ => .error .misuse

/-- Reads all arguments. -/
def readArguments (environment : String → Option String) (verbose : Bool) :
    List String → Except Stop Invocation
  | [] => .ok ⟨verbose, none⟩
  | argument :: rest =>
      if argument == "--" then if rest.isEmpty then .ok ⟨verbose, none⟩ else .error .misuse
      else if argument == "--verbose" then
        if verbose then .error .misuse else readArguments environment true rest
      else if argument == "--help" then .error (.help .gateway)
      else if argument == "--version" then .error .version
      else if looksLikeOption argument then do
        readArguments environment (← readShort verbose (argument.toList.drop 1)) rest
      else return ⟨verbose, some (← readCommand environment argument rest)⟩

end CompletionGateway.CommandLine
