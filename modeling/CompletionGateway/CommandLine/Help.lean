import CompletionGateway.CommandLine.Arguments

/-!
# Help

What the program says about itself.
-/

namespace CompletionGateway.CommandLine

/-- The name of the program in its own texts. -/
def programName : String := "gqlproxy"

/-- What is printed for the version. -/
def versionText : String := s!"{programName} 0.1.0\n"

/-- The help on the program. -/
def gatewayHelp : String :=
  "A GraphQL-style front end for DeepSeek-compatible LLM APIs.\n\n" ++
  s!"Usage: {programName} [OPTIONS] [COMMAND]\n\n" ++
  "Commands:\n" ++
  "  check  Parse a query document and report what the proxy would execute\n" ++
  "  serve  Run the HTTP proxy\n" ++
  "  help   Print this message or the help of the given subcommand(s)\n\n" ++
  "Options:\n" ++
  "  -v, --verbose  Enable verbose output.\n" ++
  "  -h, --help     Print help\n" ++
  "  -V, --version  Print version\n"

/-- The help on the checking command. -/
def checkHelp : String :=
  "Parse a query document and report what the proxy would execute\n\n" ++
  s!"Usage: {programName} check <QUERY_PATH>\n\n" ++
  "Arguments:\n" ++
  "  <QUERY_PATH>  Path to a file holding a single GraphQL operation, or `-` to read it from " ++
  "stdin.\n\n" ++
  "Options:\n" ++
  "  -h, --help  Print help\n"

/-- The help on the helping command. -/
def helpHelp : String :=
  "Print this message or the help of the given subcommand(s)\n\n" ++
  s!"Usage: {programName} help [COMMAND]...\n\n" ++
  "Arguments:\n" ++
  "  [COMMAND]...  Print help for the subcommand(s)\n"

/-- What a setting is for. -/
def Setting.purpose : Setting → String
  | host => "Interface to bind the HTTP server to."
  | endpoint => "Port to bind the HTTP server to."
  | baseUrl => "Base URL of the OpenAI-compatible upstream API."
  | key => "API key sent upstream as a bearer token."
  | timeout => "Timeout, in seconds, for each upstream request."

/-- The value of a setting that is not given. -/
def Setting.default? : Setting → Option String
  | host => some Gateway.Config.default.host
  | endpoint => some (toString Gateway.Config.default.endpoint)
  | baseUrl => some Gateway.Config.default.baseUrl
  | key => none
  | timeout => some (toString Gateway.Config.default.timeoutSeconds)

/-- The help on a setting.  It shows the value of the environment variable, but for the key. -/
def Setting.help (environment : String → Option String) (setting : Setting) : String :=
  let shown :=
    match setting with
    | key => ""
    | setting => "=" ++ (environment setting.variableName).getD ""
  let default :=
    match setting.default? with
    | some value => s!" [default: {value}]"
    | none => ""
  s!"      --{setting.optionName} <{setting.valueName}>\n" ++
    s!"          {setting.purpose} [env: {setting.variableName}{shown}]{default}\n"

/-- The help on the serving command. -/
def serveHelp (environment : String → Option String) : String :=
  "Run the HTTP proxy\n\n" ++
  s!"Usage: {programName} serve [OPTIONS]\n\n" ++
  "Options:\n" ++
  String.join (Setting.all.map (·.help environment)) ++
  "  -h, --help\n" ++
  "          Print help\n"

/-- The help on a topic. -/
def Topic.text (environment : String → Option String) : Topic → String
  | gateway => gatewayHelp
  | check => checkHelp
  | serve => serveHelp environment
  | help => helpHelp

end CompletionGateway.CommandLine
