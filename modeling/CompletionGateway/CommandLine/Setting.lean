import CompletionGateway.Gateway.Config
import CompletionGateway.Number.Decimal

/-!
# Settings

The settings of the service can be given as options or as environment variables.  An option wins
over a variable, and a variable over the default.
-/

namespace CompletionGateway.CommandLine

/-- A setting of the service. -/
inductive Setting where
  | host
  | endpoint
  | baseUrl
  | key
  | timeout
deriving DecidableEq

namespace Setting

/-- All settings, in the order in which they are explained. -/
def all : List Setting := [host, endpoint, baseUrl, key, timeout]

/-- The name of the option, without its dashes. -/
def optionName : Setting → String
  | host => "host"
  | endpoint => "port"
  | baseUrl => "upstream-base-url"
  | key => "api-key"
  | timeout => "request-timeout-secs"

/-- How explanations call the value of the option. -/
def valueName : Setting → String
  | host => "HOST"
  | endpoint => "PORT"
  | baseUrl => "UPSTREAM_BASE_URL"
  | key => "API_KEY"
  | timeout => "REQUEST_TIMEOUT_SECS"

/-- The name of the environment variable. -/
def variableName : Setting → String
  | key => "DEEPSEEK_API_KEY"
  | setting => setting.valueName

/-- The setting whose option has a given name. -/
def ofOptionName? (name : String) : Option Setting :=
  all.find? fun setting => setting.optionName == name

end Setting

/-- The number of a TCP endpoint: below `2 ^ 16`, perhaps with a sign. -/
def readEndpoint? (text : String) : Option Nat :=
  let value :=
    match text.toList with
    | '+' :: digits => Decimal.readNat? digits
    | '-' :: digits => (Decimal.readNat? digits).filter (· = 0)
    | digits => Decimal.readNat? digits
  value.filter (· < 65536)

/-- A number of seconds. -/
def readSeconds? (text : String) : Option Nat := Decimal.readWord? text.toList

/-- Whether a text is a value of a setting. -/
def Setting.accepts : Setting → String → Bool
  | endpoint, text => (readEndpoint? text).isSome
  | timeout, text => (readSeconds? text).isSome
  | _, _ => true

/-- The settings that are given, with their values. -/
abbrev Settings := List (Setting × String)

namespace Settings

/-- The value of a setting, if it is given. -/
def find? (settings : Settings) (setting : Setting) : Option String :=
  (List.find? (fun entry => entry.1 == setting) settings).map Prod.snd

/-- The settings together with those that only environment variables give. -/
def withVariables (settings : Settings) (environment : String → Option String) : Settings :=
  settings ++ Setting.all.filterMap fun setting =>
    if (settings.find? setting).isSome then none
    else (environment setting.variableName).map fun value => (setting, value)

/-- Whether every setting has a value that it accepts. -/
def areAccepted (settings : Settings) : Bool :=
  settings.all fun (setting, value) => setting.accepts value

/-- The configuration with these settings. -/
def config (settings : Settings) : Gateway.Config :=
  let default := Gateway.Config.default
  { host := (settings.find? .host).getD default.host
    endpoint := ((settings.find? .endpoint).bind readEndpoint?).getD default.endpoint
    baseUrl := (settings.find? .baseUrl).getD default.baseUrl
    key := settings.find? .key
    timeoutSeconds := ((settings.find? .timeout).bind readSeconds?).getD default.timeoutSeconds }

end Settings

end CompletionGateway.CommandLine
