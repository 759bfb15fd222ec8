import CompletionGateway.Text.Blank

/-!
# The configuration of the gateway
-/

namespace CompletionGateway.Gateway

/-- Where the gateway listens, and how it reaches the provider. -/
structure Config where
  host : String
  /-- The number of the TCP endpoint. -/
  endpoint : Nat
  /-- The address of the provider; trailing slashes do not matter. -/
  baseUrl : String
  /-- The key for the provider; a blank one counts as none. -/
  key : Option String
  timeoutSeconds : Nat
deriving DecidableEq

namespace Config

/-- The configuration where nothing is set. -/
def default : Config := ⟨"0.0.0.0", 8787, "https://api.deepseek.com/v1", none, 120⟩

/-- The address to listen on. -/
def address (config : Config) : String := s!"{config.host}:{config.endpoint}"

/-- The address of the provider without trailing slashes. -/
def trimmedBaseUrl (config : Config) : String :=
  String.ofList (config.baseUrl.toList.reverse.dropWhile (· = '/')).reverse

/-- The key without blanks around it, unless nothing is left. -/
def usableKey (config : Config) : Option String :=
  (config.key.map fun key => String.ofList (Text.trim key.toList)).filter (· ≠ "")

/-- Whether there is a key to use. -/
def hasKey (config : Config) : Bool := config.usableKey.isSome

end Config

end CompletionGateway.Gateway
