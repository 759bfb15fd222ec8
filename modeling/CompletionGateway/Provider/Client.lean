import CompletionGateway.Gateway.Config
import CompletionGateway.Json.Reading
import CompletionGateway.Json.Writing
import CompletionGateway.Provider.Basic
import CompletionGateway.Url.Basic

/-!
# Reaching the provider over HTTP

A client turns a call into an HTTP request that carries the key, and the answer to it into the
answer to the call.  What cannot be sent is refused before anything is sent: first a missing key,
then an address that is none or has no host, then a key that no header can carry, and last an
address to which no request over HTTP can be made.
-/

namespace CompletionGateway

/-- What a client needs to know. -/
structure Client where
  /-- The address of the provider, to which paths are appended. -/
  baseUrl : String
  key : Option String

namespace Client

/-- The client of a gateway. -/
def ofConfig (config : Gateway.Config) : Client := ⟨config.trimmedBaseUrl, config.usableKey⟩

/-- A request that is sent. -/
structure Outgoing where
  method : String
  url : Url
  headers : List (String × String)
  body : Option Json

/-- What comes back: a status and a body. -/
structure Incoming where
  status : Nat
  body : List UInt8

/-- The fault of a request that cannot be made. -/
def unsendable : ProviderFault := .transport "builder error"

/-- The fault of a request that cannot be sent to an address. -/
def unsendableTo (url : Url) : ProviderFault := .transport s!"builder error for url ({url.text})"

/-- Whether a header can carry a value. -/
def isHeaderValue (value : String) : Bool :=
  value.toList.all fun c => c = '\t' || (0x20 ≤ c.toNat && c ≠ '\x7f')

/-- The headers of a request. -/
def headers (key accepted : String) (body : Option Json) : List (String × String) :=
  let common := [("accept", accepted), ("authorization", s!"Bearer {key}")]
  if body.isSome then common ++ [("content-type", "application/json")] else common

/-- The request for a path. -/
def outgoing (client : Client) (method accepted path : String) (body : Option Json) :
    Except ProviderFault Outgoing :=
  match client.key with
  | none => .error .missingKey
  | some key =>
      match Url.ofText? (client.baseUrl ++ path).toList with
      | none => .error unsendable
      | some url =>
          if !url.hasHost then .error (unsendableTo url)
          else if !isHeaderValue key then .error unsendable
          else
            let url := url.withoutCredentials
            if url.isRequestable then .ok ⟨method, url, headers key accepted body, body⟩
            else .error (unsendableTo url)

/-- The text of a body, without a byte order mark. -/
def bodyText (body : List UInt8) : String :=
  match Utf8.decodeLossy body with
  | '\uFEFF' :: rest => String.ofList rest
  | text => String.ofList text

/-- The body of a successful answer. -/
def readBody (incoming : Incoming) : Except ProviderFault (List UInt8) :=
  if 200 ≤ incoming.status ∧ incoming.status < 300 then .ok incoming.body
  else .error (.rejected incoming.status (bodyText incoming.body))

/-- The JSON value that a body holds.  What is said of a body without one is up to the reader of
JSON. -/
def readJson (refusal : List UInt8 → String) (body : List UInt8) : Except ProviderFault Json :=
  match Json.ofBytes? body with
  | some value => .ok value
  | none => .error (.undecodable (refusal body))

/-- The media types that are accepted where any will do. -/
def anyType : String := "*/*"

/-- The media type of event streams. -/
def eventStreamType : String := "text/event-stream"

variable {σ : Type}

/-- How requests are sent. -/
abbrev Sender (σ : Type) := Outgoing → StateM σ (Except ProviderFault Incoming)

/-- Sends a request and reads the body of the answer. -/
def exchange (client : Client) (send : Sender σ) (method accepted path : String)
    (body : Option Json) : StateM σ (Except ProviderFault (List UInt8)) :=
  match client.outgoing method accepted path body with
  | .error fault => return .error fault
  | .ok outgoing => do return (← send outgoing) >>= readBody

/-- The provider as this client reaches it. -/
def provider (client : Client) (refusal : List UInt8 → String) (send : Sender σ) : Provider σ where
  get path := do return (← client.exchange send "GET" anyType path none) >>= readJson refusal
  post path body := do
    return (← client.exchange send "POST" anyType path (some body)) >>= readJson refusal
  stream path body := do
    return (← client.exchange send "POST" eventStreamType path (some body)).map fun bytes =>
      [.ok bytes]

end Client

end CompletionGateway
