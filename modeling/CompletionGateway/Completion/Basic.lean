import CompletionGateway.Execution.Registry

/-!
# Completion requests

A completion continues a list of messages or a plain prompt.  What the caller gives is laid over the
defaults, and the direct arguments of a field are laid over the members of its `input` argument.
-/

namespace CompletionGateway

/-- What is continued. -/
inductive CompletionKind where
  /-- A list of messages. -/
  | chat
  /-- A prompt. -/
  | text
deriving DecidableEq

namespace CompletionKind

/-- Where the provider answers requests of this kind. -/
def path : CompletionKind → String
  | chat => "/chat/completions"
  | text => "/completions"

/-- The model that is asked unless the caller names one. -/
def defaultModel : CompletionKind → String
  | chat => "deepseek-chat"
  | text => "deepseek-coder"

/-- Why a request of this kind cannot be sent: the one thing that has no default is missing. -/
def missingInput? (kind : CompletionKind) (input : Json.Object) : Option ResolverFault :=
  match kind with
  | chat =>
      match Dict.find? input "messages" with
      | some (.array _) => none
      | _ => some (.badInput "messages field is required and must be an array")
  | text =>
      match Dict.find? input "prompt" with
      | none | some .null | some (.string "") => some (.badInput "prompt field is required")
      | some _ => none

end CompletionKind

namespace Completion

/-- The binary64 number nearest to seven tenths. -/
def sevenTenths : Binary64 := .ofQuotient false 7 10

/-- The members of every request body, and their values where the caller gives none. -/
def defaults (kind : CompletionKind) : Json.Object :=
  [("model", .string kind.defaultModel), ("max_tokens", .ofNat 1000),
    ("temperature", .number (.real sevenTenths)), ("top_p", .ofNat 1)]

/-- The name of the argument whose members are arguments themselves. -/
def inputName : String := "input"

/-- What the caller gives with the arguments of a field. -/
def inputOf (arguments : Json.Object) : Except ResolverFault Json.Object :=
  let direct := Dict.swapRemove arguments inputName
  match Dict.find? arguments inputName with
  | none | some .null => .ok (Dict.ofList direct)
  | some (.object members) => .ok (Dict.insertAll members direct)
  | some _ => .error (.badInput "input argument must be an object")

/-- Lays one member over a body.  A `null` leaves what is there. -/
def overlay (body : Json.Object) (member : String × Json) : Json.Object :=
  if member.2.isNull && (Dict.find? body member.1).isSome then body
  else Dict.insert body member.1 member.2

/-- The body of the request for what the caller gives. -/
def requestBody (kind : CompletionKind) (input : Json.Object) (stream : Bool) :
    Except ResolverFault Json :=
  match kind.missingInput? input with
  | some fault => .error fault
  | none =>
      .ok (.object (Dict.insert (input.foldl overlay (defaults kind)) "stream" (.bool stream)))

end Completion

end CompletionGateway
