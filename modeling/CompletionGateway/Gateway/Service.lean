import CompletionGateway.EventStream.Subscription
import CompletionGateway.Gateway.Coding
import CompletionGateway.Gateway.CrossOrigin
import CompletionGateway.Gateway.Fields
import CompletionGateway.Gateway.MediaType

/-!
# The HTTP service

A request is first checked for a question of a page of another origin, then for whether the gateway
has a key at all, and then it is routed by its exact method and path.
-/

namespace CompletionGateway.Gateway

open Http (Answer)

/-- What a route does. -/
inductive Route where
  | info
  /-- Executes a query or a mutation. -/
  | execute
  /-- Opens a subscription. -/
  | subscribe
  | models
  | complete (kind : CompletionKind)
deriving DecidableEq

/-- The route for a method and a path. -/
def Route.of? (method path : String) : Option Route :=
  if method = "GET" then
    if path = "/" ∨ path = "/api" then some .info
    else if path = "/api/models" then some .models
    else none
  else if method = "POST" then
    if path = "/graphql" then some .execute
    else if path = "/graphql/stream" then some .subscribe
    else if path = "/api/chat" then some (.complete .chat)
    else if path = "/api/completions" then some (.complete .text)
    else none
  else none

/-- An answer in JSON. -/
def answerJson (status : Nat) (value : Json) : Answer :=
  ⟨status, [("content-type", "application/json")], value.text⟩

/-- An answer that reports an error. -/
def answerError (status : Nat) (message : String) (code : ErrorCode) : Answer :=
  answerJson status (Response.error message code).toJson

/-- An answer that reports a malformed request. -/
def answerBadRequest (message : String) : Answer := answerError 400 message .badRequest

/-- The answer while there is no key for the provider. -/
def answerWithoutKey : Answer :=
  answerError 500 ProviderFault.missingKeyMessage .configurationError

/-- The answer where there is no route. -/
def answerNotFound : Answer := answerError 404 "Endpoint not found" .notFound

/-- The answer to a subscriber: the frames of its events. -/
def answerEvents (events : List EventStream.Event) : Answer :=
  ⟨200, [("content-type", "text/event-stream"), ("cache-control", "no-cache")],
    String.join (events.map (·.frame))⟩

/-- The status to answer with when the provider answered with a given one. -/
def passableStatus (status : Nat) : Nat :=
  if 100 ≤ status ∧ status ≤ 999 then status else 502

/-- Passes on what the provider answered.  The JSON body of a failure is passed on with its
status. -/
def passOn : Except ProviderFault Json → Answer
  | .ok value => answerJson 200 value
  | .error (.rejected status body) =>
      let status := passableStatus status
      match Json.ofText? body.toList with
      | some value => answerJson status value
      | none => answerError status (ProviderFault.rejected status body).message .internalError
  | .error .missingKey => answerWithoutKey
  | .error fault => answerError 502 fault.message .internalError

/-- The number of bytes that the body of a request may have. -/
def bodyLimit : Nat := 2097152

/-- Why the body of a request is refused. -/
inductive BodyFault where
  /-- The request does not say that it is JSON. -/
  | mediaType
  /-- The request announces more bytes than it may have. -/
  | announcedTooLong (length : Nat)
  /-- It has more bytes than it may have. -/
  | tooLong
  /-- Its coding cannot be undone. -/
  | coding (fault : Http.CodingFault)
  /-- It is not JSON of the right form. -/
  | malformed (body : List UInt8)

/-- What is wrong with a body.  What is said of one that is not JSON of the right form is up to the
reader of JSON. -/
def BodyFault.cause (refusal : List UInt8 → String) : BodyFault → String
  | mediaType => "Content type error"
  | announcedTooLong length =>
      s!"JSON payload ({length} bytes) is larger than allowed (limit: {bodyLimit} bytes)."
  | tooLong => s!"JSON payload has exceeded limit ({bodyLimit} bytes)."
  | coding fault => s!"Error that occur during reading payload: {fault.message}"
  | malformed body => s!"Json deserialize error: {refusal body}"

/-- The wording of a fault of a body. -/
def BodyFault.message (refusal : List UInt8 → String) (fault : BodyFault) : String :=
  s!"Invalid request body: {fault.cause refusal}"

/-- What speaks against a body before it is read. -/
def bodyObjection? (request : Http.Request) : Option BodyFault :=
  if !request.declaresJson then some .mediaType
  else
    (request.announcedLength?.filter (bodyLimit < ·)).map .announcedTooLong

/-- Reads the body of a request. -/
def readBody {α : Type} (read : List UInt8 → Option α) (request : Http.Request) :
    Except BodyFault α :=
  match bodyObjection? request with
  | some fault => .error fault
  | none =>
      match request.decodedBody with
      | .error fault => .error (.coding fault)
      | .ok body =>
          if bodyLimit < body.length then .error .tooLong
          else
            match read body with
            | some value => .ok value
            | none => .error (.malformed body)

/-- Reads an object. -/
def readObject? (bytes : List UInt8) : Option Json.Object :=
  match Json.ofBytes? bytes with
  | some (.object members) => some members
  | _ => none

/-- What the reader of JSON says of input that it refuses, by what was to be read. -/
structure Refusals where
  /-- The data of a frame. -/
  frame : List Char → String
  /-- A request with a document. -/
  request : List UInt8 → String
  /-- What is to be completed. -/
  input : List UInt8 → String

variable {σ : Type}

/-- Handles a body that holds a request with a document; a blank document is refused. -/
def answerRequest (refusals : Refusals) (handle : Request → StateM σ Answer)
    (request : Http.Request) : StateM σ Answer :=
  match readBody Request.ofBytes? request with
  | .error fault => return answerBadRequest (fault.message refusals.request)
  | .ok request =>
      if Text.allBlank request.query.toList then
        return answerBadRequest "Request body must contain a non-empty `query`"
      else handle request

/-- Handles a body that holds what is to be completed. -/
def answerCompletion (refusals : Refusals) (provider : Provider σ) (kind : CompletionKind)
    (request : Http.Request) : StateM σ Answer :=
  match readBody readObject? request with
  | .error fault => return answerBadRequest (fault.message refusals.input)
  | .ok input =>
      match Completion.requestBody kind input false with
      | .error fault => return answerBadRequest fault.message
      | .ok body => do return passOn (← provider.post kind.path body)

/-- Handles a request that has a route. -/
def Route.answer (refusals : Refusals) (provider : Provider σ) (request : Http.Request) :
    Route → StateM σ Answer
  | info => return answerJson 200 Gateway.info
  | execute =>
      answerRequest refusals (fun request => do
        return answerJson 200 (← (registry provider).execute request).toJson) request
  | subscribe =>
      answerRequest refusals (fun request => do
        return answerEvents (← EventStream.subscribe refusals.frame provider request)) request
  | models => do return passOn (← provider.get modelsPath)
  | complete kind => answerCompletion refusals provider kind request

/-- Answers a request. -/
def answer (refusals : Refusals) (hasKey : Bool) (provider : Provider σ) (request : Http.Request) :
    StateM σ Answer :=
  match request.askedMethod? with
  | some method => return request.permissionFor method
  | none => do
      let answer ←
        if !hasKey then pure answerWithoutKey
        else
          match Route.of? request.method request.path with
          | none => pure answerNotFound
          | some route => route.answer refusals provider request
      return answer.sharedWith request

end CompletionGateway.Gateway
