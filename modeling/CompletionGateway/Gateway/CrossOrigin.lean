import CompletionGateway.Gateway.Http
import CompletionGateway.Text.Blank
import CompletionGateway.Text.Split

/-!
# Requests from pages of other origins

Pages of every origin may use the gateway, with three methods and two request headers of their own.
A browser asks beforehand; such a question is answered before anything else is looked at.
-/

namespace CompletionGateway.Http

/-- The methods that pages may use. -/
def sharedMethods : List String := ["GET", "OPTIONS", "POST"]

/-- The headers that pages may send. -/
def sharedHeaders : List String := ["authorization", "content-type"]

/-- The header that lets every origin read an answer. -/
def anyOrigin : String × String := ("access-control-allow-origin", "*")

/-- The headers of the answer to a question that is answered with yes. -/
def permission : List (String × String) :=
  [("access-control-allow-headers", ", ".intercalate sharedHeaders),
    ("access-control-allow-methods", ", ".intercalate sharedMethods),
    anyOrigin, ("access-control-max-age", "86400")]

/-- Why a question is answered with no. -/
inductive Objection where
  | method
  | headers
  /-- The list of headers is not a list of header names. -/
  | malformedHeaders
deriving DecidableEq

/-- The wording of an objection. -/
def Objection.message : Objection → String
  | method => "Requested method is not allowed"
  | headers => "One or more request headers are not allowed"
  | malformedHeaders => "Request header `Access-Control-Request-Headers` has an invalid value"

/-- What there is to object to the headers that a page wants to send. -/
def headerObjection? (list : String) : Option Objection :=
  let text := list.toList
  let names := (Text.split (· = ',') text).map Text.trim
  if !(isPlainValue text && names.all isToken) then some .malformedHeaders
  else if names.all fun name => lowerCase (String.ofList name) ∈ sharedHeaders then none
  else some .headers

/-- The method that a page asks about, if the request is such a question. -/
def Request.askedMethod? (request : Request) : Option String :=
  if request.method = "OPTIONS" then
    (request.header? "access-control-request-method").filter fun method => isToken method.toList
  else none

/-- The answer to the question whether a page may use a method. -/
def Request.permissionFor (request : Request) (method : String) : Answer :=
  let objection :=
    if method ∈ sharedMethods then
      (request.header? "access-control-request-headers").bind headerObjection?
    else some .method
  match objection with
  | some objection => ⟨400, [], objection.message⟩
  | none => ⟨200, permission, ""⟩

/-- Lets the page that sent a request read the answer. -/
def Answer.sharedWith (answer : Answer) (request : Request) : Answer :=
  if (request.header? "origin").isSome then
    { answer with headers := anyOrigin :: answer.headers }
  else answer

end CompletionGateway.Http
