import CompletionGateway.Json.Record
import CompletionGateway.Json.Writing

/-!
# Responses

A response carries data or errors, never both.  An error has a message and a code that programs can
act on; it never points at a field, because the first error ends the whole operation.
-/

namespace CompletionGateway

/-- The categories of errors. -/
inductive ErrorCode where
  /-- The operation failed. -/
  | internalError
  /-- The request itself is malformed. -/
  | badRequest
  /-- There is nothing under the requested path. -/
  | notFound
  /-- The gateway has no key for the provider. -/
  | configurationError
deriving DecidableEq

namespace ErrorCode

/-- How the code is written. -/
def name : ErrorCode → String
  | internalError => "INTERNAL_ERROR"
  | badRequest => "BAD_REQUEST"
  | notFound => "NOT_FOUND"
  | configurationError => "CONFIGURATION_ERROR"

/-- All codes. -/
def all : List ErrorCode := [internalError, badRequest, notFound, configurationError]

/-- The code with a given name. -/
def ofName? (text : String) : Option ErrorCode := all.find? fun code => code.name == text

/-- The code that a draft names: a string, or an object whose only member has that name and the
value `null`. -/
def ofDraft? : Json.Draft → Option ErrorCode
  | .string parts => (Json.stringOfParts? parts).bind ofName?
  | .object [(parts, .null)] => (Json.stringOfParts? parts).bind ofName?
  | _ => none

end ErrorCode

/-- One error of a response. -/
structure ResponseError where
  message : String
  locations : List Json
  path : List Json
  code : ErrorCode

namespace ResponseError

/-- An error that points nowhere. -/
def of (message : String) (code : ErrorCode) : ResponseError := ⟨message, [], [], code⟩

/-- The error in JSON. -/
def toJson (error : ResponseError) : Json :=
  .object [("message", .string error.message), ("locations", .array error.locations),
    ("path", .array error.path),
    ("extensions", .object [("code", .string error.code.name)])]

/-- The error that a draft describes, with at most `room` nested containers inside. -/
def ofDraft? (room : Nat) (draft : Json.Draft) : Option ResponseError := do
  match ← draft.recordFields? ["message", "locations", "path", "extensions"] with
  | [some message, locations, path, some extensions] =>
      let message ← message.asString?
      let list := fun (field : Option Json.Draft) =>
        match field with
        | none => some []
        | some draft => draft.asArray? room
      let locations ← list locations
      let path ← list path
      match ← extensions.recordFields? ["code"] with
      | [some code] => some ⟨message, locations, path, ← ErrorCode.ofDraft? code⟩
      | _ => none
  | _ => none

end ResponseError

/-- The answer to a request. -/
inductive Response where
  | data (entries : Dict Json)
  | errors (errors : List ResponseError)

namespace Response

/-- A response with a single error. -/
def error (message : String) (code : ErrorCode) : Response := .errors [.of message code]

/-- Whether the response carries data. -/
def isData : Response → Bool
  | data _ => true
  | errors _ => false

/-- The errors, if any. -/
def errorList : Response → List ResponseError
  | data _ => []
  | errors list => list

/-- The response in JSON. -/
def toJson : Response → Json
  | data entries => .object [("data", .object entries)]
  | errors list => .object [("errors", .array (list.map (·.toJson)))]

/-- The response that a draft describes: an object with exactly one member. -/
def ofDraft? : Json.Draft → Option Response
  | .object [(name, value)] => do
      let name ← Json.stringOfParts? name
      if name = "data" then
        some (.data (← value.asObject? (Json.deepestNesting - 1)))
      else if name = "errors" then
        match value with
        | .array items =>
            some (.errors (← items.mapM (ResponseError.ofDraft? (Json.deepestNesting - 3))))
        | _ => none
      else none
  | _ => none

/-- The response that a JSON text describes. -/
def ofText? (text : List Char) : Option Response :=
  (Json.Draft.ofText? text).bind ofDraft?

end Response

end CompletionGateway
