import CompletionGateway.Execution.Variables
import CompletionGateway.Json.Record
import CompletionGateway.Json.Writing

/-!
# Requests

A request carries a query document, the values of its variables, and the name of the operation that
is meant.
-/

namespace CompletionGateway

/-- What a caller asks for. -/
structure Request where
  query : String
  bindings : Option Variables
  operationName : Option String

namespace Request

/-- The request that a draft describes. -/
def ofDraft? (draft : Json.Draft) : Option Request := do
  match ← draft.recordFields? ["query", "variables", "operationName"] with
  | [some query, bindings, operationName] =>
      let query ← query.asString?
      let bindings ← Json.Draft.optional? (·.asObject? (Json.deepestNesting - 1)) bindings
      let operationName ← Json.Draft.optional? (·.asString?) operationName
      some ⟨query, bindings, operationName⟩
  | _ => none

/-- The request that a JSON text describes. -/
def ofText? (text : List Char) : Option Request :=
  (Json.Draft.ofText? text).bind ofDraft?

/-- The request that the bytes of a JSON text describe. -/
def ofBytes? (bytes : List UInt8) : Option Request :=
  (Json.Draft.ofBytes? bytes).bind ofDraft?

/-- The request in JSON, without the fields that are absent. -/
def toJson (request : Request) : Json :=
  let bindings := request.bindings.map fun bindings => ("variables", Json.object bindings)
  let operationName := request.operationName.map fun name => ("operationName", Json.string name)
  .object (("query", .string request.query) :: bindings.toList ++ operationName.toList)

end Request

end CompletionGateway
