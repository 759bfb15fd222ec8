import CompletionGateway.Dict
import CompletionGateway.Number.Binary64

/-!
# Operations

A query document holds one operation: its type, an optional name and its top-level fields with
their arguments.  Whatever is selected inside a field is not kept, because fields answer with whole
documents.
-/

namespace CompletionGateway

/-- The three kinds of operation. -/
inductive OperationType where
  | query
  | mutation
  | subscription
deriving DecidableEq

namespace OperationType

/-- The keyword in lower case. -/
def keyword : OperationType → String
  | query => "query"
  | mutation => "mutation"
  | subscription => "subscription"

/-- The name of the type whose fields the operation selects. -/
def rootName : OperationType → String
  | query => "Query"
  | mutation => "Mutation"
  | subscription => "Subscription"

/-- All operation types. -/
def all : List OperationType := [query, mutation, subscription]

/-- The type with exactly this keyword. -/
def ofName? (name : String) : Option OperationType :=
  all.find? fun type => type.keyword == name

/-- The type with this keyword in any mixture of ASCII cases. -/
def ofKeyword? (word : String) : Option OperationType :=
  ofName? (String.ofList (word.toList.map Char.toLower))

end OperationType

/-- The value of an argument as it stands in a document. -/
inductive ArgValue where
  | string (value : String)
  | number (value : Binary64)
  | bool (value : Bool)
  | null
  /-- A reference to a variable of the request, by name without the `$`. -/
  | variable (name : String)
  | object (entries : List (String × ArgValue))
  | list (items : List ArgValue)

/-- The arguments of a field. -/
abbrev Arguments := Dict ArgValue

/-- A top-level field. -/
structure Field where
  name : String
  arguments : Arguments

/-- The operation of a document.  Its fields are in document order. -/
structure Operation where
  type : OperationType
  name : Option String
  fields : List Field

end CompletionGateway
