import CompletionGateway.Json.Basic
import CompletionGateway.Operation.Basic
import CompletionGateway.Text.Quoted

/-!
# Resolvers

A resolver computes the value of one field from its arguments.  It may fail, and it may act on a
state of any type.  A registry holds the resolvers of the two types whose fields are executed.
-/

namespace CompletionGateway

/-- Why a resolver fails. -/
inductive ResolverFault where
  /-- The arguments are missing or have the wrong form. -/
  | badInput (message : String)
  /-- The gateway is not set up to reach the provider. -/
  | configuration (message : String)
  /-- The provider answered with a status that means failure. -/
  | providerStatus (status : Nat) (body : String)
  /-- The provider could not be reached. -/
  | transport (message : String)
  /-- The provider answered with something that is not the expected JSON. -/
  | undecodable (message : String)
deriving DecidableEq

/-- The wording of a resolver fault. -/
def ResolverFault.message : ResolverFault → String
  | badInput message => message
  | configuration message => message
  | providerStatus status body => s!"Upstream API error ({status}): {body}"
  | transport message => s!"Upstream request failed: {message}"
  | undecodable message => s!"Invalid upstream response: {message}"

/-- A computation on a state of type `σ` that may fail. -/
abbrev Resolver (σ : Type) := Json.Object → StateM σ (Except ResolverFault Json)

/-- The resolvers of the fields of queries and mutations. -/
structure Registry (σ : Type) where
  query : Dict (Resolver σ)
  mutation : Dict (Resolver σ)

namespace Registry

variable {σ : Type}

/-- The registry without fields. -/
def empty : Registry σ := ⟨[], []⟩

/-- Adds a field of queries, in place of one with the same name. -/
def addQuery (registry : Registry σ) (name : String) (resolver : Resolver σ) : Registry σ :=
  { registry with query := registry.query.insert name resolver }

/-- Adds a field of mutations, in place of one with the same name. -/
def addMutation (registry : Registry σ) (name : String) (resolver : Resolver σ) : Registry σ :=
  { registry with mutation := registry.mutation.insert name resolver }

/-- The fields of a type of operation.  Subscriptions have none. -/
def table (registry : Registry σ) : OperationType → Dict (Resolver σ)
  | .query => registry.query
  | .mutation => registry.mutation
  | .subscription => []

/-- The resolver of a field. -/
def find? (registry : Registry σ) (type : OperationType) (name : String) :
    Option (Resolver σ) :=
  Dict.find? (registry.table type) name

/-- The names of the fields, in the order in which they were first added. -/
def fieldNames (registry : Registry σ) (type : OperationType) : List String :=
  Dict.names (registry.table type)

/-- A text for logs that names all fields. -/
def description (registry : Registry σ) : String :=
  let list := fun (type : OperationType) =>
    "[" ++ ", ".intercalate ((registry.fieldNames type).map Text.quoted) ++ "]"
  s!"ResolverRegistry \x7b query: {list .query}, mutation: {list .mutation} \x7d"

end Registry

end CompletionGateway
