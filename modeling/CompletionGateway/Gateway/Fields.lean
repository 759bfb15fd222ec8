import CompletionGateway.Completion.Basic
import CompletionGateway.Provider.Basic

/-!
# The fields of the gateway

Queries list the models and describe the gateway; mutations complete.
-/

namespace CompletionGateway.Gateway

/-- The description of the gateway. -/
def info : Json :=
  .object [("name", .string "DeepSeek GraphQL Proxy"), ("version", .string "0.1.0"),
    ("endpoints", .object [("graphql", .string "POST /graphql"),
      ("graphqlStream", .string "POST /graphql/stream"),
      ("models", .string "GET /api/models"),
      ("chat", .string "POST /api/chat"),
      ("completions", .string "POST /api/completions")])]

/-- Where the provider lists its models. -/
def modelsPath : String := "/models"

variable {σ : Type}

/-- Answers with the list of models, whatever the arguments. -/
def modelsResolver (provider : Provider σ) : Resolver σ := fun _ => do
  return (← provider.get modelsPath).mapError (·.toResolverFault)

/-- Answers with the description of the gateway, whatever the arguments. -/
def infoResolver : Resolver σ := fun _ => return .ok info

/-- Answers with a completion. -/
def completionResolver (provider : Provider σ) (kind : CompletionKind) : Resolver σ :=
  fun arguments =>
    match Completion.inputOf arguments >>= (Completion.requestBody kind · false) with
    | .error fault => return .error fault
    | .ok body => do return (← provider.post kind.path body).mapError (·.toResolverFault)

/-- The fields of the gateway. -/
def registry (provider : Provider σ) : Registry σ :=
  Registry.empty
    |>.addQuery "models" (modelsResolver provider)
    |>.addQuery "info" infoResolver
    |>.addMutation "chat" (completionResolver provider .chat)
    |>.addMutation "completion" (completionResolver provider .text)

end CompletionGateway.Gateway
