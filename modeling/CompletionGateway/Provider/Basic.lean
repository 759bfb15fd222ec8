import CompletionGateway.Execution.Registry

/-!
# The provider

The provider answers completion requests.  A call either fails as a whole or answers; the answer to
a streaming call is the sequence of chunks in which its body arrives, and the arrival itself may
fail part of the way.
-/

namespace CompletionGateway

/-- Why a call to the provider fails. -/
inductive ProviderFault where
  /-- There is no key to authenticate with. -/
  | missingKey
  /-- The provider answered with a status that means failure. -/
  | rejected (status : Nat) (body : String)
  /-- The call did not get through. -/
  | transport (message : String)
  /-- The answer is not JSON. -/
  | undecodable (message : String)
deriving DecidableEq

namespace ProviderFault

/-- How a missing key is reported. -/
def missingKeyMessage : String := "API Key not configured"

/-- The fault of a resolver that called the provider. -/
def toResolverFault : ProviderFault → ResolverFault
  | missingKey => .configuration missingKeyMessage
  | rejected status body => .providerStatus status body
  | transport message => .transport message
  | undecodable message => .undecodable message

/-- The wording of a provider fault. -/
def message (fault : ProviderFault) : String := fault.toResolverFault.message

end ProviderFault

/-- What arrives next of a body: bytes, or the failure that ends it. -/
abbrev Arrival := Except ProviderFault (List UInt8)

/-- The calls that the provider takes; a call may act on a state of type `σ`.  Paths begin with a
slash. -/
structure Provider (σ : Type) where
  get : (path : String) → StateM σ (Except ProviderFault Json)
  post : (path : String) → (body : Json) → StateM σ (Except ProviderFault Json)
  stream : (path : String) → (body : Json) → StateM σ (Except ProviderFault (List Arrival))

end CompletionGateway
