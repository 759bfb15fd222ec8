import CompletionGateway.Completion.Basic
import CompletionGateway.EventStream.Relay
import CompletionGateway.Execution.Run

/-!
# Subscriptions

A subscription selects exactly one of the two streaming fields.  Opening one never fails: whatever
goes wrong is reported by an event.
-/

namespace CompletionGateway

/-- A subscription that is ready to be sent to the provider. -/
structure Subscription where
  field : String
  kind : CompletionKind
  body : Json

namespace Subscription

/-- What a streaming field continues. -/
def kindOf? (field : String) : Option CompletionKind :=
  if field = "chatStream" then some .chat
  else if field = "completionStream" then some .text
  else none

/-- The subscription to one field. -/
def ofField (field : Field) (bindings : Variables) : Except ExecutionFault Subscription :=
  match kindOf? field.name with
  | none => .error (.unknownField .subscription field.name)
  | some kind =>
      match field.arguments.resolve bindings with
      | .error fault => .error (.undefinedVariable fault)
      | .ok arguments =>
          match Completion.inputOf arguments >>= (Completion.requestBody kind · true) with
          | .error fault => .error (.resolver field.name fault)
          | .ok body => .ok ⟨field.name, kind, body⟩

/-- The subscription that a request asks for. -/
def ofRequest (request : Request) : Except ExecutionFault Subscription :=
  match request.operation with
  | .error fault => .error fault
  | .ok operation =>
      if operation.type ≠ .subscription then .error (.notSubscription operation.type)
      else
        match operation.fields with
        | [field] => ofField field request.variableValues
        | fields => .error (.subscriptionFields fields.length)

end Subscription

namespace EventStream

/-- Opens the subscription that a request asks for: the events to send. -/
def subscribe {σ : Type} (refusal : List Char → String) (provider : Provider σ) (request : Request) :
    StateM σ (List Event) :=
  match Subscription.ofRequest request with
  | .error fault => return [.failure fault.message fault.toResponseError.code]
  | .ok subscription => do
      match ← provider.stream subscription.kind.path subscription.body with
      | .ok arrivals => return relay refusal arrivals
      | .error fault => return [failureOf fault]

end EventStream

end CompletionGateway
