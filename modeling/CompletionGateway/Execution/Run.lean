import CompletionGateway.Diagnostic.Report
import CompletionGateway.Execution.Registry
import CompletionGateway.Execution.Request
import CompletionGateway.Execution.Response
import CompletionGateway.Operation.Document

/-!
# Executing operations

The fields of an operation are resolved one after the other in document order.  The first failure
ends the operation, and then there is one error and no data.
-/

namespace CompletionGateway

/-- Why an operation is not executed to its end. -/
inductive ExecutionFault where
  /-- The document cannot be read. -/
  | malformed (diagnostic : Diagnostic)
  /-- The document does not hold the operation that was asked for. -/
  | unknownOperation (name : String)
  /-- A subscription where queries and mutations are executed. -/
  | unexpectedSubscription
  /-- A query or mutation where subscriptions are opened. -/
  | notSubscription (type : OperationType)
  /-- A subscription that does not select exactly one field. -/
  | subscriptionFields (count : Nat)
  | unknownField (type : OperationType) (name : String)
  | undefinedVariable (fault : UndefinedVariable)
  | resolver (field : String) (fault : ResolverFault)
deriving DecidableEq

namespace ExecutionFault

/-- The wording of an execution fault. -/
def message : ExecutionFault → String
  | malformed diagnostic => s!"Syntax error: {diagnostic.oneLine}"
  | unknownOperation name => s!"Unknown operation named \"{name}\""
  | unexpectedSubscription => "Subscriptions are only supported on the streaming endpoint"
  | notSubscription type =>
      s!"The streaming endpoint only accepts subscription operations, got a {type.keyword}"
  | subscriptionFields count => s!"A subscription must select exactly one field, got {count}"
  | unknownField type name => s!"Cannot query field \"{name}\" on type \"{type.rootName}\""
  | undefinedVariable fault => fault.message
  | resolver _ fault => fault.message

/-- The error of the response.  All these faults have the same code. -/
def toResponseError (fault : ExecutionFault) : ResponseError :=
  .of fault.message .internalError

end ExecutionFault

/-- The operation that a request asks for.  An empty operation name means none. -/
def Request.operation (request : Request) : Except ExecutionFault Operation :=
  match Operation.parse request.query.toList with
  | .error diagnostic => .error (.malformed diagnostic)
  | .ok operation =>
      match request.operationName with
      | none => .ok operation
      | some name =>
          if name = "" ∨ operation.name = some name then .ok operation
          else .error (.unknownOperation name)

/-- The variables of a request; none if it gives none. -/
def Request.variableValues (request : Request) : Variables := request.bindings.getD []

namespace Registry

variable {σ : Type}

/-- Resolves one field: finds its resolver, then its arguments, then calls the resolver. -/
def resolveField (registry : Registry σ) (type : OperationType) (bindings : Variables)
    (field : Field) : StateM σ (Except ExecutionFault Json) :=
  match registry.find? type field.name with
  | none => return .error (.unknownField type field.name)
  | some resolver =>
      match field.arguments.resolve bindings with
      | .error fault => return .error (.undefinedVariable fault)
      | .ok arguments => do
          match ← resolver arguments with
          | .ok value => return .ok value
          | .error fault => return .error (.resolver field.name fault)

/-- Resolves fields one after the other, up to the first failure, and adds their values to those
already there. -/
def resolveFields (registry : Registry σ) (type : OperationType) (bindings : Variables) :
    List Field → Dict Json → StateM σ (Except ExecutionFault (Dict Json))
  | [], values => return .ok values
  | field :: rest, values => do
      match ← registry.resolveField type bindings field with
      | .ok value =>
          resolveFields registry type bindings rest (values.insert field.name value)
      | .error fault => return .error fault

/-- Executes a request: the values of its fields, or the first fault. -/
def run (registry : Registry σ) (request : Request) :
    StateM σ (Except ExecutionFault (Dict Json)) :=
  match request.operation with
  | .error fault => return .error fault
  | .ok operation =>
      if operation.type = .subscription then return .error .unexpectedSubscription
      else registry.resolveFields operation.type request.variableValues operation.fields []

/-- Executes a request and answers it. -/
def execute (registry : Registry σ) (request : Request) : StateM σ Response := do
  match ← registry.run request with
  | .ok values => return .data values
  | .error fault => return .errors [fault.toResponseError]

end Registry

end CompletionGateway
