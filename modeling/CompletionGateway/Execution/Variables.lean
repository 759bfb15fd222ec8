import CompletionGateway.Operation.Value

/-!
# Variables

Resolving puts the value of each variable in the place of its references.  The value goes in as it
is; a variable that is given as `null` is defined.
-/

namespace CompletionGateway

/-- The variables of a request, by name without the `$`. -/
abbrev Variables := Dict Json

/-- A reference to a variable that the request does not define. -/
structure UndefinedVariable where
  name : String
deriving DecidableEq

/-- The wording of the fault. -/
def UndefinedVariable.message (fault : UndefinedVariable) : String :=
  s!"Variable \"${fault.name}\" is not defined"

namespace ArgValue

mutual

/-- The JSON value with every variable replaced by its value. -/
def resolve (bindings : Variables) : ArgValue → Except UndefinedVariable Json
  | string s => .ok (.string s)
  | number x => .ok (.ofBinary64 x)
  | bool b => .ok (.bool b)
  | null => .ok .null
  | «variable» name =>
      match bindings.find? name with
      | some value => .ok value
      | none => .error ⟨name⟩
  | object entries => return .object (← resolveEntries bindings entries)
  | list items => return .array (← resolveItems bindings items)

/-- The entries of an object, one after the other. -/
def resolveEntries (bindings : Variables) :
    List (String × ArgValue) → Except UndefinedVariable (List (String × Json))
  | [] => .ok []
  | (key, value) :: rest => do
      let value ← resolve bindings value
      let members ← resolveEntries bindings rest
      return (key, value) :: members

/-- The items of a list, one after the other. -/
def resolveItems (bindings : Variables) :
    List ArgValue → Except UndefinedVariable (List Json)
  | [] => .ok []
  | value :: rest => do
      let value ← resolve bindings value
      let values ← resolveItems bindings rest
      return value :: values

end

end ArgValue

/-- The arguments of a field with every variable replaced by its value. -/
def Arguments.resolve (arguments : Arguments) (bindings : Variables) :
    Except UndefinedVariable Json.Object :=
  ArgValue.resolveEntries bindings arguments

end CompletionGateway
