import CompletionGateway.Json.Basic
import CompletionGateway.Operation.Basic

/-!
# Argument values and JSON

An argument value without variables is a JSON value, and every JSON value is an argument value, all
of whose numbers are binary64.  Going to JSON, a whole number below `2 ^ 53` in magnitude becomes an
integer, so that a count of `200` is sent as `200` and not as `200.0`.
-/

namespace CompletionGateway

/-- The magnitude from which on not every whole number is a binary64 number. -/
def safeIntegerBound : Nat := Nat.pow 2 53

/-- A binary64 number in JSON; what is not finite becomes `null`. -/
def Json.ofBinary64 (x : Binary64) : Json :=
  match x with
  | .finite negative rank =>
      match Binary64.wholeOfRank? rank.val with
      | some n =>
          if n < safeIntegerBound then
            if negative ∧ n ≠ 0 then .number (.negative n) else .number (.natural n)
          else .number (.real x)
      | none => .number (.real x)
  | _ => .null

namespace ArgValue

mutual

/-- The JSON value, unless a variable occurs. -/
def toJson? : ArgValue → Option Json
  | string s => some (.string s)
  | number x => some (.ofBinary64 x)
  | bool b => some (.bool b)
  | null => some .null
  | «variable» _ => none
  | object entries => (entriesToJson? entries).map .object
  | list items => (itemsToJson? items).map .array

/-- The JSON values of the entries of an object. -/
def entriesToJson? : List (String × ArgValue) → Option (List (String × Json))
  | [] => some []
  | (key, value) :: rest => do
      let value ← toJson? value
      let members ← entriesToJson? rest
      some ((key, value) :: members)

/-- The JSON values of the items of a list. -/
def itemsToJson? : List ArgValue → Option (List Json)
  | [] => some []
  | value :: rest => do
      let value ← toJson? value
      let values ← itemsToJson? rest
      some (value :: values)

end

mutual

/-- Whether a variable occurs. -/
def containsVariable : ArgValue → Bool
  | «variable» _ => true
  | object entries => entriesContainVariable entries
  | list items => itemsContainVariable items
  | _ => false

/-- Whether a variable occurs in the entries of an object. -/
def entriesContainVariable : List (String × ArgValue) → Bool
  | [] => false
  | (_, value) :: rest => containsVariable value || entriesContainVariable rest

/-- Whether a variable occurs in the items of a list. -/
def itemsContainVariable : List ArgValue → Bool
  | [] => false
  | value :: rest => containsVariable value || itemsContainVariable rest

end

mutual

/-- A JSON value as an argument value. -/
def ofJson : Json → ArgValue
  | .null => null
  | .bool b => bool b
  | .number n => number n.toBinary64
  | .string s => string s
  | .array items => list (itemsOfJson items)
  | .object members => object (entriesOfJson members)

/-- The items of a JSON array as argument values. -/
def itemsOfJson : List Json → List ArgValue
  | [] => []
  | value :: rest => ofJson value :: itemsOfJson rest

/-- The members of a JSON object as argument values. -/
def entriesOfJson : List (String × Json) → List (String × ArgValue)
  | [] => []
  | (name, value) :: rest => (name, ofJson value) :: entriesOfJson rest

end

end ArgValue

end CompletionGateway
