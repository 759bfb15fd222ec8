import CompletionGateway.Dict
import CompletionGateway.Number.Binary64

/-!
# JSON values

Numbers keep the distinction that their texts make: whole numbers that fit sixty-four bits are kept
exactly, all others are binary64.  Objects keep their members in order.
-/

namespace CompletionGateway

/-- A JSON number: a natural number below `2 ^ 64`, the negative of one up to `2 ^ 63`, or a finite
binary64 number. -/
inductive JsonNumber where
  | natural (n : Nat)
  | negative (n : Nat)
  | real (x : Binary64)
deriving DecidableEq

/-- The nearest binary64 number. -/
def JsonNumber.toBinary64 : JsonNumber → Binary64
  | natural n => .ofNat false n
  | negative n => .ofNat true n
  | real x => x

/-- A JSON value. -/
inductive Json where
  | null
  | bool (value : Bool)
  | number (value : JsonNumber)
  | string (value : String)
  | array (items : List Json)
  | object (members : List (String × Json))

namespace Json

/-- A JSON object: the members of `Json.object`. -/
abbrev Object := Dict Json

/-- A number without fraction or exponent. -/
def ofNat (n : Nat) : Json := .number (.natural n)

/-- Whether the value is `null`. -/
def isNull : Json → Bool
  | null => true
  | _ => false

end Json

end CompletionGateway
