import CompletionGateway.Json.Reading

/-!
# Records in JSON texts

A record with known fields is written as an object or as an array of the fields in their order.  In
an object unknown members only need the right shape, and a known one must not be repeated; an array
may leave out fields at its end.
-/

namespace CompletionGateway.Json.Draft

/-- The members of an object under their names. -/
def namedMembers? (members : List (List StringPart × Draft)) : Option (List (String × Draft)) :=
  members.mapM fun (name, value) => (stringOfParts? name).map fun name => (name, value)

/-- The one value under a name, or nothing; `none` if the name is repeated. -/
def uniqueMember? (members : List (String × Draft)) (name : String) : Option (Option Draft) :=
  match members.filter fun member => member.1 == name with
  | [] => some none
  | [(_, value)] => some (some value)
  | _ => none

/-- The fields of a record, as far as they are given. -/
def recordFields? (names : List String) : Draft → Option (List (Option Draft))
  | object members => do
      let members ← namedMembers? members
      names.mapM (uniqueMember? members)
  | array items =>
      if items.length ≤ names.length then
        some (items.map some ++ List.replicate (names.length - items.length) none)
      else none
  | _ => none

/-- The string that a draft is. -/
def asString? : Draft → Option String
  | string parts => stringOfParts? parts
  | _ => none

/-- The object that a draft is, with at most `room` nested containers. -/
def asObject? (room : Nat) (draft : Draft) : Option Json.Object :=
  match toJson? room draft with
  | some (.object members) => some members
  | _ => none

/-- The array that a draft is, with at most `room` nested containers. -/
def asArray? (room : Nat) (draft : Draft) : Option (List Json) :=
  match toJson? room draft with
  | some (.array items) => some items
  | _ => none

/-- A field that may be absent or `null`, read by `read`. -/
def optional? {α : Type} (read : Draft → Option α) : Option Draft → Option (Option α)
  | none => some none
  | some null => some none
  | some draft => (read draft).map some

end CompletionGateway.Json.Draft
