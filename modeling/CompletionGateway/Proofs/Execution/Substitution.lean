import CompletionGateway.Execution.Variables

/-!
# Resolving is substitution

The variables of a value are listed as the document has them, from left to right and from the
outside in.  Resolving puts the values of variables in the places of their references and leaves
all else as it is, which is said here as a relation between an argument value and a JSON value.  It
goes through if every variable that occurs is defined, and otherwise names the first that is not.
-/

namespace CompletionGateway

theorem Dict.isNone_find?_iff {α : Type} (entries : Dict α) (name : String) :
    (entries.find? name).isNone = true ↔ name ∉ entries.names := by
  rw [Option.isNone_iff_eq_none, find?_eq_none_iff]

namespace ArgValue

mutual

/-- The names of the variables that occur, in document order. -/
def variableNames : ArgValue → List String
  | «variable» name => [name]
  | object entries => entriesVariableNames entries
  | list items => itemsVariableNames items
  | _ => []

/-- The names of the variables that occur in the entries of an object. -/
def entriesVariableNames : List (String × ArgValue) → List String
  | [] => []
  | (_, value) :: rest => variableNames value ++ entriesVariableNames rest

/-- The names of the variables that occur in the items of a list. -/
def itemsVariableNames : List ArgValue → List String
  | [] => []
  | value :: rest => variableNames value ++ itemsVariableNames rest

end

section Relation

variable (bindings : Variables)

mutual

/-- The JSON value is the argument value with the values of variables in their places. -/
inductive Substitutes : ArgValue → Json → Prop
  | variable {name : String} {json : Json} (hfound : bindings.find? name = some json) :
      Substitutes (.variable name) json
  /-- What has no variables is the same JSON value under all bindings. -/
  | closed {value : ArgValue} {json : Json} (hclosed : value.toJson? = some json) :
      Substitutes value json
  | object {entries : List (String × ArgValue)} {members : List (String × Json)}
      (hentries : SubstitutesEntries entries members) :
      Substitutes (.object entries) (.object members)
  | list {items : List ArgValue} {values : List Json} (hitems : SubstitutesItems items values) :
      Substitutes (.list items) (.array values)

/-- The same, entry by entry: the names are the same and in the same order. -/
inductive SubstitutesEntries : List (String × ArgValue) → List (String × Json) → Prop
  | nil : SubstitutesEntries [] []
  | cons {key : String} {value : ArgValue} {json : Json} {rest : List (String × ArgValue)}
      {members : List (String × Json)} (hvalue : Substitutes value json)
      (hrest : SubstitutesEntries rest members) :
      SubstitutesEntries ((key, value) :: rest) ((key, json) :: members)

/-- The same, item by item. -/
inductive SubstitutesItems : List ArgValue → List Json → Prop
  | nil : SubstitutesItems [] []
  | cons {value : ArgValue} {json : Json} {rest : List ArgValue} {values : List Json}
      (hvalue : Substitutes value json) (hrest : SubstitutesItems rest values) :
      SubstitutesItems (value :: rest) (json :: values)

end

end Relation

/-! ### Values without variables -/

mutual

/-- A value has no JSON value by itself exactly if a variable occurs in it. -/
theorem containsVariable_eq : (value : ArgValue) → value.containsVariable = value.toJson?.isNone
  | .string _ | .number _ | .bool _ | .null | .variable _ => rfl
  | .object entries => by
      rw [containsVariable, toJson?, entriesContainVariable_eq entries, Option.isNone_map]
  | .list items => by
      rw [containsVariable, toJson?, itemsContainVariable_eq items, Option.isNone_map]

theorem entriesContainVariable_eq : (entries : List (String × ArgValue)) →
    entriesContainVariable entries = (entriesToJson? entries).isNone
  | [] => rfl
  | (_, value) :: rest => by
      rw [entriesContainVariable, entriesToJson?, containsVariable_eq value,
        entriesContainVariable_eq rest]
      cases toJson? value <;> cases entriesToJson? rest <;> rfl

theorem itemsContainVariable_eq : (items : List ArgValue) →
    itemsContainVariable items = (itemsToJson? items).isNone
  | [] => rfl
  | value :: rest => by
      rw [itemsContainVariable, itemsToJson?, containsVariable_eq value,
        itemsContainVariable_eq rest]
      cases toJson? value <;> cases itemsToJson? rest <;> rfl

end

mutual

/-- A variable occurs in a value exactly if the list of its variables is not empty. -/
theorem containsVariable_eq_not_isEmpty : (value : ArgValue) →
    value.containsVariable = !value.variableNames.isEmpty
  | .string _ | .number _ | .bool _ | .null | .variable _ => rfl
  | .object entries => by
      rw [containsVariable, variableNames, entriesContainVariable_eq_not_isEmpty entries]
  | .list items => by
      rw [containsVariable, variableNames, itemsContainVariable_eq_not_isEmpty items]

theorem entriesContainVariable_eq_not_isEmpty : (entries : List (String × ArgValue)) →
    entriesContainVariable entries = !(entriesVariableNames entries).isEmpty
  | [] => rfl
  | (_, value) :: rest => by
      rw [entriesContainVariable, entriesVariableNames, containsVariable_eq_not_isEmpty value,
        entriesContainVariable_eq_not_isEmpty rest]
      cases variableNames value <;> rfl

theorem itemsContainVariable_eq_not_isEmpty : (items : List ArgValue) →
    itemsContainVariable items = !(itemsVariableNames items).isEmpty
  | [] => rfl
  | value :: rest => by
      rw [itemsContainVariable, itemsVariableNames, containsVariable_eq_not_isEmpty value,
        itemsContainVariable_eq_not_isEmpty rest]
      cases variableNames value <;> rfl

end

section Resolving

variable {bindings : Variables}

mutual

/-- Without variables resolving does what conversion to JSON does, whatever is defined. -/
theorem resolve_of_toJson? {value : ArgValue} {json : Json} (h : value.toJson? = some json) :
    value.resolve bindings = .ok json := by
  cases value with
  | string | number | bool | null => exact congrArg Except.ok (Option.some.inj h)
  | «variable» => cases h
  | object entries =>
      obtain ⟨members, hmembers, rfl⟩ := Option.map_eq_some_iff.1 h
      rw [resolve, resolveEntries_of_entriesToJson? hmembers]
      rfl
  | list items =>
      obtain ⟨values, hvalues, rfl⟩ := Option.map_eq_some_iff.1 h
      rw [resolve, resolveItems_of_itemsToJson? hvalues]
      rfl

theorem resolveEntries_of_entriesToJson? {entries : List (String × ArgValue)}
    {members : List (String × Json)} (h : entriesToJson? entries = some members) :
    resolveEntries bindings entries = .ok members := by
  cases entries with
  | nil => exact congrArg Except.ok (Option.some.inj h)
  | cons entry rest =>
      obtain ⟨json, hjson, h⟩ := Option.bind_eq_some_iff.1 h
      obtain ⟨more, hmore, h⟩ := Option.bind_eq_some_iff.1 h
      obtain rfl := Option.some.inj h
      rw [resolveEntries, resolve_of_toJson? hjson, resolveEntries_of_entriesToJson? hmore]
      rfl

theorem resolveItems_of_itemsToJson? {items : List ArgValue} {values : List Json}
    (h : itemsToJson? items = some values) : resolveItems bindings items = .ok values := by
  cases items with
  | nil => exact congrArg Except.ok (Option.some.inj h)
  | cons value rest =>
      obtain ⟨json, hjson, h⟩ := Option.bind_eq_some_iff.1 h
      obtain ⟨more, hmore, h⟩ := Option.bind_eq_some_iff.1 h
      obtain rfl := Option.some.inj h
      rw [resolveItems, resolve_of_toJson? hjson, resolveItems_of_itemsToJson? hmore]
      rfl

end

mutual

/-- What substitution makes of a value is what resolving makes of it. -/
theorem Substitutes.resolve_eq {value : ArgValue} {json : Json} :
    Substitutes bindings value json → value.resolve bindings = .ok json
  | .variable hfound => by rw [resolve, hfound]
  | .closed hclosed => resolve_of_toJson? hclosed
  | .object hentries => by
      rw [resolve, hentries.resolve_eq]
      rfl
  | .list hitems => by
      rw [resolve, hitems.resolve_eq]
      rfl

theorem SubstitutesEntries.resolve_eq {entries : List (String × ArgValue)}
    {members : List (String × Json)} :
    SubstitutesEntries bindings entries members → resolveEntries bindings entries = .ok members
  | .nil => rfl
  | .cons hvalue hrest => by
      rw [resolveEntries, hvalue.resolve_eq, hrest.resolve_eq]
      rfl

theorem SubstitutesItems.resolve_eq {items : List ArgValue} {values : List Json} :
    SubstitutesItems bindings items values → resolveItems bindings items = .ok values
  | .nil => rfl
  | .cons hvalue hrest => by
      rw [resolveItems, hvalue.resolve_eq, hrest.resolve_eq]
      rfl

end

/-- The first of some names that is not defined. -/
def firstUndefined? (bindings : Variables) (names : List String) : Option String :=
  names.find? fun name => (bindings.find? name).isNone

theorem firstUndefined?_append (names more : List String) :
    firstUndefined? bindings (names ++ more) =
      (firstUndefined? bindings names).or (firstUndefined? bindings more) := List.find?_append

theorem firstUndefined?_eq_none_iff {names : List String} :
    firstUndefined? bindings names = none ↔ ∀ name ∈ names, name ∈ bindings.names := by
  simp only [firstUndefined?, List.find?_eq_none, Dict.isNone_find?_iff, Decidable.not_not]

theorem firstUndefined?_eq_some_iff {names : List String} {name : String} :
    firstUndefined? bindings names = some name ↔ ∃ front back, names = front ++ name :: back ∧
      (∀ before ∈ front, before ∈ bindings.names) ∧ name ∉ bindings.names := by
  have hdefined : ∀ before, (!(bindings.find? before).isNone) = true ↔ before ∈ bindings.names := by
    intro before
    rw [Bool.not_eq_true', Bool.eq_false_iff, Ne, Dict.isNone_find?_iff, Decidable.not_not]
  simp only [firstUndefined?, List.find?_eq_some_iff_append, Dict.isNone_find?_iff, hdefined]
  constructor
  · rintro ⟨habsent, front, back, hsplit, hfront⟩
    exact ⟨front, back, hsplit, hfront, habsent⟩
  · rintro ⟨front, back, hsplit, hfront, habsent⟩
    exact ⟨habsent, front, back, hsplit, hfront⟩

/-- What resolving can come to: the result of a substitution, and then every variable is defined;
or a fault that names the first variable that is not. -/
def ResolvesTo {α : Type} (bindings : Variables) (names : List String) (result : α → Prop) :
    Except UndefinedVariable α → Prop
  | .ok value => result value ∧ firstUndefined? bindings names = none
  | .error fault => firstUndefined? bindings names = some fault.name

/-- Two parts are resolved one after the other, so the fault of the first part counts. -/
theorem ResolvesTo.bind {α β γ : Type} {first : Except UndefinedVariable α}
    {second : Except UndefinedVariable β} {names more : List String} {result : α → Prop}
    {result' : β → Prop} {result'' : γ → Prop} {f : α → β → γ}
    (h : ResolvesTo bindings names result first) (h' : ResolvesTo bindings more result' second)
    (hresult : ∀ value value', result value → result' value' → result'' (f value value')) :
    ResolvesTo bindings (names ++ more) result'' (do return f (← first) (← second)) := by
  cases first with
  | error fault =>
      -- the names of the first part stand before those of the second one
      show firstUndefined? bindings (names ++ more) = some fault.name
      rw [firstUndefined?_append, h, Option.some_or]
  | ok value =>
      cases second with
      | error fault =>
          show firstUndefined? bindings (names ++ more) = some fault.name
          rw [firstUndefined?_append, h.2, Option.none_or, h']
      | ok value' =>
          refine ⟨hresult _ _ h.1 h'.1, ?_⟩
          rw [firstUndefined?_append, h.2, h'.2, Option.none_or]

/-- A part that is all there is to resolve. -/
theorem ResolvesTo.map {α β : Type} {part : Except UndefinedVariable α} {names : List String}
    {result : α → Prop} {result' : β → Prop} {f : α → β} (h : ResolvesTo bindings names result part)
    (hresult : ∀ value, result value → result' (f value)) :
    ResolvesTo bindings names result' (do return f (← part)) := by
  cases part with
  | error fault => exact h
  | ok value => exact ⟨hresult value h.1, h.2⟩

section Outcome

variable {α : Type} {names : List String} {result : α → Prop} {outcome : Except UndefinedVariable α}
variable (h : ResolvesTo bindings names result outcome)

include h

theorem ResolvesTo.exists_ok_iff :
    (∃ value, outcome = .ok value) ↔ ∀ name ∈ names, name ∈ bindings.names := by
  rw [← firstUndefined?_eq_none_iff]
  cases outcome with
  | error fault =>
      have hname : firstUndefined? bindings names = some fault.name := h
      simp [hname]
  | ok value => simp [h.2]

theorem ResolvesTo.eq_error_iff (fault : UndefinedVariable) : outcome = .error fault ↔
    ∃ front back, names = front ++ fault.name :: back ∧
      (∀ name ∈ front, name ∈ bindings.names) ∧ fault.name ∉ bindings.names := by
  rw [← firstUndefined?_eq_some_iff]
  cases outcome with
  | error found =>
      have hname : firstUndefined? bindings names = some found.name := h
      rw [hname, Except.error.injEq, Option.some.injEq, UndefinedVariable.mk.injEq]
  | ok value => simp [h.2]

end Outcome

mutual

theorem resolvesTo_resolve : (value : ArgValue) →
    ResolvesTo bindings value.variableNames (Substitutes bindings value) (value.resolve bindings)
  | .string _ | .number _ | .bool _ | .null => ⟨.closed rfl, rfl⟩
  | .variable name => by
      -- a name that is bound is defined, whatever it is bound to
      cases hfound : bindings.find? name with
      | some json =>
          rw [resolve, hfound]
          exact ⟨.variable hfound, by simp [variableNames, firstUndefined?, hfound]⟩
      | none =>
          rw [resolve, hfound]
          simp [ResolvesTo, variableNames, firstUndefined?, hfound]
  | .object entries => by
      rw [resolve, variableNames]
      exact (resolvesTo_resolveEntries entries).map fun _ => .object
  | .list items => by
      rw [resolve, variableNames]
      exact (resolvesTo_resolveItems items).map fun _ => .list

theorem resolvesTo_resolveEntries : (entries : List (String × ArgValue)) →
    ResolvesTo bindings (entriesVariableNames entries) (SubstitutesEntries bindings entries)
      (resolveEntries bindings entries)
  | [] => ⟨.nil, rfl⟩
  | (_, value) :: rest =>
      (resolvesTo_resolve value).bind (resolvesTo_resolveEntries rest) fun _ _ => .cons

theorem resolvesTo_resolveItems : (items : List ArgValue) →
    ResolvesTo bindings (itemsVariableNames items) (SubstitutesItems bindings items)
      (resolveItems bindings items)
  | [] => ⟨.nil, rfl⟩
  | value :: rest =>
      (resolvesTo_resolve value).bind (resolvesTo_resolveItems rest) fun _ _ => .cons

end

/-! ### Other bindings -/

mutual

/-- Resolving goes by the variables that occur. -/
theorem resolve_congr {bindings' : Variables} : (value : ArgValue) →
    (∀ name ∈ value.variableNames, bindings'.find? name = bindings.find? name) →
      value.resolve bindings' = value.resolve bindings
  | .string _, _ | .number _, _ | .bool _, _ | .null, _ => rfl
  | .variable name, h => by rw [resolve, resolve, h name (List.mem_singleton_self name)]
  | .object entries, h => by rw [resolve, resolve, resolveEntries_congr entries h]
  | .list items, h => by rw [resolve, resolve, resolveItems_congr items h]

theorem resolveEntries_congr {bindings' : Variables} : (entries : List (String × ArgValue)) →
    (∀ name ∈ entriesVariableNames entries, bindings'.find? name = bindings.find? name) →
      resolveEntries bindings' entries = resolveEntries bindings entries
  | [], _ => rfl
  | (key, value) :: rest, h => by
      rw [entriesVariableNames, List.forall_mem_append] at h
      rw [resolveEntries, resolveEntries, resolve_congr value h.1, resolveEntries_congr rest h.2]

theorem resolveItems_congr {bindings' : Variables} : (items : List ArgValue) →
    (∀ name ∈ itemsVariableNames items, bindings'.find? name = bindings.find? name) →
      resolveItems bindings' items = resolveItems bindings items
  | [], _ => rfl
  | value :: rest, h => by
      rw [itemsVariableNames, List.forall_mem_append] at h
      rw [resolveItems, resolveItems, resolve_congr value h.1, resolveItems_congr rest h.2]

end

end Resolving

end ArgValue

/-- The names of the variables in some arguments, in document order. -/
def Arguments.variableNames (arguments : Arguments) : List String :=
  ArgValue.entriesVariableNames arguments

/-- What it means that resolving arguments is substitution. -/
structure Arguments.ResolvesBySubstitution (arguments : Arguments) (bindings : Variables) :
    Prop where
  /-- It goes through if every variable that occurs has a value, which may be `null`. -/
  succeeds : (∃ object, arguments.resolve bindings = .ok object) ↔
    ∀ name ∈ arguments.variableNames, name ∈ bindings.names
  /-- Otherwise it names the first variable that has none. -/
  fails : ∀ fault, arguments.resolve bindings = .error fault ↔
    ∃ front back, arguments.variableNames = front ++ fault.name :: back ∧
      (∀ name ∈ front, name ∈ bindings.names) ∧ fault.name ∉ bindings.names
  /-- The result has the values of variables in the places of their references. -/
  result : ∀ object, arguments.resolve bindings = .ok object ↔
    ArgValue.SubstitutesEntries bindings arguments object
  /-- Only the variables that occur matter. -/
  depends : ∀ bindings' : Variables,
    (∀ name ∈ arguments.variableNames, bindings'.find? name = bindings.find? name) →
      arguments.resolve bindings' = arguments.resolve bindings

/-- What it means that a value converts to JSON by itself if no variable occurs in it: then it has a
JSON value, which it resolves to whatever is defined. -/
structure ArgValue.ConvertsWhenClosed (value : ArgValue) : Prop where
  occurs : value.containsVariable = true ↔ value.variableNames ≠ []
  converts : value.containsVariable = true ↔ value.toJson? = none
  resolves : value.containsVariable = false → ∃ json, value.toJson? = some json ∧
    ∀ bindings, value.resolve bindings = .ok json

theorem ArgValue.convertsWhenClosed (value : ArgValue) : value.ConvertsWhenClosed where
  occurs := by
    rw [containsVariable_eq_not_isEmpty, Bool.not_eq_true', Bool.eq_false_iff, Ne, Ne,
      List.isEmpty_iff]
  converts := by rw [containsVariable_eq, Option.isNone_iff_eq_none]
  resolves hclosed := by
    rw [containsVariable_eq, Option.isNone_eq_false_iff] at hclosed
    obtain ⟨json, hjson⟩ := Option.isSome_iff_exists.1 hclosed
    exact ⟨json, hjson, fun _ => resolve_of_toJson? hjson⟩

/-- Resolving is substitution, and conversion to JSON is substitution where there is nothing to
substitute. -/
theorem Arguments.resolve_substitutes (arguments : Arguments) (bindings : Variables) :
    arguments.ResolvesBySubstitution bindings ∧ ∀ value : ArgValue, value.ConvertsWhenClosed := by
  have houtcome : ArgValue.ResolvesTo bindings arguments.variableNames
      (ArgValue.SubstitutesEntries bindings arguments)
      (ArgValue.resolveEntries bindings arguments) :=
    ArgValue.resolvesTo_resolveEntries arguments
  refine ⟨⟨houtcome.exists_ok_iff, houtcome.eq_error_iff, fun object => ⟨fun hobject => ?_,
    fun hobject => hobject.resolve_eq⟩, fun bindings' => ?_⟩, ArgValue.convertsWhenClosed⟩
  · have hresult : ArgValue.ResolvesTo bindings arguments.variableNames
        (ArgValue.SubstitutesEntries bindings arguments) (.ok object) := hobject ▸ houtcome
    exact hresult.1
  · exact ArgValue.resolveEntries_congr arguments

/-- The first variable is given as `null`, so the second one is the first that is not defined. -/
example : Arguments.resolve [("x", .object [("k", .list [.variable "a", .variable "b"])])]
    [("a", .null)] = .error ⟨"b"⟩ := rfl

end CompletionGateway
