import CompletionGateway.Execution.Run

/-!
# Calls of resolvers

Which resolvers an execution calls, in which order and with which arguments, is seen by having every
resolver write down its own call.  The registry with such resolvers is executed by the same program,
so the list it leaves is the list of calls.

What the list has to be is said without the program.  Fields are resolved one after the other from
the table of the operation's type, each step beginning in the state that the step before left; a
field fails because no entry of the table has its name, because an argument refers to an undefined
variable, or because its resolver fails, and only the last of these is a call.  This leaves nothing
open: the response, the calls and the state that is left are determined.
-/

namespace CompletionGateway

/-- A call of a resolver: where it was found, and what it was called with. -/
structure Call where
  type : OperationType
  field : String
  arguments : Json.Object

variable {σ : Type}

/-- The resolver, writing down its calls behind those that are written down already. -/
def Resolver.logged (type : OperationType) (name : String) (resolver : Resolver σ) :
    Resolver (σ × List Call) := fun arguments => do
  let (s, log) ← get
  let (result, s) := (resolver arguments).run s
  set (s, log ++ [⟨type, name, arguments⟩])
  return result

theorem Resolver.logged_apply {type : OperationType} {name : String} {resolver : Resolver σ}
    {arguments : Json.Object} {s s' : σ} {result : Except ResolverFault Json}
    (h : resolver arguments s = (result, s')) (log : List Call) :
    resolver.logged type name arguments (s, log) =
      (result, (s', log ++ [⟨type, name, arguments⟩])) := by
  show ((resolver arguments s).1, ((resolver arguments s).2, log ++ [⟨type, name, arguments⟩])) = _
  rw [h]

/-- The request selects this operation: its document holds it, and the request names no other. -/
structure Request.Selects (request : Request) (operation : Operation) : Prop where
  parse : Operation.parse request.query.toList = .ok operation
  named : ∀ name ∈ request.operationName, name = "" ∨ operation.name = some name

/-- Why a request is turned away before any of its fields is looked at. -/
inductive Request.Refused (request : Request) : ExecutionFault → Prop
  | malformed {diagnostic : Diagnostic}
      (parse : Operation.parse request.query.toList = .error diagnostic) :
      request.Refused (.malformed diagnostic)
  | unknownOperation {operation : Operation} {name : String}
      (parse : Operation.parse request.query.toList = .ok operation)
      (requested : request.operationName = some name) (nonempty : name ≠ "")
      (other : operation.name ≠ some name) : request.Refused (.unknownOperation name)
  | unexpectedSubscription {operation : Operation} (selects : request.Selects operation)
      (type : operation.type = .subscription) : request.Refused .unexpectedSubscription

/-- The entries answer the fields: each name stands where a field first has it, and has the value of
the last field with that name. -/
structure AnswersFields (fields : List Field) (values : List Json) (entries : Dict Json) : Prop where
  names : entries.map Prod.fst = (fields.map Field.name).eraseDups
  last : ∀ front field back, fields = front ++ field :: back →
    field.name ∉ back.map Field.name →
      ∃ value, values[front.length]? = some value ∧ (field.name, value) ∈ entries

/-- A name that some field has is the name of a last one. -/
theorem exists_last_field {fields : List Field} {name : String} (h : name ∈ fields.map Field.name) :
    ∃ front field back, fields = front ++ field :: back ∧ field.name = name ∧
      name ∉ back.map Field.name := by
  induction fields with
  | nil => simp at h
  | cons field rest ih =>
      by_cases hrest : name ∈ rest.map Field.name
      · obtain ⟨front, last, back, rfl, hname, hback⟩ := ih hrest
        exact ⟨field :: front, last, back, rfl, hname, hback⟩
      · rw [List.map_cons, List.mem_cons] at h
        exact ⟨[], field, rest, rfl, (h.resolve_right hrest).symm, hrest⟩

/-- Only these entries answer the fields. -/
theorem AnswersFields.unique {fields : List Field} {values : List Json} {entries entries' : Dict Json}
    (h : AnswersFields fields values entries) (h' : AnswersFields fields values entries') :
    entries = entries' := by
  have hnodup {entries : Dict Json} (h : AnswersFields fields values entries) :
      (Dict.names entries).Nodup := by
    rw [Dict.names, h.names]
    exact Dict.nodup_eraseDups _
  refine Dict.ext_of_names (hnodup h) (h.names.trans h'.names.symm) fun name hname => ?_
  rw [Dict.names, h.names, List.mem_eraseDups] at hname
  obtain ⟨front, field, back, hfields, rfl, hlast⟩ := exists_last_field hname
  obtain ⟨value, hvalue, hmem⟩ := h.last front field back hfields hlast
  obtain ⟨value', hvalue', hmem'⟩ := h'.last front field back hfields hlast
  rw [hvalue, Option.some.injEq] at hvalue'
  subst hvalue'
  rw [(Dict.find?_eq_some_iff (hnodup h)).2 hmem, (Dict.find?_eq_some_iff (hnodup h')).2 hmem']

namespace Registry

/-- The registry, with all resolvers writing down their calls. -/
def logged (registry : Registry σ) : Registry (σ × List Call) where
  query := registry.query.map fun (name, resolver) => (name, resolver.logged .query name)
  mutation := registry.mutation.map fun (name, resolver) => (name, resolver.logged .mutation name)

theorem find?_logged (registry : Registry σ) (type : OperationType) (name : String) :
    registry.logged.find? type name =
      (registry.find? type name).map fun resolver => resolver.logged type name := by
  cases type with
  | query => exact Dict.find?_map registry.query (fun name => Resolver.logged .query name) name
  | mutation =>
      exact Dict.find?_map registry.mutation (fun name => Resolver.logged .mutation name) name
  | subscription => rfl

/-- The registry knows a field: its resolver is the first with its name in the table of the type. -/
inductive Knows (registry : Registry σ) : OperationType → String → Resolver σ → Prop
  | query {name : String} {resolver : Resolver σ} {front back : List (String × Resolver σ)}
      (table : registry.query = front ++ (name, resolver) :: back)
      (first : name ∉ front.map Prod.fst) : Knows registry .query name resolver
  | mutation {name : String} {resolver : Resolver σ} {front back : List (String × Resolver σ)}
      (table : registry.mutation = front ++ (name, resolver) :: back)
      (first : name ∉ front.map Prod.fst) : Knows registry .mutation name resolver

/-- The registry does not know a field: the table of the type has no entry with its name.  There is
no table of subscriptions. -/
inductive Lacks (registry : Registry σ) : OperationType → String → Prop
  | query {name : String} (absent : name ∉ registry.query.map Prod.fst) : Lacks registry .query name
  | mutation {name : String} (absent : name ∉ registry.mutation.map Prod.fst) :
      Lacks registry .mutation name
  | subscription {name : String} : Lacks registry .subscription name

theorem find?_eq_some_iff_knows {registry : Registry σ} {type : OperationType} {name : String}
    {resolver : Resolver σ} :
    registry.find? type name = some resolver ↔ registry.Knows type name resolver := by
  constructor
  · intro hfound
    cases type with
    | query =>
        obtain ⟨front, back, htable, hfirst⟩ := Dict.find?_eq_some_iff_append.1 hfound
        exact .query htable hfirst
    | mutation =>
        obtain ⟨front, back, htable, hfirst⟩ := Dict.find?_eq_some_iff_append.1 hfound
        exact .mutation htable hfirst
    | subscription => cases hfound
  · rintro (⟨htable, hfirst⟩ | ⟨htable, hfirst⟩)
    · exact Dict.find?_eq_some_iff_append.2 ⟨_, _, htable, hfirst⟩
    · exact Dict.find?_eq_some_iff_append.2 ⟨_, _, htable, hfirst⟩

theorem find?_eq_none_iff_lacks {registry : Registry σ} {type : OperationType} {name : String} :
    registry.find? type name = none ↔ registry.Lacks type name := by
  constructor
  · intro hnone
    cases type with
    | query => exact .query (Dict.find?_eq_none_iff.1 hnone)
    | mutation => exact .mutation (Dict.find?_eq_none_iff.1 hnone)
    | subscription => exact .subscription
  · rintro (habsent | habsent | -)
    · exact Dict.find?_eq_none_iff.2 habsent
    · exact Dict.find?_eq_none_iff.2 habsent
    · rfl

/-- A field is known or not. -/
theorem knows_or_lacks (registry : Registry σ) (type : OperationType) (name : String) :
    (∃ resolver, registry.Knows type name resolver) ∨ registry.Lacks type name := by
  cases hfound : registry.find? type name with
  | none => exact .inr (find?_eq_none_iff_lacks.1 hfound)
  | some resolver => exact .inl ⟨resolver, find?_eq_some_iff_knows.1 hfound⟩

theorem Knows.logged {registry : Registry σ} {type : OperationType} {name : String}
    {resolver : Resolver σ} (h : registry.Knows type name resolver) :
    registry.logged.Knows type name (resolver.logged type name) := by
  rw [← find?_eq_some_iff_knows] at h ⊢
  rw [find?_logged, h, Option.map_some]

theorem Lacks.logged {registry : Registry σ} {type : OperationType} {name : String}
    (h : registry.Lacks type name) : registry.logged.Lacks type name := by
  rw [← find?_eq_none_iff_lacks] at h ⊢
  rw [find?_logged, h, Option.map_none]

section

variable (registry : Registry σ) (type : OperationType) (bindings : Variables)

/-- All fields are resolved, with these calls and values, from one state to another. -/
inductive Resolves : σ → List Field → List Call → List Json → σ → Prop
  | nil (s : σ) : Resolves s [] [] [] s
  | cons {s s' s'' : σ} {field : Field} {resolver : Resolver σ} {arguments : Json.Object}
      {value : Json} {rest : List Field} {calls : List Call} {values : List Json}
      (found : registry.Knows type field.name resolver)
      (resolved : field.arguments.resolve bindings = .ok arguments)
      (called : resolver arguments s = (.ok value, s'))
      (others : Resolves s' rest calls values s'') :
      Resolves s (field :: rest) (⟨type, field.name, arguments⟩ :: calls) (value :: values) s''

/-- One field fails, with these calls, from one state to another. -/
inductive Fails : σ → Field → ExecutionFault → List Call → σ → Prop
  | unknownField {s : σ} {field : Field} (absent : registry.Lacks type field.name) :
      Fails s field (.unknownField type field.name) [] s
  | undefinedVariable {s : σ} {field : Field} {resolver : Resolver σ} {fault : UndefinedVariable}
      (found : registry.Knows type field.name resolver)
      (unresolved : field.arguments.resolve bindings = .error fault) :
      Fails s field (.undefinedVariable fault) [] s
  | resolver {s s' : σ} {field : Field} {resolver : Resolver σ} {arguments : Json.Object}
      {fault : ResolverFault}
      (found : registry.Knows type field.name resolver)
      (resolved : field.arguments.resolve bindings = .ok arguments)
      (called : resolver arguments s = (.error fault, s')) :
      Fails s field (.resolver field.name fault) [⟨type, field.name, arguments⟩] s'

end

/-- What executing a request comes to: the response, the calls, and the state that is left. -/
inductive Outcome (registry : Registry σ) (request : Request) (s : σ) :
    Response → List Call → σ → Prop
  | refused {fault : ExecutionFault} (refused : request.Refused fault) :
      Outcome registry request s (.errors [⟨fault.message, [], [], .internalError⟩]) [] s
  | data {operation : Operation} {calls : List Call} {values : List Json} {entries : Dict Json}
      {s' : σ} (selects : request.Selects operation) (type : operation.type ≠ .subscription)
      (resolves : registry.Resolves operation.type (request.bindings.getD []) s operation.fields
        calls values s')
      (answers : AnswersFields operation.fields values entries) :
      Outcome registry request s (.data entries) calls s'
  | failed {operation : Operation} {front back : List Field} {field : Field}
      {calls more : List Call} {values : List Json} {fault : ExecutionFault} {s' s'' : σ}
      (selects : request.Selects operation) (type : operation.type ≠ .subscription)
      (fields : operation.fields = front ++ field :: back)
      (resolves : registry.Resolves operation.type (request.bindings.getD []) s front calls values
        s')
      (fails : registry.Fails operation.type (request.bindings.getD []) s' field fault more s'') :
      Outcome registry request s (.errors [⟨fault.message, [], [], .internalError⟩])
        (calls ++ more) s''

variable {registry : Registry σ} {type : OperationType} {bindings : Variables}

/-! ### Fields -/

/-- A field is resolved by one call, or it fails. -/
theorem field_cases (registry : Registry σ) (type : OperationType) (bindings : Variables)
    (field : Field) (s : σ) :
    (∃ resolver arguments value s', registry.Knows type field.name resolver ∧
        field.arguments.resolve bindings = .ok arguments ∧
        resolver arguments s = (.ok value, s')) ∨
      ∃ fault calls s', registry.Fails type bindings s field fault calls s' := by
  rcases registry.knows_or_lacks type field.name with ⟨resolver, hknown⟩ | hunknown
  · cases hresolved : field.arguments.resolve bindings with
    | error fault => exact .inr ⟨_, _, _, .undefinedVariable hknown hresolved⟩
    | ok arguments =>
        obtain ⟨result, s', hcalled⟩ : ∃ result s', resolver arguments s = (result, s') :=
          ⟨_, _, rfl⟩
        cases result with
        | ok value => exact .inl ⟨resolver, arguments, value, s', hknown, rfl, hcalled⟩
        | error fault => exact .inr ⟨_, _, _, .resolver hknown hresolved hcalled⟩
  · exact .inr ⟨_, _, _, .unknownField hunknown⟩

/-- All fields are resolved, or there is a first one that fails. -/
theorem fields_cases (registry : Registry σ) (type : OperationType) (bindings : Variables)
    (fields : List Field) (s : σ) :
    (∃ calls values s', registry.Resolves type bindings s fields calls values s') ∨
      ∃ front field back calls values s' fault more s'', fields = front ++ field :: back ∧
        registry.Resolves type bindings s front calls values s' ∧
        registry.Fails type bindings s' field fault more s'' := by
  induction fields generalizing s with
  | nil => exact .inl ⟨[], [], s, .nil s⟩
  | cons field rest ih =>
      rcases field_cases registry type bindings field s with
        ⟨resolver, arguments, value, next, hfound, hresolved, hcalled⟩ |
          ⟨fault, more, s'', hfails⟩
      · rcases ih next with ⟨calls, values, s', hrest⟩ |
          ⟨front, other, back, calls, values, s', fault, more, s'', rfl, hfront, hfails⟩
        · exact .inl ⟨_, _, s', .cons hfound hresolved hcalled hrest⟩
        · exact .inr ⟨field :: front, other, back, _, _, s', fault, more, s'', rfl,
            .cons hfound hresolved hcalled hfront, hfails⟩
      · exact .inr ⟨[], field, rest, [], [], s, fault, more, s'', rfl, .nil s, hfails⟩

theorem Resolves.length_eq {s s' : σ} {fields : List Field} {calls : List Call}
    {values : List Json} (h : registry.Resolves type bindings s fields calls values s') :
    values.length = fields.length := by
  induction h with
  | nil => rfl
  | cons _ _ _ _ ih => rw [List.length_cons, List.length_cons, ih]

/-! ### Runs -/

theorem resolveField_of_called {s s' : σ} {field : Field} {resolver : Resolver σ}
    {arguments : Json.Object} {value : Json}
    (hknown : registry.Knows type field.name resolver)
    (hresolved : field.arguments.resolve bindings = .ok arguments)
    (hcalled : resolver arguments s = (.ok value, s')) :
    registry.resolveField type bindings field s = (.ok value, s') := by
  simp only [resolveField, find?_eq_some_iff_knows.2 hknown, hresolved, bind, StateT.bind, hcalled]
  rfl

theorem resolveField_of_fails {s s' : σ} {field : Field} {fault : ExecutionFault}
    {calls : List Call} (h : registry.Fails type bindings s field fault calls s') :
    registry.resolveField type bindings field s = (.error fault, s') := by
  cases h with
  | unknownField absent =>
      simp only [resolveField, find?_eq_none_iff_lacks.2 absent]
      rfl
  | undefinedVariable found unresolved =>
      simp only [resolveField, find?_eq_some_iff_knows.2 found, unresolved]
      rfl
  | resolver found resolved called =>
      simp only [resolveField, find?_eq_some_iff_knows.2 found, resolved, bind, StateT.bind, called]
      rfl

/-- Resolving fields writes their values in order. -/
theorem resolveFields_of_resolves {s s' : σ} {fields : List Field} {calls : List Call}
    {values : List Json} (h : registry.Resolves type bindings s fields calls values s')
    (entries : Dict Json) :
    registry.resolveFields type bindings fields entries s =
      (.ok (entries.insertAll ((fields.map Field.name).zip values)), s') := by
  induction h generalizing entries with
  | nil s => rfl
  | cons found resolved called _ ih =>
      simp only [resolveFields, bind, StateT.bind, resolveField_of_called found resolved called]
      exact ih _

/-- Resolving fields stops at the first that fails. -/
theorem resolveFields_of_fails {s s' s'' : σ} {front : List Field} {field : Field}
    {calls more : List Call} {values : List Json} {fault : ExecutionFault}
    (hfront : registry.Resolves type bindings s front calls values s')
    (hfails : registry.Fails type bindings s' field fault more s'') (back : List Field)
    (entries : Dict Json) :
    registry.resolveFields type bindings (front ++ field :: back) entries s =
      (.error fault, s'') := by
  induction hfront generalizing entries with
  | nil s =>
      simp only [List.nil_append, resolveFields, bind, StateT.bind, resolveField_of_fails hfails]
      rfl
  | cons found resolved called _ ih =>
      simp only [List.cons_append, resolveFields, bind, StateT.bind,
        resolveField_of_called found resolved called]
      exact ih hfails _

/-- Fields are not all resolved if one of them fails behind those that are. -/
theorem Resolves.not_fails {s s' s'' last : σ} {front back : List Field} {field : Field}
    {calls calls' more : List Call} {values values' : List Json} {fault : ExecutionFault}
    (h : registry.Resolves type bindings s (front ++ field :: back) calls' values' last)
    (hfront : registry.Resolves type bindings s front calls values s') :
    ¬ registry.Fails type bindings s' field fault more s'' := by
  intro hfails
  have hdone := resolveFields_of_resolves h []
  rw [resolveFields_of_fails hfront hfails back []] at hdone
  cases hdone

theorem execute_of_ok {request : Request} {s s' : σ} {entries : Dict Json}
    (h : registry.run request s = (.ok entries, s')) :
    registry.execute request s = (.data entries, s') := by
  simp only [execute, bind, StateT.bind, h]
  rfl

theorem execute_of_error {request : Request} {s s' : σ} {fault : ExecutionFault}
    (h : registry.run request s = (.error fault, s')) :
    registry.execute request s = (.errors [⟨fault.message, [], [], .internalError⟩], s') := by
  simp only [execute, bind, StateT.bind, h]
  rfl

/-! ### Runs that write down their calls -/

theorem Resolves.logged {s s' : σ} {fields : List Field} {calls : List Call} {values : List Json}
    (h : registry.Resolves type bindings s fields calls values s') (log : List Call) :
    registry.logged.Resolves type bindings (s, log) fields calls values (s', log ++ calls) := by
  induction h generalizing log with
  | nil s =>
      rw [List.append_nil]
      exact .nil _
  | @cons _ _ _ field _ arguments _ _ calls _ found resolved called _ ih =>
      have hrest := ih (log ++ [⟨type, field.name, arguments⟩])
      rw [List.append_assoc, List.singleton_append] at hrest
      exact .cons found.logged resolved (Resolver.logged_apply called log) hrest

theorem Fails.logged {s s' : σ} {field : Field} {fault : ExecutionFault} {calls : List Call}
    (h : registry.Fails type bindings s field fault calls s') (log : List Call) :
    registry.logged.Fails type bindings (s, log) field fault calls (s', log ++ calls) := by
  cases h with
  | unknownField absent =>
      rw [List.append_nil]
      exact .unknownField absent.logged
  | undefinedVariable found unresolved =>
      rw [List.append_nil]
      exact .undefinedVariable found.logged unresolved
  | resolver found resolved called =>
      exact .resolver found.logged resolved (Resolver.logged_apply called log)

end Registry

/-! ### Requests -/

theorem eq_ok_of_toOption {ε α : Type} {result : Except ε α} {value : α}
    (h : result.toOption = some value) : result = .ok value := by
  cases result with
  | error => cases h
  | ok => exact congrArg Except.ok (Option.some.inj h)

/-- A request is turned away, or it selects an operation that is executed. -/
theorem Request.refused_or_selects (request : Request) :
    (∃ fault, request.Refused fault) ∨
      ∃ operation, request.Selects operation ∧ operation.type ≠ .subscription := by
  cases hparse : Operation.parse request.query.toList with
  | error diagnostic => exact .inl ⟨_, .malformed hparse⟩
  | ok operation =>
      by_cases hnamed : ∀ name ∈ request.operationName, name = "" ∨ operation.name = some name
      · by_cases htype : operation.type = .subscription
        · exact .inl ⟨_, .unexpectedSubscription ⟨hparse, hnamed⟩ htype⟩
        · exact .inr ⟨operation, ⟨hparse, hnamed⟩, htype⟩
      · simp only [Classical.not_forall, not_or] at hnamed
        obtain ⟨name, hname, hnonempty, hother⟩ := hnamed
        exact .inl ⟨_, .unknownOperation hparse hname hnonempty hother⟩

theorem Request.Selects.operation_eq {request : Request} {operation : Operation}
    (h : request.Selects operation) : request.operation = .ok operation := by
  obtain ⟨hparse, hnamed⟩ := h
  unfold Request.operation
  rw [hparse]
  cases hname : request.operationName with
  | none => rfl
  | some name => exact if_pos (hnamed name hname)

theorem Request.Refused.not_selects {request : Request} {fault : ExecutionFault}
    (h : request.Refused fault) {operation : Operation} (hselects : request.Selects operation) :
    operation.type = .subscription := by
  cases h with
  | malformed parse =>
      rw [hselects.parse] at parse
      cases parse
  | unknownOperation parse requested nonempty other =>
      rw [hselects.parse, Except.ok.injEq] at parse
      subst parse
      rcases hselects.named _ requested with hempty | hname
      · exact absurd hempty nonempty
      · exact absurd hname other
  | unexpectedSubscription selects type =>
      have hparse := selects.parse
      rw [hselects.parse, Except.ok.injEq] at hparse
      rw [hparse]
      exact type

namespace Registry

variable {registry : Registry σ}

theorem run_of_refused {request : Request} {fault : ExecutionFault} (h : request.Refused fault)
    (s : σ) : registry.run request s = (.error fault, s) := by
  cases h with
  | malformed parse =>
      simp only [run, Request.operation, parse]
      rfl
  | unknownOperation parse requested nonempty other =>
      have hrefused := not_or.2 ⟨nonempty, other⟩
      simp only [run, Request.operation, parse, requested, if_neg hrefused]
      rfl
  | unexpectedSubscription selects type =>
      simp only [run, selects.operation_eq, if_pos type]
      rfl

theorem run_of_selects {request : Request} {operation : Operation}
    (h : request.Selects operation) (htype : operation.type ≠ .subscription) :
    registry.run request =
      registry.resolveFields operation.type (request.bindings.getD []) operation.fields [] := by
  simp only [run, h.operation_eq, if_neg htype, Request.variableValues]

/-- Writing the values of all fields answers the fields. -/
theorem answers_ofList {fields : List Field} {values : List Json}
    (h : values.length = fields.length) :
    AnswersFields fields values (Dict.ofList ((fields.map Field.name).zip values)) := by
  constructor
  · show Dict.names _ = _
    rw [Dict.names_ofList, Dict.names, List.map_fst_zip (by simp [h])]
  · rintro front field back rfl hlast
    have hlength : front.length < values.length := by
      rw [h, List.length_append, List.length_cons]
      omega
    refine ⟨values[front.length], List.getElem?_eq_getElem hlength, ?_⟩
    have hsplit : values =
        values.take front.length ++ values[front.length] :: values.drop (front.length + 1) := by
      rw [List.getElem_cons_drop, List.take_append_drop]
    -- the last entry of a name is the one that is found
    apply Dict.mem_of_find?_eq_some
    conv => lhs; rw [hsplit]
    rw [List.map_append, List.map_cons, List.zip_append (by simp; omega), List.zip_cons_cons]
    apply Dict.find?_ofList_append_cons
    intro hmem
    apply hlast
    rw [Dict.names] at hmem
    obtain ⟨entry, hentry, hname⟩ := List.mem_map.1 hmem
    exact hname ▸ (List.of_mem_zip hentry).1

/-- Every request comes to something. -/
theorem exists_outcome (registry : Registry σ) (request : Request) (s : σ) :
    ∃ response calls s', registry.Outcome request s response calls s' := by
  rcases request.refused_or_selects with ⟨fault, hrefused⟩ | ⟨operation, hselects, htype⟩
  · exact ⟨_, _, _, .refused hrefused⟩
  · rcases fields_cases registry operation.type (request.bindings.getD []) operation.fields s with
      ⟨calls, values, s', hall⟩ |
        ⟨front, field, back, calls, values, s', fault, more, s'', hfields, hfront, hfails⟩
    · exact ⟨_, _, _, .data hselects htype hall (answers_ofList hall.length_eq)⟩
    · exact ⟨_, _, _, .failed hselects htype hfields hfront hfails⟩

/-- What a request comes to is what executing it gives. -/
theorem Outcome.execute_eq {request : Request} {s s' : σ} {response : Response}
    {calls : List Call} (h : registry.Outcome request s response calls s') :
    registry.execute request s = (response, s') := by
  cases h with
  | refused refused => exact execute_of_error (run_of_refused refused s)
  | @data operation _ values entries _ selects type resolves answers =>
      have hentries := answers.unique (answers_ofList resolves.length_eq)
      apply execute_of_ok
      rw [run_of_selects selects type, resolveFields_of_resolves resolves, hentries]
      rfl
  | failed selects type fields resolves fails =>
      apply execute_of_error
      rw [run_of_selects selects type, fields, resolveFields_of_fails resolves fails]

/-- With resolvers that write down their calls, a request comes to the same, and the calls stand in
the log. -/
theorem Outcome.logged {request : Request} {s s' : σ} {response : Response} {calls : List Call}
    (h : registry.Outcome request s response calls s') (log : List Call) :
    registry.logged.Outcome request (s, log) response calls (s', log ++ calls) := by
  cases h with
  | refused refused =>
      rw [List.append_nil]
      exact .refused refused
  | data selects type resolves answers =>
      exact .data selects type (resolves.logged log) answers
  | @failed _ _ _ _ calls more _ _ _ _ selects type fields resolves fails =>
      -- the log of the failing field stands behind those of the fields before it
      have hfails := fails.logged (log ++ calls)
      rw [List.append_assoc] at hfails
      exact .failed selects type fields (resolves.logged log) hfails

/-- A request comes to one thing only. -/
theorem Outcome.unique {request : Request} {s s' s'' : σ} {response response' : Response}
    {calls calls' : List Call} (h : registry.Outcome request s response calls s')
    (h' : registry.Outcome request s response' calls' s'') :
    response = response' ∧ calls = calls' ∧ s' = s'' := by
  have hexecute := (h.logged []).execute_eq
  rw [(h'.logged []).execute_eq] at hexecute
  cases hexecute
  exact ⟨rfl, rfl, rfl⟩

/-- Data and a failing field exclude each other. -/
theorem Outcome.isData_iff {request : Request} {s s' : σ} {response : Response}
    {calls : List Call} (h : registry.Outcome request s response calls s') :
    response.isData = true ↔ ∃ operation calls values s', request.Selects operation ∧
      operation.type ≠ .subscription ∧
      registry.Resolves operation.type (request.bindings.getD []) s operation.fields calls values
        s' := by
  cases h with
  | refused refused =>
      refine ⟨fun h => (Bool.false_ne_true h).elim, ?_⟩
      rintro ⟨operation, _, _, _, hselects, htype, -⟩
      exact absurd (refused.not_selects hselects) htype
  | data selects type resolves => exact ⟨fun _ => ⟨_, _, _, _, selects, type, resolves⟩, fun _ => rfl⟩
  | failed selects type fields resolves fails =>
      refine ⟨fun h => (Bool.false_ne_true h).elim, ?_⟩
      rintro ⟨operation, _, _, _, hselects, -, hresolves⟩
      have hparse := hselects.parse
      rw [selects.parse, Except.ok.injEq] at hparse
      subst hparse
      rw [fields] at hresolves
      exact absurd fails (hresolves.not_fails resolves)

/-- Executing a request resolves the fields of its operation in order and stops at the first that
fails.  The calls that the resolvers write down are those of the fields before it, and its own if it
fails in its resolver; there are data exactly if no field fails. -/
theorem execute_logged (registry : Registry σ) (request : Request) (s : σ) (log : List Call) :
    ∃ response calls s', registry.Outcome request s response calls s' ∧
      registry.execute request s = (response, s') ∧
      registry.logged.execute request (s, log) = (response, (s', log ++ calls)) ∧
      (response.isData = true ↔ ∃ operation calls values s', request.Selects operation ∧
        operation.type ≠ .subscription ∧
        registry.Resolves operation.type (request.bindings.getD []) s operation.fields calls values
          s') := by
  obtain ⟨response, calls, s', houtcome⟩ := registry.exists_outcome request s
  exact ⟨response, calls, s', houtcome, houtcome.execute_eq, (houtcome.logged log).execute_eq,
    houtcome.isData_iff⟩

/-- A field of queries and a field of mutations. -/
def greeting : Registry Unit :=
  ⟨[("hello", fun _ => return .ok (.string "world"))], [("chat", fun _ => return .ok .null)]⟩

/-- A query for both of them. -/
def greetingRequest : Request := ⟨"\x7b hello chat \x7d", none, none⟩

/-- The names of the fields of an operation without a name that selects two fields without
arguments. -/
def bareFields? : Operation → Option (OperationType × String × String)
  | ⟨type, none, [⟨first, []⟩, ⟨second, []⟩]⟩ => some (type, first, second)
  | _ => none

theorem greetingRequest_selects :
    greetingRequest.Selects ⟨.query, none, [⟨"hello", []⟩, ⟨"chat", []⟩]⟩ := by
  refine ⟨?_, by simp [greetingRequest]⟩
  have hparse : (Operation.parse greetingRequest.query.toList).toOption.bind bareFields? =
      some (.query, "hello", "chat") := by decide +kernel
  obtain ⟨operation, hoperation, hfields⟩ := Option.bind_eq_some_iff.1 hparse
  unfold bareFields? at hfields
  split at hfields
  · cases hfields
    exact eq_ok_of_toOption hoperation
  · cases hfields

/-- The field of queries is known and called; the other is unknown, because it is not one of
queries. -/
theorem greeting_outcome :
    greeting.Outcome greetingRequest ()
      (.errors [⟨"Cannot query field \"chat\" on type \"Query\"", [], [], .internalError⟩])
      [⟨.query, "hello", []⟩] () := by
  have htable : greeting.query = [] ++ [("hello", fun _ => return .ok (.string "world"))] := rfl
  have hhello := Knows.query htable List.not_mem_nil
  have hchat : greeting.Lacks .query "chat" := .query (by simp [greeting])
  have hresolves : greeting.Resolves .query [] () [⟨"hello", []⟩] [⟨.query, "hello", []⟩]
      [.string "world"] () := .cons hhello rfl rfl (.nil ())
  exact .failed greetingRequest_selects (by simp) rfl hresolves (.unknownField hchat)

/-- So the first is the only call, and the second is the only error. -/
theorem execute_greeting :
    greeting.logged.execute greetingRequest ((), []) =
      (.errors [⟨"Cannot query field \"chat\" on type \"Query\"", [], [], .internalError⟩],
        ((), [⟨.query, "hello", []⟩])) := by
  obtain ⟨response, calls, s', houtcome, -, hlogged, -⟩ :=
    execute_logged greeting greetingRequest () []
  obtain ⟨rfl, rfl, rfl⟩ := houtcome.unique greeting_outcome
  exact hlogged

end Registry

end CompletionGateway
