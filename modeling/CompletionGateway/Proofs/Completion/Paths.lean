import CompletionGateway.Gateway.Service
import CompletionGateway.Proofs.Execution.Trace

/-!
# Three ways to one completion

What is to be completed comes in as the variable of a mutation, as the body of a request to a
resource, or as the variable of a subscription.  The three ways meet at the provider: they turn the
same inputs away, with the same message and without a call, and for any other input they send the
provider the same body to the same path, but for the member that asks for a stream.

Which calls are made is seen by having the provider write them down.
-/

namespace CompletionGateway

variable {σ : Type}

/-! ### Calls of the provider -/

/-- A call of the provider. -/
inductive Provider.Call where
  | get (path : String)
  | post (path : String) (body : Json)
  | stream (path : String) (body : Json)

/-- The provider, writing down its calls behind those that are written down already. -/
def Provider.logged (provider : Provider σ) : Provider (σ × List Provider.Call) where
  get path := fun (s, log) =>
    let (result, s) := provider.get path s
    (result, s, log ++ [.get path])
  post path body := fun (s, log) =>
    let (result, s) := provider.post path body s
    (result, s, log ++ [.post path body])
  stream path body := fun (s, log) =>
    let (result, s) := provider.stream path body s
    (result, s, log ++ [.stream path body])

namespace Provider

variable {provider : Provider σ} {path : String} {body : Json} {s s' : σ}

theorem logged_post {result : Except ProviderFault Json}
    (h : provider.post path body s = (result, s')) (log : List Provider.Call) :
    provider.logged.post path body (s, log) = (result, s', log ++ [.post path body]) := by
  simp only [logged, h]

theorem logged_stream {result : Except ProviderFault (List Arrival)}
    (h : provider.stream path body s = (result, s')) (log : List Provider.Call) :
    provider.logged.stream path body (s, log) = (result, s', log ++ [.stream path body]) := by
  simp only [logged, h]

end Provider

/-! ### The three ways -/

namespace CompletionKind

/-- The field of mutations. -/
def mutationField : CompletionKind → String
  | chat => "chat"
  | text => "completion"

/-- The field of subscriptions. -/
def subscriptionField : CompletionKind → String
  | chat => "chatStream"
  | text => "completionStream"

/-- The path of the resource that inputs are posted to. -/
def resource : CompletionKind → String
  | chat => "/api/chat"
  | text => "/api/completions"

/-- The document of a mutation that hands on a variable. -/
def mutationDocument : CompletionKind → String
  | chat => "mutation \x7b chat(input: $input) \x7d"
  | text => "mutation \x7b completion(input: $input) \x7d"

/-- The document of a subscription that hands on a variable. -/
def subscriptionDocument : CompletionKind → String
  | chat => "subscription \x7b chatStream(input: $input) \x7d"
  | text => "subscription \x7b completionStream(input: $input) \x7d"

/-- The mutation that hands on an input. -/
def mutation (kind : CompletionKind) (input : Json.Object) : Request :=
  ⟨kind.mutationDocument, some [("input", .object input)], none⟩

/-- The subscription that hands on an input. -/
def subscription (kind : CompletionKind) (input : Json.Object) : Request :=
  ⟨kind.subscriptionDocument, some [("input", .object input)], none⟩

/-- The request posts the input to the resource. -/
structure Posts (kind : CompletionKind) (input : Json.Object) (request : Http.Request) : Prop where
  method : request.method = "POST"
  path : request.path = kind.resource
  body : Gateway.readBody Gateway.readObject? request = .ok input

/-- There is something to complete: a list of messages, or a prompt that is not empty. -/
inductive Completes (input : Json.Object) : CompletionKind → Prop
  | chat {messages : List Json} (found : Dict.find? input "messages" = some (.array messages)) :
      Completes input .chat
  | text {prompt : Json} (found : Dict.find? input "prompt" = some prompt)
      (notNull : prompt ≠ .null) (notEmpty : prompt ≠ .string "") : Completes input .text

end CompletionKind

/-- Bodies that differ in the value of one member at most: whether the answer is to be a stream. -/
def DifferInStream (body : Bool → Json) : Prop :=
  ∃ before after : Json.Object, "stream" ∉ Dict.names (before ++ after) ∧
    ∀ stream, body stream = .object (before ++ ("stream", .bool stream) :: after)

/-- The response of an operation with one field. -/
def Response.ofField (name : String) : Except ResolverFault Json → Response
  | .ok value => .data [(name, value)]
  | .error fault => .error fault.message .internalError

/-- The events that pass on what the provider answers to a streaming call. -/
def EventStream.answering (refusal : List Char → String) :
    Except ProviderFault (List Arrival) → List EventStream.Event
  | .ok arrivals => relay refusal arrivals
  | .error fault => [failureOf fault]

section

variable (refusals : Gateway.Refusals) (provider : Provider σ) (kind : CompletionKind)
  (input : Json.Object)

/-- All ways turn the input away with this message, and the provider is not called. -/
structure TurnedAway (message : String) : Prop where
  executed : ∀ s log, (Gateway.registry provider.logged).execute (kind.mutation input) (s, log) =
    (.error message .internalError, s, log)
  posted : ∀ request, kind.Posts input request → ∀ s log,
    Gateway.answer refusals true provider.logged request (s, log) =
      ((Gateway.answerBadRequest message).sharedWith request, s, log)
  prepared : Subscription.ofRequest (kind.subscription input) =
    .error (.resolver kind.subscriptionField (.badInput message))
  subscribed : ∀ s log,
    EventStream.subscribe refusals.frame provider.logged (kind.subscription input) (s, log) =
      ([.failure message .internalError], s, log)

/-- All ways call the provider once, at the same path, and pass on what it answers. -/
structure SentOn (body : Bool → Json) : Prop where
  executed : ∀ {s s' result}, provider.post kind.path (body false) s = (result, s') → ∀ log,
    (Gateway.registry provider.logged).execute (kind.mutation input) (s, log) =
      (.ofField kind.mutationField (result.mapError (·.toResolverFault)),
        s', log ++ [.post kind.path (body false)])
  posted : ∀ request, kind.Posts input request →
    ∀ {s s' result}, provider.post kind.path (body false) s = (result, s') → ∀ log,
      Gateway.answer refusals true provider.logged request (s, log) =
        ((Gateway.passOn result).sharedWith request, s', log ++ [.post kind.path (body false)])
  prepared : Subscription.ofRequest (kind.subscription input) =
    .ok ⟨kind.subscriptionField, kind, body true⟩
  subscribed : ∀ {s s' result}, provider.stream kind.path (body true) s = (result, s') → ∀ log,
    EventStream.subscribe refusals.frame provider.logged (kind.subscription input) (s, log) =
      (EventStream.answering refusals.frame result, s',
        log ++ [.stream kind.path (body true)])

end

/-! ### Bodies -/

namespace Completion

theorem nodup_names_overlay {body : Json.Object} (h : (Dict.names body).Nodup)
    (member : String × Json) : (Dict.names (overlay body member)).Nodup := by
  unfold overlay
  split
  · exact h
  · exact Dict.nodup_names_insert h _ _

/-- No name repeats in a body, whatever is laid over the defaults. -/
theorem nodup_names_foldl_overlay (kind : CompletionKind) (input : Json.Object) :
    (Dict.names (input.foldl overlay (defaults kind))).Nodup := by
  have hdefaults : (Dict.names (defaults kind)).Nodup := by
    simp [Dict.names, defaults]
  generalize defaults kind = body at hdefaults
  induction input generalizing body with
  | nil => exact hdefaults
  | cons member rest ih => exact ih _ (nodup_names_overlay hdefaults member)

/-- An input that can be completed has a body for each way to answer. -/
theorem exists_requestBody {kind : CompletionKind} {input : Json.Object}
    (h : kind.missingInput? input = none) : ∃ body : Bool → Json,
      DifferInStream body ∧ ∀ stream, requestBody kind input stream = .ok (body stream) := by
  obtain ⟨before, after, hname, hinsert⟩ :=
    Dict.exists_insert_eq (nodup_names_foldl_overlay kind input) "stream"
  refine ⟨fun stream => .object (before ++ ("stream", .bool stream) :: after),
    ⟨before, after, hname, fun _ => rfl⟩, fun stream => ?_⟩
  simp only [requestBody, h, hinsert]

theorem requestBody_of_missing {kind : CompletionKind} {input : Json.Object} {fault : ResolverFault}
    (h : kind.missingInput? input = some fault) (stream : Bool) :
    requestBody kind input stream = .error fault := by
  simp only [requestBody, h]

/-- The members of an only argument are all that goes into the body. -/
theorem requestBody_inputOf (kind : CompletionKind) (input : Json.Object) (stream : Bool) :
    (inputOf [(inputName, .object input)] >>= (requestBody kind · stream)) =
      requestBody kind input stream := rfl

end Completion

namespace CompletionKind

/-- Nothing is missing just if there is something to complete; else a message says what is. -/
theorem missingInput?_cases (kind : CompletionKind) (input : Json.Object) :
    (kind.Completes input ∧ kind.missingInput? input = none) ∨
      ¬ kind.Completes input ∧ ∃ message, kind.missingInput? input = some (.badInput message) := by
  cases kind with
  | chat =>
      simp only [missingInput?]
      split
      · next messages found => exact .inl ⟨.chat found, rfl⟩
      · next hother =>
          refine .inr ⟨?_, _, rfl⟩
          rintro ⟨found⟩
          exact hother _ found
  | text =>
      simp only [missingInput?]
      split
      case h_4 prompt hnull hempty found =>
        exact .inl ⟨.text found hnull hempty, rfl⟩
      all_goals
        next missing =>
          refine .inr ⟨?_, _, rfl⟩
          rintro ⟨found, notNull, notEmpty⟩
          simp_all
end CompletionKind

/-! ### The documents -/

/-- The type of an operation that hands one variable to one field, with the names of the field, its
argument and the variable. -/
def Operation.handed? : Operation → Option (OperationType × String × String × String)
  | ⟨type, none, [⟨field, [(argument, .variable name)]⟩]⟩ => some (type, field, argument, name)
  | _ => none

theorem Operation.parse_of_handed? {source : List Char} {type : OperationType}
    {field argument name : String}
    (h : (parse source).toOption.bind handed? = some (type, field, argument, name)) :
    parse source = .ok ⟨type, none, [⟨field, [(argument, .variable name)]⟩]⟩ := by
  obtain ⟨operation, hparse, hhanded⟩ := Option.bind_eq_some_iff.1 h
  unfold handed? at hhanded
  split at hhanded
  · simp only [Option.some.injEq, Prod.mk.injEq] at hhanded
    obtain ⟨rfl, rfl, rfl, rfl⟩ := hhanded
    exact eq_ok_of_toOption hparse
  · cases hhanded

namespace CompletionKind

/-- The arguments that hand on the variable. -/
def handing : Arguments := [(Completion.inputName, .variable Completion.inputName)]

theorem parse_mutationDocument (kind : CompletionKind) :
    Operation.parse kind.mutationDocument.toList =
      .ok ⟨.mutation, none, [⟨kind.mutationField, handing⟩]⟩ := by
  cases kind <;> exact Operation.parse_of_handed? (by decide +kernel)

theorem parse_subscriptionDocument (kind : CompletionKind) :
    Operation.parse kind.subscriptionDocument.toList =
      .ok ⟨.subscription, none, [⟨kind.subscriptionField, handing⟩]⟩ := by
  cases kind <;> exact Operation.parse_of_handed? (by decide +kernel)

/-- Resolved, the arguments give the input. -/
theorem resolve_handing (input : Json.Object) :
    handing.resolve [("input", .object input)] = .ok [(Completion.inputName, .object input)] := rfl

/-- What becomes of the mutation is what becomes of its field. -/
theorem execute_mutation {provider : Provider σ} {kind : CompletionKind} {input : Json.Object}
    {s s' : σ} {result : Except ResolverFault Json}
    (h : Gateway.completionResolver provider kind [(Completion.inputName, .object input)] s =
      (result, s')) :
    (Gateway.registry provider).execute (kind.mutation input) s =
      (.ofField kind.mutationField result, s') := by
  have hknown : (Gateway.registry provider).Knows .mutation kind.mutationField
      (Gateway.completionResolver provider kind) :=
    Registry.find?_eq_some_iff_knows.1 (by cases kind <;> rfl)
  have hselects : (kind.mutation input).Selects
      ⟨.mutation, none, [⟨kind.mutationField, handing⟩]⟩ :=
    ⟨kind.parse_mutationDocument, fun name hname => by cases hname⟩
  have hrun : (Gateway.registry provider).run (kind.mutation input) = _ :=
    Registry.run_of_selects hselects (by simp)
  cases result with
  | ok value =>
      have hresolves : (Gateway.registry provider).Resolves .mutation
          (kind.mutation input).variableValues s [⟨kind.mutationField, handing⟩] _ [value] s' :=
        .cons hknown (resolve_handing input) h (.nil s')
      exact Registry.execute_of_ok (hrun ▸ Registry.resolveFields_of_resolves hresolves [])
  | error fault =>
      have hfails : (Gateway.registry provider).Fails .mutation
          (kind.mutation input).variableValues s ⟨kind.mutationField, handing⟩
          (.resolver kind.mutationField fault) _ s' :=
        .resolver hknown (resolve_handing input) h
      exact Registry.execute_of_error (hrun ▸ Registry.resolveFields_of_fails (.nil s) hfails [] [])

/-- The subscription gets the body of the input. -/
theorem ofRequest_subscription (kind : CompletionKind) (input : Json.Object) :
    Subscription.ofRequest (kind.subscription input) =
      ((Completion.requestBody kind input true).mapError
        (.resolver kind.subscriptionField)).map (⟨kind.subscriptionField, kind, ·⟩) := by
  have hselects : (kind.subscription input).Selects
      ⟨.subscription, none, [⟨kind.subscriptionField, handing⟩]⟩ :=
    ⟨kind.parse_subscriptionDocument, fun name hname => by cases hname⟩
  have hkind : Subscription.kindOf? kind.subscriptionField = some kind := by
    cases kind <;> rfl
  have hvariables : (kind.subscription input).variableValues = [("input", .object input)] := rfl
  simp only [Subscription.ofRequest, hselects.operation_eq, ne_eq, not_true_eq_false, if_false,
    Subscription.ofField, hkind, hvariables, resolve_handing, Completion.requestBody_inputOf]
  cases Completion.requestBody kind input true <;> rfl

theorem ofRequest_of_requestBody {kind : CompletionKind} {input : Json.Object} {body : Json}
    (h : Completion.requestBody kind input true = .ok body) :
    Subscription.ofRequest (kind.subscription input) =
      .ok ⟨kind.subscriptionField, kind, body⟩ := by
  rw [ofRequest_subscription, h]
  rfl

/-- A gateway with a key handles what is posted to the resource. -/
theorem answer_of_posts {kind : CompletionKind} {input : Json.Object} {request : Http.Request}
    (h : kind.Posts input request) {refusals : Gateway.Refusals} {provider : Provider σ} {s s' : σ}
    {answer : Http.Answer}
    (hanswer : Gateway.answerCompletion refusals provider kind request s = (answer, s')) :
    Gateway.answer refusals true provider request s = (answer.sharedWith request, s') := by
  have hasked : request.askedMethod? = none := by
    simp [Http.Request.askedMethod?, h.method]
  have hroute : Gateway.Route.of? request.method request.path = some (.complete kind) := by
    rw [h.method, h.path]
    cases kind <;> rfl
  simp only [Gateway.answer, hasked, hroute, Gateway.Route.answer, Bool.not_true,
    Bool.false_eq_true, if_false, bind, StateT.bind, hanswer]
  rfl

end CompletionKind

/-! ### The ways agree -/

section

variable {refusals : Gateway.Refusals} {provider : Provider σ} {kind : CompletionKind}
  {input : Json.Object}

/-- An input without what has to be completed is turned away on all ways. -/
theorem turnedAway_of_missing {message : String}
    (h : kind.missingInput? input = some (.badInput message)) :
    TurnedAway refusals provider kind input message where
  executed s log := by
    have hresolver : Gateway.completionResolver provider.logged kind
        [(Completion.inputName, .object input)] (s, log) =
          (.error (.badInput message), s, log) := by
      simp only [Gateway.completionResolver, Completion.requestBody_inputOf,
        Completion.requestBody_of_missing h]
      rfl
    exact CompletionKind.execute_mutation hresolver
  posted request hposts s log := by
    refine CompletionKind.answer_of_posts hposts ?_
    simp only [Gateway.answerCompletion, hposts.body, Completion.requestBody_of_missing h]
    rfl
  prepared := by
    rw [CompletionKind.ofRequest_subscription, Completion.requestBody_of_missing h]
    rfl
  subscribed s log := by
    simp only [EventStream.subscribe, CompletionKind.ofRequest_subscription,
      Completion.requestBody_of_missing h]
    rfl

/-- An input that has bodies is sent on with them on all ways. -/
theorem sentOn_of_requestBody {body : Bool → Json}
    (h : ∀ stream, Completion.requestBody kind input stream = .ok (body stream)) :
    SentOn refusals provider kind input body where
  executed hpost log := by
    refine CompletionKind.execute_mutation ?_
    simp only [Gateway.completionResolver, Completion.requestBody_inputOf, h]
    simp only [bind, StateT.bind, Provider.logged_post hpost]
    rfl
  posted request hposts := fun hpost log => by
    refine CompletionKind.answer_of_posts hposts ?_
    simp only [Gateway.answerCompletion, hposts.body, h, bind, StateT.bind,
      Provider.logged_post hpost]
    rfl
  prepared := CompletionKind.ofRequest_of_requestBody (h true)
  subscribed {s s' result} hstream log := by
    simp only [EventStream.subscribe, CompletionKind.ofRequest_of_requestBody (h true), bind,
      StateT.bind, Provider.logged_stream hstream]
    cases result <;> rfl

end

/-- The three ways agree: an input with something to complete is sent on by all of them, with bodies
that differ in nothing but the member for streams, and any other input is turned away by all of
them. -/
theorem completion_paths_agree (refusals : Gateway.Refusals) (provider : Provider σ)
    (kind : CompletionKind) (input : Json.Object) :
    (kind.Completes input ∧
        ∃ body, DifferInStream body ∧ SentOn refusals provider kind input body) ∨
      ¬ kind.Completes input ∧ ∃ message, TurnedAway refusals provider kind input message := by
  rcases kind.missingInput?_cases input with
    ⟨hcompletes, hmissing⟩ | ⟨hincomplete, message, hmissing⟩
  · obtain ⟨body, hdiffer, hbody⟩ := Completion.exists_requestBody hmissing
    exact .inl ⟨hcompletes, body, hdiffer, sentOn_of_requestBody hbody⟩
  · exact .inr ⟨hincomplete, message, turnedAway_of_missing hmissing⟩

/-- A request that posts an empty list of messages. -/
def emptyChat : Http.Request where
  method := "POST"
  target := "/api/chat"
  headers := [("content-type", "application/json")]
  body := "\x7b\"messages\":[]\x7d".toList.map fun c => UInt8.ofNat c.toNat

/-- The provider answers everything with `null`, and keeps no state. -/
def nullProvider : Provider Unit :=
  ⟨fun _ => return .ok .null, fun _ _ => return .ok .null, fun _ _ => return .ok []⟩

/-- Whatever is refused, the same is said of it. -/
def expectedValue : Gateway.Refusals :=
  ⟨fun _ => "expected value at line 1 column 1", fun _ => "expected value at line 1 column 1",
    fun _ => "expected value at line 1 column 1"⟩

/-- Whether the value is an array without items. -/
def Json.isEmptyArray : Json → Bool
  | array items => items.isEmpty
  | object _ | string _ | number _ | bool _ | null => false

theorem Json.eq_of_isEmptyArray {value : Json} (h : value.isEmptyArray = true) :
    value = .array [] := by
  cases value with
  | array items => exact congrArg Json.array (List.isEmpty_iff.1 h)
  | _ => cases h

theorem posts_emptyChat : CompletionKind.chat.Posts [("messages", .array [])] emptyChat where
  method := rfl
  path := by decide +kernel
  body := by
    have hread : (Gateway.readBody Gateway.readObject? emptyChat).toOption.map
        (·.map fun member => (member.1, member.2.isEmptyArray)) = some [("messages", true)] := by
      decide +kernel
    obtain ⟨members, hmembers, hlist⟩ := Option.map_eq_some_iff.1 hread
    obtain ⟨⟨name, value⟩, rfl, hmember⟩ := List.map_eq_singleton_iff.1 hlist
    obtain ⟨rfl, hempty⟩ := Prod.mk.inj hmember
    obtain rfl := Json.eq_of_isEmptyArray hempty
    exact eq_ok_of_toOption hmembers

/-- Posted, an empty list of messages reaches the provider. -/
theorem paths_agree_emptyChat :
    CompletionKind.chat.Posts [("messages", .array [])] emptyChat ∧
      ∃ body, DifferInStream body ∧
        Gateway.answer expectedValue true nullProvider.logged emptyChat ((), []) =
          ((Gateway.passOn (.ok .null)).sharedWith emptyChat, (),
            [.post "/chat/completions" (body false)]) := by
  refine ⟨posts_emptyChat, ?_⟩
  rcases completion_paths_agree expectedValue nullProvider .chat [("messages", .array [])] with
    ⟨-, body, hdiffer, hsent⟩ | ⟨hincomplete, -⟩
  · exact ⟨body, hdiffer, hsent.posted emptyChat posts_emptyChat rfl []⟩
  · exact absurd (.chat rfl) hincomplete

end CompletionGateway
