import CompletionGateway.Token.Buffer

/-!
# Looking ahead changes nothing

The tokens that a buffer can still hand out are those that wait in it and, behind them, those that
its source still has.  Filling the buffer moves tokens from the second part to the first, so each
request gets the answer that the plain stream of these tokens gives, and leaves what that stream
leaves.  A stream drops one token with each request that takes one and none otherwise.  By induction
on the requests an answer is told by a place in the list of tokens: the number of tokens taken
before, and for a look ahead its distance on top.
-/

namespace CompletionGateway

namespace TokenStream

/-! ### Answers by place -/

/-- The answer to a request if `taken` of the tokens have been taken. -/
def answerAt (tokens : List Token) (taken : Nat) : Request → Answer
  | .peek ahead => .token tokens[taken + ahead]?
  | .atEnd => .flag (tokens[taken]?.all (·.kind == .finish))
  | .take => .token tokens[taken]?

/-- The tokens among the answers to requests that take one, in the order of the answers. -/
def handed (requests : List Request) (answers : List Answer) : List Token :=
  (requests.zip answers).filterMap fun
    | (.take, .token token) => token
    | _ => none

theorem answer_fst (stream : TokenStream) (request : Request) :
    (stream.answer request).1 = answerAt stream.unread 0 request := by
  cases request with
  | peek ahead => simp [answer, answerAt, peek]
  | atEnd =>
      cases hnext : stream.unread[0]? with
      | none => simp [answer, answerAt, atEnd, peek, hnext]
      | some token => simp [answer, answerAt, atEnd, peek, hnext]
  | take =>
      cases hunread : stream.unread with
      | nil => simp [answer, answerAt, take, hunread]
      | cons token rest => simp [answer, answerAt, take, hunread]

theorem answerAt_drop (tokens : List Token) (taken : Nat) (request : Request) :
    answerAt (tokens.drop taken) 0 request = answerAt tokens taken request := by
  cases request <;> simp [answerAt]

/-- A request that takes a token drops it, all others leave the stream as it is. -/
theorem unread_answer (stream : TokenStream) (request : Request) :
    (stream.answer request).2.unread = stream.unread.drop ([request].count .take) := by
  cases request with
  | peek ahead => rfl
  | atEnd => rfl
  | take => cases hunread : stream.unread <;> simp [answer, take, hunread]

theorem length_answers (stream : TokenStream) (requests : List Request) :
    (stream.answers requests).length = requests.length := by
  induction requests generalizing stream with
  | nil => rfl
  | cons request rest ih => simp [answers, ih]

theorem answers_cons (stream : TokenStream) (request : Request) (rest : List Request) :
    stream.answers (request :: rest) = answerAt stream.unread 0 request ::
      (mk (stream.unread.drop ([request].count .take))).answers rest := by
  rw [← unread_answer, ← answer_fst]
  rfl

theorem count_take_cons (request : Request) (rest : List Request) :
    (request :: rest).count .take = [request].count .take + rest.count .take := by
  rw [← List.count_append, List.singleton_append]

theorem answers_append (stream : TokenStream) (before after : List Request) :
    stream.answers (before ++ after) = stream.answers before ++
      (mk (stream.unread.drop (before.count .take))).answers after := by
  induction before generalizing stream with
  | nil => rfl
  | cons request before ih =>
      rw [List.cons_append, answers_cons, answers_cons, ih, List.drop_drop,
        count_take_cons request before, List.cons_append]

/-- The tokens handed out are the first ones, as many as were asked for. -/
theorem handed_answers (stream : TokenStream) (requests : List Request) :
    handed requests (stream.answers requests) =
      stream.unread.take (requests.count .take) := by
  induction requests generalizing stream with
  | nil => simp [handed]
  | cons request rest ih =>
      specialize ih (mk (stream.unread.drop ([request].count .take)))
      rw [answers_cons]
      cases request with
      | peek ahead => simpa [handed, answerAt] using ih
      | atEnd => simpa [handed, answerAt] using ih
      | take =>
          cases hunread : stream.unread with
          | nil => simpa [handed, answerAt, hunread] using ih
          | cons token unread => simpa [handed, answerAt, hunread] using ih

/-- The answer to a request that stands behind others. -/
theorem getElem?_answers (tokens : List Token) (before after : List Request) (request : Request) :
    ((mk tokens).answers (before ++ request :: after))[before.length]? =
      some (answerAt tokens (before.count .take) request) := by
  rw [answers_append, answers_cons, answerAt_drop,
    List.getElem?_append_right (Nat.le_of_eq (length_answers _ _)), length_answers, Nat.sub_self]
  rfl

/-- A request that takes nothing has no influence on the answers to others. -/
theorem eraseIdx_answers {request : Request} (h : request ≠ .take) (tokens : List Token)
    (before after : List Request) :
    ((mk tokens).answers (before ++ request :: after)).eraseIdx before.length =
      (mk tokens).answers (before ++ after) := by
  have hcount : [request].count .take = 0 := List.count_eq_zero.2 (by simpa using h.symm)
  rw [answers_append, answers_append, answers_cons, hcount, List.drop_zero,
    List.eraseIdx_append_of_length_le (Nat.le_of_eq (length_answers _ _)), length_answers,
    Nat.sub_self]
  rfl

end TokenStream

namespace TokenBuffer

variable {σ : Type} [Std.Stream σ Token] {source : σ} {buffer : TokenBuffer σ}
  {tokens : List Token}

/-! ### What a source has and a buffer holds -/

/-- A source hands out these tokens and is exhausted then. -/
inductive Supplies : σ → List Token → Prop where
  | exhausted {source : σ} (h : Std.Stream.next? source = none) : Supplies source []
  | next {source rest : σ} {token : Token} {tokens : List Token}
      (h : Std.Stream.next? source = some (token, rest)) (hrest : Supplies rest tokens) :
      Supplies source (token :: tokens)

/-- A list of tokens is a source of its own elements, and of nothing else. -/
theorem supplies_iff {list : List Token} : Supplies list tokens ↔ tokens = list := by
  constructor
  · intro h
    induction h with
    | @exhausted list h =>
        cases list with
        | nil => rfl
        | cons token list => cases h
    | @next list rest token tokens h hrest ih =>
        cases list with
        | nil => cases h
        | cons first list =>
            cases h
            rw [ih]
  · rintro rfl
    induction tokens with
    | nil => exact .exhausted rfl
    | cons token tokens ih => exact .next rfl ih

/-- What can still be taken: the tokens that wait and, behind them, those of the source. -/
def Holds (buffer : TokenBuffer σ) (tokens : List Token) : Prop :=
  ∃ rest, Supplies buffer.source rest ∧ tokens = buffer.waiting ++ rest

/-- What is read from the source stands behind what waits already, so nothing is lost on the way. -/
theorem Holds.fetch (h : buffer.Holds tokens) (missing : Nat) :
    (buffer.fetch missing).Holds tokens ∧
      (buffer.fetch missing).waiting = tokens.take (buffer.waiting.length + missing) := by
  induction missing generalizing buffer with
  | zero =>
      refine ⟨h, ?_⟩
      obtain ⟨rest, -, rfl⟩ := h
      simp [TokenBuffer.fetch]
  | succ missing ih =>
      obtain ⟨rest, hrest, htokens⟩ := h
      cases hrest with
      | exhausted hnext =>
          simp only [TokenBuffer.fetch, hnext]
          refine ⟨⟨[], .exhausted hnext, htokens⟩, ?_⟩
          rw [htokens, List.append_nil, List.take_of_length_le (Nat.le_add_right _ _)]
      | @next _ source token rest hnext hrest =>
          simp only [TokenBuffer.fetch, hnext]
          have hmoved : Holds ⟨buffer.waiting ++ [token], source⟩ tokens :=
            ⟨rest, hrest, by simp [htokens]⟩
          obtain ⟨hholds, hwaiting⟩ := ih hmoved
          refine ⟨hholds, ?_⟩
          rw [hwaiting, List.length_append, List.length_singleton, Nat.add_assoc,
            Nat.add_comm 1]

/-- At least `count` tokens wait after filling, as far as there are so many. -/
theorem Holds.fill (h : buffer.Holds tokens) (count : Nat) :
    (buffer.fill count).Holds tokens ∧
      (buffer.fill count).waiting = tokens.take (max buffer.waiting.length count) := by
  obtain ⟨hholds, hwaiting⟩ := h.fetch (count - buffer.waiting.length)
  refine ⟨hholds, ?_⟩
  rw [TokenBuffer.fill, hwaiting]
  congr 1
  omega

/-! ### Requests -/

/-- A buffer looks ahead as the stream of its tokens does, and still holds all of them. -/
theorem Holds.peek (h : buffer.Holds tokens) (ahead : Nat) :
    (buffer.peek ahead).1 = tokens[ahead]? ∧ (buffer.peek ahead).2.Holds tokens := by
  obtain ⟨hholds, hwaiting⟩ := h.fill (ahead + 1)
  refine ⟨?_, hholds⟩
  rw [TokenBuffer.peek, hwaiting, List.getElem?_take_of_lt]
  omega

theorem Holds.atEnd (h : buffer.Holds tokens) :
    buffer.atEnd.1 = tokens[0]?.all (·.kind == .finish) ∧ buffer.atEnd.2.Holds tokens := by
  obtain ⟨hnext, hholds⟩ := h.peek 0
  rw [TokenBuffer.atEnd, ← hnext]
  split
  · rename_i filled hpeek
    rw [hpeek] at hholds ⊢
    exact ⟨rfl, hholds⟩
  · rename_i token filled hpeek
    rw [hpeek] at hholds ⊢
    exact ⟨rfl, hholds⟩

/-- A token that is taken was the first one, and the others are left. -/
theorem Holds.take (h : buffer.Holds tokens) :
    buffer.take.1 = tokens[0]? ∧ buffer.take.2.Holds (tokens.drop 1) := by
  obtain ⟨⟨rest, hrest, htokens⟩, hwaiting⟩ := h.fill 1
  rw [TokenBuffer.take]
  split
  · rename_i hnone
    -- the buffer was filled, so nothing waits only where nothing is left
    have hnil : tokens = [] := by
      have hcount : max buffer.waiting.length 1 ≠ 0 := by omega
      rw [hnone, eq_comm, List.take_eq_nil_iff] at hwaiting
      exact hwaiting.resolve_left hcount
    subst hnil
    exact ⟨rfl, rest, hrest, htokens⟩
  · rename_i token waiting hsome
    rw [htokens, hsome]
    exact ⟨rfl, rest, hrest, rfl⟩

/-- A buffer answers each request as the stream of its tokens does and holds what that leaves. -/
theorem Holds.answer (h : buffer.Holds tokens) (request : TokenStream.Request) :
    (buffer.answer request).1 = ((TokenStream.mk tokens).answer request).1 ∧
      (buffer.answer request).2.Holds ((TokenStream.mk tokens).answer request).2.unread := by
  rw [TokenStream.answer_fst, TokenStream.unread_answer]
  cases request with
  | peek ahead =>
      obtain ⟨htoken, hholds⟩ := h.peek ahead
      exact ⟨by simp [TokenBuffer.answer, TokenStream.answerAt, htoken], hholds⟩
  | atEnd =>
      obtain ⟨hflag, hholds⟩ := h.atEnd
      exact ⟨by simp [TokenBuffer.answer, TokenStream.answerAt, hflag], hholds⟩
  | take =>
      obtain ⟨htoken, hholds⟩ := h.take
      exact ⟨by simp [TokenBuffer.answer, TokenStream.answerAt, htoken], hholds⟩

/-- Over a whole run a buffer answers as the stream of its tokens does, and what it holds in the end
are the tokens behind those that were taken. -/
theorem Holds.run (h : buffer.Holds tokens) (requests : List TokenStream.Request) :
    (buffer.run requests).1 = (TokenStream.mk tokens).answers requests ∧
      (buffer.run requests).2.Holds (tokens.drop (requests.count .take)) := by
  induction requests generalizing buffer tokens with
  | nil => exact ⟨rfl, h⟩
  | cons request rest ih =>
      obtain ⟨hfirst, hholds⟩ := h.answer request
      obtain ⟨hrest, hend⟩ := ih hholds
      rw [TokenStream.unread_answer, List.drop_drop, ← TokenStream.count_take_cons] at hend
      refine ⟨?_, hend⟩
      show (buffer.answer request).1 :: ((buffer.answer request).2.run rest).1 = _
      rw [hfirst, hrest]
      rfl

theorem Supplies.holds_ofSource (h : Supplies source tokens) : (ofSource source).Holds tokens :=
  ⟨tokens, h, rfl⟩

/-- Looking ahead shows in no later answer, at any distance and also past the last token.  Each
request is answered by its place in the list of tokens: taking gives the first token that has not
been taken, looking ahead the one that stands so much further, and the end is there where no token
is left or the end of the text comes next.  Without a request that takes nothing all other answers
are the same.  The tokens taken so far, those that wait and those of the source are at each time the
tokens of the list, each of them once and in their order. -/
theorem lookahead_transparent (tokens : List Token) (before after : List TokenStream.Request) :
    (∀ request, ((ofSource tokens).run (before ++ request :: after)).1[before.length]? =
      some (TokenStream.answerAt tokens (before.count .take) request)) ∧
    (∀ request, request ≠ .take →
      ((ofSource tokens).run (before ++ request :: after)).1.eraseIdx before.length =
        ((ofSource tokens).run (before ++ after)).1) ∧
    TokenStream.handed before ((ofSource tokens).run before).1 ++
      ((ofSource tokens).run before).2.waiting ++
      ((ofSource tokens).run before).2.source = tokens := by
  have hstart : (ofSource tokens).Holds tokens := (supplies_iff.2 rfl).holds_ofSource
  refine ⟨fun request => ?_, fun request hrequest => ?_, ?_⟩
  · rw [(hstart.run _).1]
    exact TokenStream.getElem?_answers tokens before after request
  · rw [(hstart.run _).1, (hstart.run _).1]
    exact TokenStream.eraseIdx_answers hrequest tokens before after
  · obtain ⟨hanswers, rest, hsupplies, hleft⟩ := hstart.run before
    obtain rfl := supplies_iff.1 hsupplies
    rw [hanswers, TokenStream.handed_answers, List.append_assoc, ← hleft]
    exact List.take_append_drop _ _

/-- A name, an end of the text that is not the last token, and another name. -/
def endInside : List Token :=
  [⟨.name "a", .emptyAt .origin⟩, ⟨.finish, .emptyAt .origin⟩, ⟨.name "b", .emptyAt .origin⟩]

/-- Behind the first token a look past the last one finds nothing, and the requests after it are
answered as without it. -/
theorem lookahead_transparent_pastEnd :
    TokenStream.Request.peek 9 ≠ .take ∧
      ((ofSource endInside).run [.peek 5, .take, .peek 9, .atEnd, .take, .take, .take]).1[2]? =
        some (.token none) ∧
      ((ofSource endInside).run
        [.peek 5, .take, .peek 9, .atEnd, .take, .take, .take]).1.eraseIdx 2 =
        ((ofSource endInside).run [.peek 5, .take, .atEnd, .take, .take, .take]).1 := by
  have hlook : TokenStream.Request.peek 9 ≠ .take := by decide
  obtain ⟨hplace, herase, -⟩ :=
    lookahead_transparent endInside [.peek 5, .take] [.atEnd, .take, .take, .take]
  exact ⟨hlook, hplace (.peek 9), herase (.peek 9) hlook⟩

end TokenBuffer

end CompletionGateway
