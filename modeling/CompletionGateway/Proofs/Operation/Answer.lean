import CompletionGateway.Proofs.Operation.Step

/-!
# What a rule answers

A rule reads a value if it yields the value, leaves the tokens behind it, and changes nothing else
of the state.  A rule answers for a value of some depth if it reads the value when it fits under the
limit and fails for its depth when it does not.  Both properties pass through sequences, groups and
literals; a literal around a value that is too deep is not emptied.
-/

namespace CompletionGateway

namespace Reading

/-- Two states that differ at most in what has been read and in what has happened. -/
structure Agrees (s s' : Reading) : Prop where
  opened : s'.opened = s.opened
  depth : s'.depth = s.depth
  errors : s'.errors = s.errors
  source : s'.source = s.source

theorem Agrees.refl (s : Reading) : s.Agrees s := ⟨rfl, rfl, rfl, rfl⟩

theorem Agrees.trans {s s' s'' : Reading} (h : s.Agrees s') (h' : s'.Agrees s'') :
    s.Agrees s'' :=
  ⟨h'.opened.trans h.opened, h'.depth.trans h.depth, h'.errors.trans h.errors,
    h'.source.trans h.source⟩

theorem agrees_advance (s : Reading) : s.Agrees s.advance := by
  unfold advance
  split <;> exact ⟨rfl, rfl, rfl, rfl⟩

/-- Closing the innermost group changes the same things before and behind a token. -/
theorem agrees_pop_advance (s : Reading) : s.pop.Agrees s.advance.pop := by
  have hagrees := s.agrees_advance
  exact ⟨by rw [pop, hagrees.opened]; rfl, hagrees.depth, hagrees.errors, hagrees.source⟩

theorem unread_advance {s : Reading} {token : Token} {rest : List Token}
    (h : s.unread = token :: rest) : s.advance.unread = rest := by
  rw [advance_of_unread h]

end Reading

namespace Rule

variable {α β : Type}

/-- The rule reads a value, leaves the given tokens, and changes nothing else. -/
def Reads (rule : Rule α) (s : Reading) (value : α) (rest : List Token) : Prop :=
  ∃ s', rule s = .done value s' ∧ s'.unread = rest ∧ s.Agrees s'

/-- The rule fails because a value is nested too deep. -/
def FailsTooDeep (rule : Rule α) (s : Reading) : Prop :=
  ∃ s' span, rule s = .failed s' ∧ s'.errors = s.errors ++ [.nestingTooDeep span]

/-- The rule reads a value of some depth if it fits, and fails for its depth otherwise. -/
def Answers (rule : Rule α) (s : Reading) (depth : Nat) (value : α) (rest : List Token) : Prop :=
  (s.depth + depth ≤ deepestValue → rule.Reads s value rest) ∧
    (deepestValue < s.depth + depth → rule.FailsTooDeep s)

theorem reads_advance {rule : Rule α} {s : Reading} {value : α} {token : Token}
    {rest : List Token} (h : s.unread = token :: rest) (hrule : rule s = .done value s.advance) :
    rule.Reads s value rest :=
  ⟨s.advance, hrule, Reading.unread_advance h, s.agrees_advance⟩

theorem Reads.bind {first : Rule α} {second : α → Rule β} {s : Reading} {value : α} {value' : β}
    {middle rest : List Token} (h : first.Reads s value middle)
    (h' : ∀ s', s'.unread = middle → s.Agrees s' → (second value).Reads s' value' rest) :
    (first >>= second).Reads s value' rest := by
  obtain ⟨s', hfirst, hunread, hagrees⟩ := h
  obtain ⟨s'', hsecond, hunread', hagrees'⟩ := h' s' hunread hagrees
  exact ⟨s'', (bind_of_done hfirst).trans hsecond, hunread', hagrees.trans hagrees'⟩

theorem Reads.congr {rule rule' : Rule α} {s : Reading} {value : α} {rest : List Token}
    (h : rule s = rule' s) (h' : rule'.Reads s value rest) : rule.Reads s value rest := by
  simpa only [Reads, h] using h'

theorem Reads.of_advance {rule rule' : Rule α} {s : Reading} {value : α} {rest : List Token}
    (h : rule s = rule' s.advance) (h' : rule'.Reads s.advance value rest) :
    rule.Reads s value rest := by
  obtain ⟨s', hrule, hunread, hagrees⟩ := h'
  exact ⟨s', h.trans hrule, hunread, s.agrees_advance.trans hagrees⟩

theorem FailsTooDeep.bind {first : Rule α} {second : α → Rule β} {s : Reading}
    (h : first.FailsTooDeep s) : (first >>= second).FailsTooDeep s := by
  obtain ⟨s', span, hfirst, herrors⟩ := h
  exact ⟨s', span, bind_of_failed hfirst, herrors⟩

/-- A first part that is read leaves the failure to what follows. -/
theorem Reads.bind_fails {first : Rule α} {second : α → Rule β} {s : Reading} {value : α}
    {middle : List Token} (h : first.Reads s value middle)
    (h' : ∀ s', s'.unread = middle → s.Agrees s' → (second value).FailsTooDeep s') :
    (first >>= second).FailsTooDeep s := by
  obtain ⟨s', hfirst, hunread, hagrees⟩ := h
  obtain ⟨s'', span, hsecond, herrors⟩ := h' s' hunread hagrees
  exact ⟨s'', span, (bind_of_done hfirst).trans hsecond, hagrees.errors ▸ herrors⟩

/-- A value, and then something whose depth is the rest of the depth. -/
theorem Answers.bind {first : Rule α} {second : α → Rule β} {s : Reading} {value : α} {value' : β}
    {depth depth' : Nat} {middle rest : List Token} (h : first.Answers s depth value middle)
    (h' : ∀ s', s'.unread = middle → s.Agrees s' → (second value).Answers s' depth' value' rest) :
    (first >>= second).Answers s (max depth depth') value' rest := by
  constructor
  · intro hfits
    refine (h.1 (by omega)).bind fun s' hunread hagrees => (h' s' hunread hagrees).1 ?_
    rw [hagrees.depth]
    omega
  · intro hdeep
    by_cases hfirst : s.depth + depth ≤ deepestValue
    · refine (h.1 hfirst).bind_fails fun s' hunread hagrees => (h' s' hunread hagrees).2 ?_
      rw [hagrees.depth]
      omega
    · exact (h.2 (by omega)).bind

theorem Reads.bind_answers {first : Rule α} {second : α → Rule β} {s : Reading} {value : α}
    {value' : β} {depth : Nat} {middle rest : List Token} (h : first.Reads s value middle)
    (h' : ∀ s', s'.unread = middle → s.Agrees s' → (second value).Answers s' depth value' rest) :
    (first >>= second).Answers s depth value' rest := by
  constructor
  · intro hfits
    refine h.bind fun s' hunread hagrees => (h' s' hunread hagrees).1 ?_
    rwa [hagrees.depth]
  · intro hdeep
    refine h.bind_fails fun s' hunread hagrees => (h' s' hunread hagrees).2 ?_
    rwa [hagrees.depth]

theorem Answers.congr {rule rule' : Rule α} {s : Reading} {value : α} {depth : Nat}
    {rest : List Token} (h : rule s = rule' s) (h' : rule'.Answers s depth value rest) :
    rule.Answers s depth value rest := by
  simpa only [Answers, Reads, FailsTooDeep, h] using h'

/-- What is made of a value afterwards does not matter for its depth. -/
theorem Answers.map {rule : Rule α} {s : Reading} {value : α} {depth : Nat} {rest : List Token}
    (f : α → β) (h : rule.Answers s depth value rest) :
    (do return f (← rule) : Rule β).Answers s depth (f value) rest :=
  ⟨fun hfits => (h.1 hfits).bind fun s' hunread _ => ⟨s', rfl, hunread, .refl s'⟩,
    fun hdeep => (h.2 hdeep).bind⟩

theorem Answers.of_reads {rule : Rule α} {s : Reading} {value : α} {rest : List Token}
    (hdepth : s.depth ≤ deepestValue) (h : rule.Reads s value rest) :
    rule.Answers s 0 value rest :=
  ⟨fun _ => h, fun hdeep => absurd hdeep (by omega)⟩

/-- One level deeper there is room for one level less. -/
theorem Answers.nested {rule : Rule α} {s : Reading} {value : α} {depth : Nat} {rest : List Token}
    (hdepth : s.depth ≤ deepestValue)
    (h : s.depth < deepestValue →
      rule.Answers { s with depth := s.depth + 1 } depth value rest) :
    (nested rule).Answers s (depth + 1) value rest := by
  by_cases hroom : s.depth < deepestValue
  · obtain ⟨hfits, hdeep⟩ := h hroom
    constructor
    · intro hle
      obtain ⟨s', hrule, hunread, hagrees⟩ := hfits (by simp only; omega)
      refine ⟨{ s' with depth := s'.depth - 1 }, ?_, hunread, hagrees.opened, ?_, hagrees.errors,
        hagrees.source⟩
      · rw [Rule.nested, if_pos hroom, hrule]
      · simp only [hagrees.depth, Nat.add_sub_cancel]
    · intro hlt
      obtain ⟨s', span, hrule, herrors⟩ := hdeep (by simp only; omega)
      refine ⟨{ s' with depth := s'.depth - 1 }, span, ?_, herrors⟩
      rw [Rule.nested, if_pos hroom, hrule]
  · constructor
    · intro hle
      omega
    · intro _
      exact ⟨s.record (.nestingTooDeep s.nextSpan), s.nextSpan, by rw [Rule.nested, if_neg hroom]; rfl,
        rfl⟩

/-- A literal that is read is kept, and a literal that is too deep is not emptied. -/
theorem Answers.literal {body : Rule ArgValue} {s : Reading} {value : ArgValue} {depth : Nat}
    {rest : List Token} (kind : LiteralKind) (h : body.Answers s depth value rest) :
    (literal kind body).Answers s depth value rest := by
  constructor
  · intro hle
    obtain ⟨s', hbody, hunread, hagrees⟩ := h.1 hle
    exact ⟨s', literal_of_done hbody, hunread, hagrees⟩
  · intro hlt
    obtain ⟨s', span, hbody, herrors⟩ := h.2 hlt
    have hfatal : (s'.errors.drop s.errors.length).any (·.cause.isFatal) = true := by
      rw [herrors, List.drop_left']
      · rfl
      · rfl
    exact ⟨s', span, literal_of_fatal hbody hfatal, herrors⟩

section Group

variable {body : Rule α} {finish : Token → α → Token → Rule β} {opening closing : Punctuator}
variable {enclosure : Enclosure} {s : Reading} {first last : Token} {inside rest : List Token}
variable (hunread : s.unread = first :: (inside ++ last :: rest))
variable (hfirst : first.kind = .punctuator opening) (hlast : last.kind = .punctuator closing)

include hunread hfirst hlast in
/-- A group is read if what stands inside its brackets is. -/
theorem Reads.group {value : α} {result : β} (hfinish : finish first value last = pure result)
    (h : body.Reads (s.advance.push enclosure first.span) value (last :: rest)) :
    (do
      let opened ← openGroup opening enclosure
      let found ← body
      let closed ← closeGroup closing
      finish opened found closed : Rule β).Reads s result rest := by
  obtain ⟨s', hbody, hunread', hagrees'⟩ := h
  have hagrees := s.agrees_advance
  have hafter := hagrees'.trans s'.agrees_advance
  refine ⟨s'.advance.pop, ?_, Reading.unread_advance hunread', ?_⟩
  · rw [bind_of_done (openGroup_of_unread hunread hfirst), bind_of_done hbody,
      bind_of_done (closeGroup_of_unread hunread' hlast), hfinish]
    rfl
  · refine ⟨?_, hafter.depth.trans hagrees.depth, hafter.errors.trans hagrees.errors,
      hafter.source.trans hagrees.source⟩
    rw [Reading.pop, hafter.opened]
    exact hagrees.opened

include hunread hfirst in
theorem FailsTooDeep.group (h : body.FailsTooDeep (s.advance.push enclosure first.span)) :
    (do
      let opened ← openGroup opening enclosure
      let found ← body
      let closed ← closeGroup closing
      finish opened found closed : Rule β).FailsTooDeep s := by
  obtain ⟨s', span, hbody, herrors⟩ := h
  refine ⟨s', span, ?_, ?_⟩
  · rw [bind_of_done (openGroup_of_unread hunread hfirst), bind_of_failed hbody]
  · rw [herrors, Reading.errors_push, Reading.errors_advance]

include hunread hfirst hlast in
/-- A group answers as what stands inside its brackets. -/
theorem Answers.group {value : α} {result : β} {depth : Nat}
    (hfinish : finish first value last = pure result)
    (h : ∀ s', s'.unread = inside ++ last :: rest → s'.depth = s.depth →
      body.Answers s' depth value (last :: rest)) :
    (do
      let opened ← openGroup opening enclosure
      let found ← body
      let closed ← closeGroup closing
      finish opened found closed : Rule β).Answers s depth result rest := by
  have hdepth : (s.advance.push enclosure first.span).depth = s.depth := s.agrees_advance.depth
  obtain ⟨hfits, hdeep⟩ := h (s.advance.push enclosure first.span)
    (Reading.unread_advance hunread) hdepth
  rw [hdepth] at hfits hdeep
  exact ⟨fun hle => .group hunread hfirst hlast hfinish (hfits hle),
    fun hlt => .group hunread hfirst (hdeep hlt)⟩

end Group

/-! ### Whole documents -/

section Whole

variable {rule : Rule α} {s r : Reading} {value : α}

/-- A document is read only if the rule is done with the value. -/
theorem done_of_run_whole (h : ((whole rule).run s).1 = .ok value) :
    ∃ r, rule s = .done value r := by
  rw [run, whole] at h
  cases hrule : rule s with
  | failed r =>
      rw [bind_of_failed hrule] at h
      cases h
  | done found r =>
      rw [bind_of_done hrule, bind_apply] at h
      cases hend : endOfDocument r with
      | failed r' =>
          rw [hend] at h
          cases h
      | done _ r' =>
          simp only [hend, pure_apply] at h
          cases herrors : r'.errors with
          | nil =>
              rw [herrors] at h
              exact ⟨r, by rw [Except.ok.inj h]⟩
          | cons error errors =>
              rw [herrors] at h
              cases h

/-- What the next token is decides whether a document is read of which the rule has read a part. -/
theorem run_whole_of_done {token : Token} {rest : List Token} (h : rule s = .done value r)
    (herrors : r.errors = []) (hunread : r.unread = token :: rest) :
    (token.kind = .finish → ((whole rule).run s).1 = .ok value) ∧
      (token.kind ≠ .finish → ∃ error, ((whole rule).run s).1 = .error error ∧
        error.cause = if token.kind.isError then .lexical else .trailingContent) := by
  rw [run, whole, bind_of_done h, bind_apply, endOfDocument, Reading.next?_of_unread hunread]
  dsimp only
  cases hkind : token.kind with
  | finish => simp [herrors]
  | error message notes =>
      simp [refuse, Reading.record, herrors, TokenKind.isError, Diagnostic.lexical]
  | _ => simp [refuse, Reading.record, herrors, TokenKind.isError, Diagnostic.trailingContent]

end Whole

/-- A rule that reads all but the end of the document. -/
theorem run_whole_of_reads {rule : Rule α} {s : Reading} {value : α} {last : Token}
    (h : rule.Reads s value [last]) (hlast : last.kind = .finish) (herrors : s.errors = []) :
    ((whole rule).run s).1 = .ok value := by
  obtain ⟨s', hrule, hunread, hagrees⟩ := h
  have hend : endOfDocument s' = .done () s' := by
    rw [endOfDocument, Reading.next?_of_unread hunread]
    simp only [hlast]
  have hwhole : whole rule s = .done value s' := by
    rw [whole, bind_of_done hrule, bind_of_done hend, pure_apply]
  rw [run, hwhole]
  simp only [hagrees.errors, herrors]

/-- A rule that fails for depth. -/
theorem run_whole_of_failsTooDeep {rule : Rule α} {s : Reading} (h : rule.FailsTooDeep s)
    (herrors : s.errors = []) : ∃ span, ((whole rule).run s).1 = .error (.nestingTooDeep span) := by
  obtain ⟨s', span, hrule, hmore⟩ := h
  have hwhole : whole rule s = .failed s' := by
    rw [whole, bind_of_failed hrule]
  refine ⟨span, ?_⟩
  rw [run, hwhole]
  simp [hmore, herrors]

end Rule

end CompletionGateway
