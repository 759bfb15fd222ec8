import CompletionGateway.Operation.Document
import CompletionGateway.Proofs.Operation.Brackets

/-!
# Steps of the reader

One lemma for each basic rule says what the rule does to a state whose next token is known.  The
other proofs about reading cite these and do not unfold the rules.
-/

namespace CompletionGateway

namespace Reading

variable {s : Reading} {token : Token} {rest : List Token}

theorem advance_of_unread (h : s.unread = token :: rest) :
    s.advance = { s with unread := rest, lastEnd := token.span.stop } := by
  rw [advance, h]

theorem next?_of_unread (h : s.unread = token :: rest) : s.next? = some token := by
  rw [next?, h]
  rfl

theorem nextKind?_of_unread (h : s.unread = token :: rest) : s.nextKind? = some token.kind := by
  rw [nextKind?, next?_of_unread h]
  rfl

theorem next?_of_nil (h : s.unread = []) : s.next? = none := by
  rw [next?, h]
  rfl

theorem nextKind?_of_nil (h : s.unread = []) : s.nextKind? = none := by
  rw [nextKind?, next?_of_nil h]
  rfl

theorem atEnd_of_unread (h : s.unread = token :: rest) :
    s.toTokenStream.atEnd = (token.kind == .finish) := by
  simp [TokenStream.atEnd, TokenStream.peek, h]

@[simp]
theorem unread_push (enclosure : Enclosure) (span : Span) :
    (s.push enclosure span).unread = s.unread := rfl

@[simp]
theorem errors_push (enclosure : Enclosure) (span : Span) :
    (s.push enclosure span).errors = s.errors := rfl

@[simp]
theorem errors_advance : s.advance.errors = s.errors := by
  unfold advance
  split <;> rfl

@[simp]
theorem unread_discard (start : Position) (groups errors : Nat) :
    (s.discard start groups errors).unread = s.unread := rfl

/-- Where groups have been opened on top of others, discarding them leaves the others. -/
theorem opened_discard {groups outer : List OpenGroup} (h : s.opened = groups ++ outer)
    (start : Position) (errors : Nat) :
    (s.discard start outer.length errors).opened = outer := by
  simp [discard, h]

/-- Where errors have been recorded behind others, discarding them leaves the others. -/
theorem errors_discard {before faults : List Diagnostic} (h : s.errors = before ++ faults)
    (start : Position) (groups : Nat) :
    (s.discard start groups before.length).errors = before := by
  simp [discard, h]

end Reading

namespace Rule

variable {α β : Type} {first : Rule α} {second : α → Rule β} {s s' : Reading} {value : α}
variable {token : Token} {rest : List Token}

theorem bind_of_done (h : first s = .done value s') : (first >>= second) s = second value s' := by
  rw [bind_apply, h]

theorem bind_of_failed (h : first s = .failed s') : (first >>= second) s = .failed s' := by
  rw [bind_apply, h]

@[simp]
theorem ask_bind (question : Reading → α) (s : Reading) :
    (ask question >>= second) s = second (question s) s := rfl

@[simp]
theorem update_bind (change : Reading → Reading) (second : Unit → Rule β) (s : Reading) :
    (update change >>= second) s = second () (change s) := rfl

@[simp]
theorem pure_bind_apply (value : α) (s : Reading) :
    ((pure value : Rule α) >>= second) s = second value s := rfl

theorem nextIs_bind (mark : Punctuator) (second : Bool → Rule β) (s : Reading) :
    (nextIs mark >>= second) s = second (s.nextKind? == some (.punctuator mark)) s := rfl

/-- Tokens that begin with none of the marks but some. -/
def StartsOnlyWith (marks : List Punctuator) (tokens : List Token) : Prop :=
  ∀ token ∈ tokens.head?, ∀ mark, token.kind = .punctuator mark → mark ∈ marks

theorem nextIs_bind_of_startsOnlyWith {marks : List Punctuator} {mark : Punctuator}
    (second : Bool → Rule β) (h : StartsOnlyWith marks s.unread)
    (hmark : mark ∉ marks) : (nextIs mark >>= second) s = second false s := by
  rw [nextIs_bind, Reading.nextKind?, Reading.next?]
  cases hhead : s.unread.head? with
  | none => rfl
  | some token =>
      have hne : token.kind ≠ .punctuator mark :=
        fun hkind => hmark (h token (by simp [hhead]) mark hkind)
      simp [beq_eq_false_iff_ne.2 hne]

theorem nextIs_bind_of_eq {mark : Punctuator} (second : Bool → Rule β)
    (hunread : s.unread = token :: rest)
    (hkind : token.kind = .punctuator mark) : (nextIs mark >>= second) s = second true s := by
  rw [nextIs_bind, Reading.nextKind?_of_unread hunread, hkind, beq_self_eq_true]

theorem atEnd_bind (second : Bool → Rule β) (s : Reading) :
    (atEnd >>= second) s = second s.toTokenStream.atEnd s := rfl

theorem expect_of_unread {mark : Punctuator} (h : s.unread = token :: rest)
    (hkind : token.kind = .punctuator mark) : expect mark s = .done token s.advance := by
  rw [expect, h]
  simp [hkind]

theorem expectName_of_unread {name : String} (h : s.unread = token :: rest)
    (hkind : token.kind.asName? = some name) :
    expectName s = .done (name, token.span) s.advance := by
  rw [expectName, Reading.next?_of_unread h]
  simp [hkind]

theorem expect_of_nil {mark : Punctuator} (h : s.unread = []) :
    expect mark s = .failed (s.record (s.wrongNext [mark.spelling])) := by
  rw [expect, h]
  rfl

theorem expectName_of_nil (h : s.unread = []) :
    expectName s = .failed (s.record (s.wrongNext ["name"])) := by
  rw [expectName, Reading.next?_of_nil h]
  rfl

theorem expect_of_ne {mark : Punctuator} (h : s.unread = token :: rest)
    (hkind : token.kind ≠ .punctuator mark) :
    expect mark s = .failed (s.record (s.wrongNext [mark.spelling])) := by
  rw [expect, h]
  simp only [if_neg hkind]
  rfl

theorem expectName_of_none (h : s.unread = token :: rest) (hkind : token.kind.asName? = none) :
    expectName s = .failed (s.record (s.wrongNext ["name"])) := by
  rw [expectName, Reading.next?_of_unread h]
  simp only [Option.bind_some, hkind, Option.map_none]
  rfl

theorem openGroup_of_unread {mark : Punctuator} {enclosure : Enclosure}
    (h : s.unread = token :: rest) (hkind : token.kind = .punctuator mark) :
    openGroup mark enclosure s = .done token (s.advance.push enclosure token.span) := by
  rw [openGroup, bind_of_done (expect_of_unread h hkind)]
  rfl

theorem closeGroup_of_unread {mark : Punctuator} (h : s.unread = token :: rest)
    (hkind : token.kind = .punctuator mark) :
    closeGroup mark s = .done token s.advance.pop := by
  rw [closeGroup, bind_of_done (expect_of_unread h hkind)]
  rfl

/-- One token of a skipped group. -/
theorem skipGroup_cons {opening closing : Punctuator} (delimiter : Delimiter) (inner : Nat)
    {token : Token} (rest : List Token) (s : Reading) (herror : token.kind.isError = false)
    (hfinish : token.kind ≠ .finish) :
    skipGroup opening closing delimiter inner (token :: rest) s =
      if token.kind = .punctuator opening then
        skipGroup opening closing delimiter (inner + 1) rest s.advance
      else if token.kind = .punctuator closing then
        match inner with
        | 0 => .done () s.advance.pop
        | inner + 1 => skipGroup opening closing delimiter inner rest s.advance
      else skipGroup opening closing delimiter inner rest s.advance := by
  rw [skipGroup.eq_def]
  simp only [update_bind]
  cases hkind : token.kind with
  | finish => exact absurd hkind hfinish
  | error message notes => simp [hkind, TokenKind.isError] at herror
  | punctuator mark =>
      simp only [TokenKind.punctuator.injEq]
      split
      · rfl
      · split
        · cases inner <;> rfl
        · rfl
  | _ => simp

section SkipGroup

variable {opening closing : Punctuator} (delimiter : Delimiter) {inner inner' : Nat} (rest : List Token)
variable (s : Reading) (herror : token.kind.isError = false)

include herror

/-- Behind a token the rest of the group is passed with the count that the token leaves. -/
theorem skipGroup_of_step
    (hstep : (BracketCount.pair opening closing).step inner token.kind = some inner') :
    skipGroup opening closing delimiter inner (token :: rest) s =
      skipGroup opening closing delimiter inner' rest s.advance := by
  have hfinish : token.kind ≠ .finish := by
    intro hkind
    rw [hkind, BracketCount.step_finish] at hstep
    cases hstep
  rw [skipGroup_cons delimiter inner rest s herror hfinish]
  simp only [BracketCount.step, BracketCount.pair, if_neg hfinish, beq_iff_eq] at hstep
  split at hstep
  · rename_i hopening
    rw [if_pos hopening, Option.some.inj hstep]
  rename_i hopening
  rw [if_neg hopening]
  split at hstep
  · rename_i hclosing
    rw [if_pos hclosing]
    cases inner with
    | zero => cases hstep
    | succ inner => rw [Option.some.inj hstep]
  · rename_i hclosing
    rw [if_neg hclosing, Option.some.inj hstep]

/-- A token that leaves no count closes the group, unless it is the end. -/
theorem skipGroup_of_none (hfinish : token.kind ≠ .finish)
    (hstep : (BracketCount.pair opening closing).step inner token.kind = none) :
    inner = 0 ∧ token.kind = .punctuator closing ∧
      skipGroup opening closing delimiter inner (token :: rest) s = .done () s.advance.pop := by
  rw [skipGroup_cons delimiter inner rest s herror hfinish]
  simp only [BracketCount.step, BracketCount.pair, if_neg hfinish, beq_iff_eq] at hstep
  split at hstep
  · cases hstep
  rename_i hopening
  rw [if_neg hopening]
  split at hstep
  · rename_i hclosing
    rw [if_pos hclosing]
    cases inner with
    | zero => exact ⟨rfl, hclosing, rfl⟩
    | succ inner => cases hstep
  · cases hstep

end SkipGroup

/-! ### Errors -/

/-- The first error among some tokens is the fault of one of them. -/
theorem exists_of_lexicalError? {tokens : List Token} {error : Diagnostic}
    (h : lexicalError? tokens = some error) : ∃ token ∈ tokens, ∃ message notes,
      token.kind = .error message notes ∧ error = .lexical message notes token.span := by
  induction tokens with
  | nil => cases h
  | cons token rest ih =>
      rw [lexicalError?] at h
      split at h
      · rename_i message notes hkind
        exact ⟨token, List.mem_cons_self, message, notes, hkind, (Option.some.inj h).symm⟩
      · obtain ⟨faulty, hmem, hfaulty⟩ := ih h
        exact ⟨faulty, List.mem_cons_of_mem _ hmem, hfaulty⟩

section Run

variable {α γ : Type} (look : Diagnostic → γ) {rule : Rule α} {s s' : Reading}

/-- Seen through `look`, the answer of a rule that is done depends on the recorded errors as they are
seen through it. -/
theorem mapError_run_of_done {value : α} (h : rule s = .done value s') :
    (rule.run s).1.mapError look =
      match (s'.errors.map look).head? with
      | none => .ok value
      | some seen => .error seen := by
  rw [run, h]
  dsimp only
  cases s'.errors <;> rfl

/-- A rule that fails without an error is answered with the one that says nothing. -/
theorem mapError_run_of_failed (h : rule s = .failed s') :
    (rule.run s).1.mapError look =
      .error ((s'.errors.map look).head?.getD (look (.unexplained s'.endSpan))) := by
  rw [run, h]
  dsimp only
  cases s'.errors <;> rfl

/-- The error of the answer was recorded, unless the rule failed without recording one. -/
theorem recorded_of_run_eq_error {error : Diagnostic} (h : (rule.run s).1 = .error error) :
    (∃ value s', rule s = .done value s' ∧ error ∈ s'.errors) ∨
      ∃ s', rule s = .failed s' ∧
        (error ∈ s'.errors ∨ s'.errors = [] ∧ error = .unexplained s'.endSpan) := by
  rw [run] at h
  cases hrule : rule s with
  | done value s' =>
      cases herrors : s'.errors with
      | nil => simp [hrule, herrors] at h
      | cons first more =>
          simp only [hrule, herrors, Except.error.injEq] at h
          exact .inl ⟨value, s', rfl, by rw [herrors, ← h]; exact List.mem_cons_self⟩
  | failed s' =>
      simp only [hrule, Except.error.injEq] at h
      refine .inr ⟨s', rfl, ?_⟩
      cases herrors : s'.errors with
      | nil => exact .inr ⟨rfl, by rw [← h, herrors]; rfl⟩
      | cons first more =>
          rw [herrors] at h
          exact .inl (by rw [← h]; exact List.mem_cons_self)

end Run

/-! ### Literals -/

section Literal

variable {kind : LiteralKind} {body : Rule ArgValue} {s s' s'' : Reading}

theorem literal_of_done {value : ArgValue} (h : body s = .done value s') :
    literal kind body s = .done value s' := by
  rw [literal, h]

/-- A fatal error of the body is an error of the literal. -/
theorem literal_of_fatal (h : body s = .failed s')
    (hfatal : (s'.errors.drop s.errors.length).any (·.cause.isFatal) = true) :
    literal kind body s = .failed s' := by
  simp only [literal, h, hfatal, if_true]

theorem literal_of_unclosed (h : body s = .failed s')
    (hmild : (s'.errors.drop s.errors.length).any (·.cause.isFatal) = false)
    (hskip : skipClosers (s'.opened.length - s.opened.length) s'.unread s' = .failed s'') :
    literal kind body s = .failed s'' := by
  simp only [literal, h, hmild, Bool.false_eq_true, if_false, hskip]

/-- The literal is emptied, and the errors of its body are forgotten. -/
theorem literal_of_closed (h : body s = .failed s')
    (hmild : (s'.errors.drop s.errors.length).any (·.cause.isFatal) = false)
    (hskip : skipClosers (s'.opened.length - s.opened.length) s'.unread s' = .done () s'') :
    literal kind body s =
      .done kind.empty (s''.discard s.nextSpan.start s.opened.length s.errors.length) := by
  simp only [literal, h, hmild, Bool.false_eq_true, if_false, hskip]

end Literal

end Rule

end CompletionGateway
