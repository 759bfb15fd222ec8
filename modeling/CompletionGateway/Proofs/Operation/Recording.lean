import CompletionGateway.Proofs.Operation.Closure
import CompletionGateway.Proofs.Operation.History

/-!
# Every failure is recorded

The steps of the reader have a history from every state and sequences have those of their parts, so
each rule of the grammar has one.  For a whole document it follows that a rule that is done leaves no
error behind, and that the error that a failed one is answered with is the first recorded one that was
not forgotten.
-/

namespace CompletionGateway

namespace Reading

/-- What is said of the next token says what is wrong. -/
theorem explains_wrongNext (s : Reading) {expected : List String} (h : expected ≠ []) :
    (s.wrongNext expected).Explains := by
  intro found
  unfold wrongNext
  cases s.next? with
  | none => simp [Diagnostic.missing]
  | some token =>
      cases hkind : token.kind <;>
        simp [hkind, Diagnostic.lexical, Diagnostic.unexpectedEnd, Diagnostic.unexpectedToken, h]

end Reading

theorem Diagnostic.explains_of_isGrammatical {error : Diagnostic}
    (h : error.cause.isGrammatical = true) : error.Explains := by
  intro found hcause
  rw [hcause] at h
  cases h

theorem explains_of_lexicalError? {tokens : List Token} {error : Diagnostic}
    (h : lexicalError? tokens = some error) : error.Explains := by
  obtain ⟨token, -, message, notes, -, rfl⟩ := Rule.exists_of_lexicalError? h
  exact Diagnostic.explains_of_isGrammatical rfl

namespace Rule

variable {α : Type}

/-- From every state the rule has a history. -/
def Recorded (rule : Rule α) : Prop := ∀ s, ∃ log, History rule s log

/-! ### Steps -/

/-- The rule forgets no error, and records one only if it fails. -/
def RecordsOne (rule : Rule α) (s : Reading) : Prop :=
  (∃ value s', rule s = .done value s' ∧ s.KeepsErrors s') ∨ ∃ error s', rule.Refuses s error s'

theorem RecordsOne.of_eq {rule rule' : Rule α} {s s' : Reading} (heq : rule s = rule' s')
    (hkeeps : s.KeepsErrors s') (h : rule'.RecordsOne s') : rule.RecordsOne s := by
  rcases h with ⟨value, s'', hdone, hkeeps'⟩ | ⟨error, s'', hrefuses⟩
  · exact .inl ⟨value, s'', heq.trans hdone, hkeeps.trans hkeeps'⟩
  · refine .inr ⟨error, s'', heq.trans hrefuses.failed, ?_, ?_, hrefuses.explains⟩
    · rw [hrefuses.errors, hkeeps.errors]
    · rw [hrefuses.forgotten, hkeeps.forgotten]

theorem recorded_of_recordsOne {rule : Rule α} (h : ∀ s, rule.RecordsOne s) : Recorded rule := by
  intro s
  rcases h s with ⟨value, s', hdone, hkeeps⟩ | ⟨error, s', hrefuses⟩
  · exact ⟨[], .silent hdone hkeeps⟩
  · exact ⟨[⟨error, false⟩], .refused hrefuses⟩

theorem recordsOne_refuse {reason : Reading → Diagnostic} {s : Reading} (h : (reason s).Explains) :
    (refuse reason : Rule α).RecordsOne s := .inr ⟨reason s, _, rfl, rfl, rfl, h⟩

theorem recorded_refuse {reason : Reading → Diagnostic} (h : ∀ s, (reason s).Explains) :
    Recorded (refuse reason : Rule α) := recorded_of_recordsOne fun s => recordsOne_refuse (h s)

theorem recordsOne_refuseUnclosed (delimiter : Delimiter) (s : Reading) :
    (refuseUnclosed delimiter : Rule α).RecordsOne s :=
  .inr ⟨_, _, rfl, rfl, rfl, fun _ => by simp⟩

/-- The steps of the reader have histories, and sequences have those of their parts. -/
theorem closed_recorded : Closed @Recorded where
  pure _ := fun s => ⟨[], .silent rfl (.refl s)⟩
  bind {_ _ rule second} hrule hsecond := by
    intro s
    obtain ⟨log, hlog⟩ := hrule s
    cases hfirst : rule s with
    | done value s' =>
        obtain ⟨more, hmore⟩ := hsecond value s'
        exact ⟨log ++ more, .bindDone hfirst hlog hmore⟩
    | failed s' => exact ⟨log, .bindFailed hfirst hlog⟩
  ask _ := fun s => ⟨[], .silent rfl (.refl s)⟩
  advance := fun s => ⟨[], .silent rfl (.advance s)⟩
  push enclosure span := fun s => ⟨[], .silent rfl (.push s enclosure span)⟩
  pop := fun s => ⟨[], .silent rfl (.pop s)⟩
  observe type fieldCount := fun s => ⟨[], .silent rfl (.observe s type fieldCount)⟩
  refuse herror := recorded_refuse fun _ => Diagnostic.explains_of_isGrammatical herror
  refuseNext hexpected := recorded_refuse fun s => s.explains_wrongNext hexpected
  refuseConstruct _ := recorded_refuse fun _ => Diagnostic.explains_of_isGrammatical rfl
  refuseUnclosed delimiter := recorded_of_recordsOne (recordsOne_refuseUnclosed delimiter)

/-- A rule that is chosen by the state. -/
theorem recorded_chosen {rule : Rule α} (h : ∀ s, ∃ rule', rule s = rule' s ∧ Recorded rule') :
    Recorded rule := by
  intro s
  obtain ⟨rule', heq, hrule⟩ := h s
  obtain ⟨log, hlog⟩ := hrule s
  exact ⟨log, .unfolded heq hlog⟩

/-- Passing the rest of a literal forgets no error, and records one only if the document ends. -/
theorem recordsOne_skipClosers (depth : Nat) (tokens : List Token) (s : Reading) :
    (skipClosers depth tokens).RecordsOne s := by
  induction tokens generalizing depth s with
  | nil =>
      cases depth with
      | zero => exact .inl ⟨(), s, rfl, .refl s⟩
      | succ depth =>
          have hunclosed : (refuseUnclosed _ : Rule Unit).RecordsOne s := recordsOne_refuseUnclosed
            ((s.opened.head?.map (·.enclosure.delimiter)).getD .brace) s
          exact .of_eq (by rw [skipClosers]) (.refl s) hunclosed
  | cons token rest ih =>
      cases depth with
      | zero => exact .inl ⟨(), s, rfl, .refl s⟩
      | succ depth =>
          have hadvance := Reading.KeepsErrors.advance s
          by_cases hfinish : token.kind = .finish
          · have hunclosed : (refuseUnclosed _ : Rule Unit).RecordsOne s := recordsOne_refuseUnclosed
              ((s.opened.head?.map (·.enclosure.delimiter)).getD .brace) s
            exact .of_eq (by simp only [skipClosers, if_pos hfinish]) (.refl s) hunclosed
          by_cases hopening : token.kind.isOpening = true
          · exact .of_eq (by simp only [skipClosers, if_neg hfinish, if_pos hopening]) hadvance
              (ih (depth + 2) s.advance)
          by_cases hclosing : token.kind.isClosing = true
          · exact .of_eq (by simp only [skipClosers, if_neg hfinish, if_neg hopening,
              if_pos hclosing]) hadvance (ih depth s.advance)
          · exact .of_eq (by simp only [skipClosers, if_neg hfinish, if_neg hopening,
              if_neg hclosing]) hadvance (ih (depth + 1) s.advance)

/-! ### Literals -/

theorem recorded_stringLiteral (token : Token) (content : String) :
    Recorded (stringLiteral token content) := by
  unfold stringLiteral
  split
  · exact closed_recorded.pure _
  · exact recorded_refuse fun _ _ => by simp [Diagnostic.invalidString]

theorem recorded_numberLiteral (token : Token) (content : String) :
    Recorded (numberLiteral token content) := by
  unfold numberLiteral
  split
  · split
    · exact closed_recorded.pure _
    · exact recorded_refuse fun _ _ => by simp [Diagnostic.invalidNumber]
  · exact recorded_refuse fun _ _ => by simp [Diagnostic.invalidNumber]

theorem recorded_bareRun : Recorded bareRun := by
  apply recorded_of_recordsOne
  intro s
  cases hunread : s.unread with
  | nil =>
      have hwrong : (refuseNext ["value"] : Rule ArgValue).RecordsOne s :=
        recordsOne_refuse (s.explains_wrongNext (by simp))
      exact .of_eq (by rw [bareRun, hunread]) (.refl s) hwrong
  | cons first rest =>
      -- the run is taken in any case, and only a faulty token is an error
      have hkeeps : s.KeepsErrors { s with
          unread := (takeRun first.span rest).2
          lastEnd := ((takeRun first.span rest).1.getLast?.getD first).span.stop } := ⟨rfl, rfl⟩
      cases htext : s.source.bind (Text.slice · first.span.start.offset
          ((takeRun first.span rest).1.getLast?.getD first).span.stop.offset) with
      | some text =>
          exact .inl ⟨.string (String.ofList text), _, by simp only [bareRun, hunread, htext], hkeeps⟩
      | none =>
          cases herror : lexicalError? (first :: (takeRun first.span rest).1) with
          | none =>
              refine .inl ⟨.string (String.join
                ((first :: (takeRun first.span rest).1).map (·.kind.shown))), _, ?_, hkeeps⟩
              simp only [bareRun, hunread, htext, herror]
          | some error =>
              have hfaulty : ∀ after, (refuse fun _ => error : Rule ArgValue).RecordsOne after :=
                fun _ => recordsOne_refuse (explains_of_lexicalError? herror)
              refine .of_eq ?_ hkeeps (hfaulty _)
              simp only [bareRun, hunread, htext, herror]
              rfl

theorem recorded_literal (kind : LiteralKind) {body : Rule ArgValue} (h : Recorded body) :
    Recorded (literal kind body) := by
  intro s
  obtain ⟨log, hlog⟩ := h s
  cases hbody : body s with
  | done value s' => exact ⟨log, .literalRead hbody hlog⟩
  | failed s' =>
      cases hfatal : (s'.errors.drop s.errors.length).any (·.cause.isFatal) with
      | true => exact ⟨log, .literalFatal hbody hfatal hlog⟩
      | false =>
          rcases recordsOne_skipClosers (s'.opened.length - s.opened.length) s'.unread s' with
            ⟨_, s'', hskip, hkeeps⟩ | ⟨error, s'', hskip⟩
          · exact ⟨_, .literalEmptied hbody hfatal hskip hkeeps hlog⟩
          · exact ⟨_, .literalUnclosed hbody hfatal hskip hlog⟩

/-! ### Values -/

theorem recorded_nested {rule : Rule ArgValue} (h : Recorded rule) : Recorded (nested rule) := by
  intro s
  by_cases hroom : s.depth < deepestValue
  · obtain ⟨log, hlog⟩ := h { s with depth := s.depth + 1 }
    exact ⟨log, .nested hroom hlog⟩
  · have htooDeep : Recorded (refuse (fun s => .nestingTooDeep s.nextSpan) : Rule ArgValue) :=
      recorded_refuse fun _ => Diagnostic.explains_of_isGrammatical rfl
    obtain ⟨log, hlog⟩ := htooDeep s
    exact ⟨log, .unfolded (by rw [nested, if_neg hroom]) hlog⟩

theorem recorded_valueAt {inner : Rule ArgValue} (hinner : Recorded inner) (token : Token) :
    Recorded (valueAt inner token) := by
  obtain ⟨rule, hrule, heq⟩ := closed_recorded.valueAt inner token
    (fun text _ => recorded_stringLiteral token text)
    (fun text _ => recorded_numberLiteral token text)
    (fun kind => recorded_literal kind (closed_recorded.body hinner
      (closed_recorded.objectKey recorded_stringLiteral) kind))
  rw [heq]
  refine recorded_chosen fun s => ?_
  cases hstarts : s.startsRun token with
  | true => exact ⟨bareRun, by rw [ask_bind, hstarts]; rfl, recorded_bareRun⟩
  | false => exact ⟨rule, by rw [ask_bind, hstarts]; rfl, hrule⟩

theorem recorded_valueWithin (limit : Nat) : Recorded (valueWithin limit) := by
  have hwrong : Recorded (refuseNext ["value"] : Rule ArgValue) :=
    closed_recorded.refuseNext (List.cons_ne_nil _ _)
  induction limit with
  | zero => exact recorded_nested hwrong
  | succ limit ih =>
      refine recorded_nested (recorded_chosen fun s => ?_)
      cases hnext : s.next? with
      | none => exact ⟨_, by rw [ask_bind, hnext], hwrong⟩
      | some token => exact ⟨_, by rw [ask_bind, hnext], recorded_valueAt ih token⟩

theorem recorded_value : Recorded value := closed_recorded.atSize recorded_valueWithin

/-! ### Whole documents -/

theorem recorded_argumentFragment : Recorded argumentFragment :=
  closed_recorded.argumentFragment recorded_value

theorem recorded_operation : Recorded operation := closed_recorded.operation recorded_value

theorem Recorded.whole {rule : Rule α} (h : Recorded rule) : Recorded (whole rule) :=
  closed_recorded.whole h

/-- The first error of a history that was not forgotten. -/
def firstKept? (log : List HistoryEntry) : Option Diagnostic :=
  (log.find? (!·.forgotten)).map (·.error)

/-- How a rule comes to an answer: the errors that it records have one history.  If it is done then
all of them were forgotten, none is left in the state, and its value is the answer.  If it fails then
the answer is the first one that was not forgotten, and says what is wrong. -/
def AnswersFor (rule : Rule α) (s : Reading) (answer : Except Diagnostic α) : Prop :=
  ∃ log, (∀ other, History rule s other ↔ other = log) ∧
    rule.Meets s
      (fun value s' => (∀ entry ∈ log, entry.forgotten = true) ∧ s'.errors = [] ∧ answer = .ok value)
      fun _ => ∃ error, firstKept? log = some error ∧ error.Explains ∧ answer = .error error

theorem firstKept?_of_logs {s s' : Reading} {log : List HistoryEntry}
    {dropped kept : List Diagnostic} (h : s.Logs log dropped kept s') :
    firstKept? log = kept.head? := by
  have hdropped : (dropped.map (HistoryEntry.mk · true)).find? (!·.forgotten) = none := by
    simp
  rw [firstKept?, h.log, List.find?_append, hdropped]
  cases kept <;> simp

/-- A rule that has a history from every state answers by it. -/
theorem Recorded.answersFor {rule : Rule α} (h : Recorded rule) (source : Option (List Char))
    (tokens : List Token) :
    rule.AnswersFor (.start source tokens) (rule.run (.start source tokens)).1 := by
  obtain ⟨log, hlog⟩ := h (.start source tokens)
  refine ⟨log, fun other => ⟨fun hother => hother.unique hlog, fun heq => heq ▸ hlog⟩, ?_⟩
  have hmeets := hlog.meets
  have hexplains := hlog.explains
  have hnone : (Reading.start source tokens).errors = [] := rfl
  unfold Meets at hmeets ⊢
  rw [run]
  cases hrule : rule (.start source tokens) with
  | done value s' =>
      simp only [hrule] at hmeets ⊢
      obtain ⟨dropped, hlogs⟩ := hmeets
      have herrors : s'.errors = [] := by rw [hlogs.errors, hnone]; rfl
      refine ⟨?_, herrors, by rw [herrors]⟩
      intro entry hentry
      rw [hlogs.log, List.map_nil, List.append_nil] at hentry
      obtain ⟨error, -, rfl⟩ := List.mem_map.1 hentry
      rfl
  | failed s' =>
      simp only [hrule] at hmeets ⊢
      obtain ⟨dropped, kept, hlogs, hne⟩ := hmeets
      obtain ⟨error, more, rfl⟩ := List.exists_cons_of_ne_nil hne
      refine ⟨error, firstKept?_of_logs hlogs, ?_, ?_⟩
      · exact hexplains ⟨error, false⟩ (by rw [hlogs.log]; simp)
      · rw [hlogs.errors, hnone]
        rfl

end Rule

/-- Every failure to read an operation or an argument fragment is a recorded failure, and no error
that was forgotten with a literal comes back, whatever the tokens are. -/
theorem answers_recorded (source : Option (List Char)) (tokens : List Token) :
    (Rule.whole Rule.operation).AnswersFor (.start source tokens)
        (Operation.readTokens source tokens).1 ∧
      (Rule.whole Rule.argumentFragment).AnswersFor (.start source tokens)
        (Arguments.readTokens source tokens) := by
  constructor
  · exact Rule.recorded_operation.whole.answersFor source tokens
  · exact Rule.recorded_argumentFragment.whole.answersFor source tokens

end CompletionGateway
