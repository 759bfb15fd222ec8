import CompletionGateway.Operation.Document
import CompletionGateway.Proofs.Operation.ValueAlike
import CompletionGateway.Proofs.Token.Respacing

/-!
# Trivia do not matter

Whether a document is read, what it means and which error it has depend on its tokens, the text that
they cover and which of them touch, not on where they stand.  Other trivia where there are trivia
leave all this as it is.  The exception is a line feed put right behind a carriage return: such a
return ends a string that has no end, which then takes the line feed in as well, and the tokens
around the gap come to touch.
-/

namespace CompletionGateway

variable {text text' : List Char}

namespace Rule

/-! ### Operations -/

/-- Rules that look at the next token's kind, the remarks on a fault apart. -/
theorem Alike.nextKind_bind {α : Type} {related : α → α → Prop}
    {second : Option TokenKind → Rule α}
    (hnotes : ∀ message notes notes',
      second (some (.error message notes)) = second (some (.error message notes')))
    (h : ∀ kind, Alike text text' (second kind) (second kind) related) :
    Alike text text' (ask (·.nextKind?) >>= second) (ask (·.nextKind?) >>= second) related := by
  intro s s' hs
  rw [Rule.ask_bind, Rule.ask_bind, hs.congr_nextKind? second hnotes]
  exact h _ s s' hs

theorem alike_noDirective : Alike text text' noDirective noDirective fun _ _ => True := by
  rw [noDirective]
  refine .nextIs_bind .at fun found => ?_
  cases found with
  | true => exact alike_refuseConstruct .directives
  | false => exact alike_pure trivial

/-- A group that may be absent, and then rules that are alike. -/
theorem alike_optionalGroup {α : Type} {opening closing : Punctuator} {enclosure : Enclosure}
    {next : Rule α} {related : α → α → Prop} (h : Alike text text' next next related) :
    Alike text text'
      (do
        if ← nextIs opening then passGroup opening closing enclosure
        next : Rule α)
      (do
        if ← nextIs opening then passGroup opening closing enclosure
        next : Rule α) related := by
  refine .nextIs_bind opening fun found => ?_
  cases found with
  | true => exact (alike_passGroup opening closing enclosure).bind fun _ _ _ => h
  | false => exact h

theorem alike_field : Alike text text' field field Eq := by
  rw [field]
  refine alike_expectName.bind ?_
  rintro ⟨name, span⟩ ⟨_, span'⟩ rfl
  refine .nextIs_bind .colon fun aliased => ?_
  cases aliased with
  | true => exact alike_refuse fun _ _ _ => rfl
  | false =>
      have harguments : Alike text text'
          (do if ← nextIs .openParen then argumentList else return [] : Rule Arguments)
          (do if ← nextIs .openParen then argumentList else return [] : Rule Arguments) Eq := by
        refine .nextIs_bind .openParen fun opened => ?_
        cases opened with
        | true => exact alike_argumentList
        | false => exact alike_pure rfl
      refine harguments.bind ?_
      rintro arguments _ rfl
      refine alike_noDirective.bind fun _ _ _ => ?_
      exact alike_optionalGroup (alike_pure rfl)

theorem alike_fields (limit : Nat) : Alike text text' (fields limit) (fields limit) Eq := by
  induction limit with
  | zero => exact alike_refuseUnclosed .brace
  | succ limit ih =>
      rw [fields]
      refine .nextKind_bind (fun _ _ _ => rfl) fun kind => ?_
      split
      · exact alike_pure rfl
      · exact alike_refuseUnclosed .brace
      · exact alike_refuseUnclosed .brace
      · exact alike_refuseConstruct .fragments
      · refine alike_field.bind ?_
        rintro first _ rfl
        refine ih.bind ?_
        rintro more _ rfl
        exact alike_pure rfl

theorem alike_operationBody : Alike text text' operationBody operationBody Eq := by
  rw [operationBody]
  refine (alike_openGroup .openBrace .operationBody).bind fun opening opening' _ => ?_
  refine (alike_atSize alike_fields).bind ?_
  rintro found _ rfl
  refine (alike_closeGroup .closeBrace).bind fun closing closing' _ => ?_
  -- the brackets stand elsewhere, which shows in the place of an error alone
  split
  · exact alike_refuse fun _ _ _ => rfl
  · exact alike_pure rfl

theorem alike_operationHead : Alike text text' operationHead operationHead Eq := by
  have hname : Alike text text'
      (do
        if (← ask (·.nextKind?)).bind (·.asName?) |>.isSome then return some (← expectName).1
        else return none : Rule (Option String))
      (do
        if (← ask (·.nextKind?)).bind (·.asName?) |>.isSome then return some (← expectName).1
        else return none : Rule (Option String)) Eq := by
    refine .nextKind_bind (fun _ _ _ => rfl) fun kind => ?_
    split
    · exact alike_expectName.bind fun _ _ hfound => alike_pure (congrArg some hfound)
    · exact alike_pure rfl
  rw [operationHead]
  refine .nextKind_bind (fun _ _ _ => rfl) fun kind => ?_
  split
  · split
    · refine alike_taking (hname.bind ?_)
      rintro name _ rfl
      refine alike_optionalGroup (alike_noDirective.bind fun _ _ _ => ?_)
      exact alike_pure rfl
    · split
      · exact alike_refuseConstruct .fragments
      · exact alike_refuseNext _
  · exact alike_pure rfl

theorem alike_operation : Alike text text' operation operation Eq := by
  rw [operation]
  refine alike_operationHead.bind ?_
  rintro ⟨type, name⟩ _ rfl
  refine alike_operationBody.bind ?_
  rintro found _ rfl
  exact .update_bind (fun _ _ hs => hs.observe _ _) (alike_pure rfl)

/-! ### Whole documents -/

theorem alike_endOfDocument :
    Alike text text' endOfDocument endOfDocument fun _ _ => True := by
  intro s s' hs
  rcases hs.unread_cases with ⟨hnil, hnil'⟩ |
    ⟨token, rest, token', rest', hunread, hunread', htoken, -, -⟩
  · simp only [endOfDocument, Reading.next?, hnil, hnil', List.head?_nil]
    exact .done trivial hs
  · simp only [endOfDocument, Reading.next?_of_unread hunread, Reading.next?_of_unread hunread']
    rcases TokenKind.eq_or_error htoken.kind with hkind | ⟨message, notes, notes', hkind, hkind'⟩
    · rw [← hkind]
      cases token.kind with
      | finish => exact .done trivial hs
      | _ => exact .failed (hs.record rfl)
    · rw [hkind, hkind']
      exact .failed (hs.record rfl)

theorem Alike.whole {α : Type} {rule : Rule α} (h : Alike text text' rule rule Eq) :
    Alike text text' (whole rule) (whole rule) Eq :=
  h.bind fun _ _ hvalue => alike_endOfDocument.bind fun _ _ _ => alike_pure hvalue

/-- Rules that are alike come to the same result, the places of errors apart. -/
theorem Alike.run {α : Type} {rule : Rule α} (h : Alike text text' rule rule Eq) {s s' : Reading}
    (hs : s.Alike text text' s') :
    (rule.run s).1.mapError Diagnostic.gist = (rule.run s').1.mapError Diagnostic.gist := by
  have houtcome := h s s' hs
  generalize hrule : rule s = outcome at houtcome
  generalize hrule' : rule s' = outcome' at houtcome
  cases houtcome with
  | done hvalue hstate =>
      subst hvalue
      rw [mapError_run_of_done _ hrule, mapError_run_of_done _ hrule', hstate.errors]
  | failed hstate =>
      rw [mapError_run_of_failed _ hrule, mapError_run_of_failed _ hrule', hstate.errors]
      rfl

end Rule

/-- Two documents are read to the same result, both as operations and as argument fragments: the
same value, or errors that differ in places and remarks alone. -/
structure SameResults (text text' : List Char) : Prop where
  operation : (Operation.parse text).mapError Diagnostic.gist =
    (Operation.parse text').mapError Diagnostic.gist
  arguments : (Arguments.parse text).mapError Diagnostic.gist =
    (Arguments.parse text').mapError Diagnostic.gist

/-- Documents whose tokens are alike are read to the same result. -/
theorem Token.AllAlike.sameResults
    (h : Token.AllAlike text text' (Token.list text) (Token.list text')) :
    SameResults text text' where
  operation := Rule.alike_operation.whole.run (.start h)
  arguments := Rule.alike_argumentFragment.whole.run (.start h)

theorem SameResults.trans {text'' : List Char} (h : SameResults text text')
    (h' : SameResults text' text'') : SameResults text text'' :=
  ⟨h.operation.trans h'.operation, h.arguments.trans h'.arguments⟩

/-- Two texts differ in nothing but trivia: they have the same tokens, but for where these stand, or
one comes from the other as trivia are exchanged, gap by gap. -/
inductive Token.SameButTrivia : List Char → List Char → Prop
  | sameTokens {text text' : List Char} (h : SameTokens text text') : SameButTrivia text text'
  | respaced {front gap gap' back : List Char} (h : Respaced front gap gap' back) :
      SameButTrivia (front ++ (gap ++ back)) (front ++ (gap' ++ back))
  | trans {text text' text'' : List Char} (h : SameButTrivia text text')
      (h' : SameButTrivia text' text'') : SameButTrivia text text''

/-- Documents that differ in nothing but trivia are read to the same result. -/
theorem sameResults_of_sameButTrivia (h : Token.SameButTrivia text text') :
    SameResults text text' := by
  induction h with
  | sameTokens h => exact h.allAlike.sameResults
  | respaced h => exact h.allAlike.sameResults
  | trans _ _ ih ih' => exact ih.trans ih'

/-- A document with a bare run behind a gap. -/
def gapBeforeRun (gap : List Char) : List Char :=
  ['{', 'f', '(', 'x', ':'] ++ (gap ++ ['a', '-', 'b', ')', '}'])

/-- A comma and a comment do what a blank does. -/
theorem sameResults_gapBeforeRun :
    Token.SameButTrivia (gapBeforeRun [' ']) (gapBeforeRun [',', '#', '!', '\n']) ∧
      (Operation.parse (gapBeforeRun [' '])).mapError Diagnostic.gist =
        .ok ⟨.query, none, [⟨"f", [("x", .string "a-b")]⟩]⟩ ∧
      (Operation.parse (gapBeforeRun [',', '#', '!', '\n'])).mapError Diagnostic.gist =
        .ok ⟨.query, none, [⟨"f", [("x", .string "a-b")]⟩]⟩ := by
  have hgap : Token.IsGap ['{', 'f', '(', 'x', ':'] [' '] ['a', '-', 'b', ')', '}'] :=
    ⟨(Token.list (gapBeforeRun [' '])).take 5, _, (Token.list (gapBeforeRun [' '])).drop 6, rfl,
      by decide +kernel, by decide +kernel⟩
  have hbody : ∀ c ∈ ['!'], c ≠ '\n' ∧ c ≠ '\r' := by simp
  have hcomment : IsTrivia ['#', '!', '\n'] := .comment hbody (.inl rfl) .nil
  have hrespaced : Token.Respaced ['{', 'f', '(', 'x', ':'] [' '] [',', '#', '!', '\n']
      ['a', '-', 'b', ')', '}'] :=
    ⟨hgap, by simp, by simp, .inl (.separator rfl hcomment), by simp⟩
  have hparse : (Operation.parse (gapBeforeRun [' '])).mapError Diagnostic.gist =
      .ok ⟨.query, none, [⟨"f", [("x", .string "a-b")]⟩]⟩ := by rfl
  have hsame := Token.SameButTrivia.respaced hrespaced
  exact ⟨hsame, hparse, (sameResults_of_sameButTrivia hsame).operation.symm.trans hparse⟩

/-- A document with a gap behind a string that has no end and stops at a carriage return. -/
def gapBehindReturn (gap : List Char) : List Char :=
  ['{', ' ', 'f', '(', 'x', ':', ' ', 'a', '"', 'c', '\r'] ++
    (gap ++ ['b', ':', ' ', 'y', ')', ' ', '}'])

/-- With a line feed in place of the blank in that gap the document is not accepted any more. -/
theorem Operation.parse_gapBehindReturn :
    Token.IsGap ['{', ' ', 'f', '(', 'x', ':', ' ', 'a', '"', 'c', '\r'] [' ']
        ['b', ':', ' ', 'y', ')', ' ', '}'] ∧
      IsTrivia ['\n'] ∧
      (parse (gapBehindReturn [' '])).toOption.map fieldNames = some ["f"] ∧
      (parse (gapBehindReturn ['\n'])).toOption.map fieldNames = none :=
  ⟨⟨(Token.list (gapBehindReturn [' '])).take 7, _, (Token.list (gapBehindReturn [' '])).drop 8,
    rfl, by decide +kernel, by decide +kernel⟩, .separator rfl .nil, by decide +kernel,
    by decide +kernel⟩

end CompletionGateway
