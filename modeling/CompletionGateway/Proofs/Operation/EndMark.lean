import CompletionGateway.Proofs.Operation.Ending
import CompletionGateway.Proofs.Operation.Fragment
import CompletionGateway.Proofs.Operation.Trailing

/-!
# The mark of the end

Rules for values, arguments and operations come to the same with and without a mark of the end.  A
value begins with a token that both documents have, or is missing in both; and each entry, item,
argument and field takes tokens, so the limits on how many there are play no part, though one more
token is counted where the mark is.
-/

namespace CompletionGateway

namespace Rule

variable {α : Type} {size : Nat}

/-! ### Values -/

theorem bareRun_sameButEnd {s s' : Reading} (hs : s.SameButEnd s') {token : Token}
    {rest rest' : List Token} (hunread : s.unread = token :: rest)
    (hunread' : s'.unread = token :: rest') : (bareRun s).SameButEnd (bareRun s') := by
  have hrest : Token.SameButEnd rest rest' := by
    have hall := hs.unread
    rw [hunread, hunread'] at hall
    cases hall with
    | cons _ hrest => exact hrest
  obtain ⟨hrun, hbehind⟩ := hrest.takeRun token.span
  simp only [bareRun, hunread, hunread', ← hrun, ← hs.source]
  have hstate : ∀ stop, ({ s with
      unread := (takeRun token.span rest).2, lastEnd := stop } : Reading).SameButEnd
        { s' with
          unread := (takeRun token.span rest').2, lastEnd := stop, source := s.source } :=
    fun _ => ⟨hbehind, hs.opened, hs.depth, hs.errors, rfl⟩
  split
  · exact .done _ (hstate _)
  · split
    · exact .failed ((hstate _).record rfl)
    · exact .done _ (hstate _)

theorem sameButEnd_stringLiteral (token : Token) (content : String) :
    SameButEnd size (stringLiteral token content) (stringLiteral token content) := by
  unfold stringLiteral
  split
  · exact sameButEnd_pure _
  · exact sameButEnd_refuse fun _ _ _ => rfl

theorem sameButEnd_numberLiteral (token : Token) (content : String) :
    SameButEnd size (numberLiteral token content) (numberLiteral token content) := by
  unfold numberLiteral
  split
  · split
    · exact sameButEnd_pure _
    · exact sameButEnd_refuse fun _ _ _ => rfl
  · exact sameButEnd_refuse fun _ _ _ => rfl

/-- Whether a literal counts as empty goes by the causes of the errors in it. -/
theorem sameButEnd_literal (kind : LiteralKind) {body body' : Rule ArgValue}
    (h : SameButEnd size body body') :
    SameButEnd size (literal kind body) (literal kind body') := by
  intro s s' hs hle
  have hbody := h s s' hs hle
  rw [literal, literal]
  generalize body s = outcome at hbody
  generalize body' s' = outcome' at hbody
  cases hbody with
  | done value hstate => exact .done value hstate
  | @failed after after' hstate =>
      have hlength : s.errors.length = s'.errors.length := by
        simpa only [List.length_map] using congrArg List.length hs.errors
      have hreasons : (after.errors.drop s.errors.length).map (·.substance) =
          (after'.errors.drop s'.errors.length).map (·.substance) := by
        rw [List.map_drop, List.map_drop, hstate.errors, hlength]
      have hfatal : (after.errors.drop s.errors.length).any (·.cause.isFatal) =
          (after'.errors.drop s'.errors.length).any (·.cause.isFatal) := by
        have hany := congrArg (fun list => list.any fun error => error.1.isFatal) hreasons
        simpa only [List.any_map, Function.comp_def, Diagnostic.substance] using hany
      dsimp only
      rw [← hfatal, ← hs.opened, ← hstate.opened]
      split
      · exact .failed hstate
      have hskip := skipClosers_sameButEnd (after.opened.length - s.opened.length) hstate.unread
        hstate
      generalize skipClosers _ after.unread after = skipped at hskip
      generalize skipClosers _ after'.unread after' = skipped' at hskip
      cases hskip with
      | done _ hpassed =>
          refine .done kind.empty ⟨hpassed.unread, ?_, hpassed.depth, ?_, hpassed.source⟩
          · simp only [Reading.discard, hpassed.opened]
          · simp only [Reading.discard, List.map_take, hpassed.errors, hlength]
      | failed hpassed => exact .failed hpassed

theorem sameButEnd_argumentName : SameButEnd size argumentName argumentName :=
  sameButEnd_expectName.bind fun found _ => sameButEnd_pure found.1

theorem consumes_objectKey : Consumes 1 objectKey := by
  intro s
  refine (takes_objectKey 0 s).leaves ?_
  rintro name tokens ⟨token, rfl, -⟩
  exact Nat.le_refl 1

theorem sameButEnd_objectKey : SameButEnd size objectKey objectKey := by
  intro s s' hs hle
  have hname := sameButEnd_argumentName s s' hs hle
  rcases hs.unread_cases with ⟨hunread, hunread'⟩ | ⟨finish, hfinish, hunread, hunread'⟩ |
    ⟨token, rest, rest', hunread, hunread', -⟩
  · simp only [objectKey, Reading.next?_of_nil hunread, Reading.next?_of_nil hunread']
    exact .failed (hs.record (hs.substance_wrongNext ["name"]))
  · have hwrong : objectKey s' = .failed (s'.record (s'.wrongNext ["name"])) := by
      rw [objectKey_of_ne_string hunread' (by simp [hfinish]), argumentName,
        bind_of_failed (expectName_of_none hunread' (by rw [hfinish]; rfl))]
    rw [hwrong]
    simp only [objectKey, Reading.next?_of_nil hunread]
    exact .failed (hs.record (hs.substance_wrongNext ["name"]))
  · simp only [objectKey, Reading.next?_of_unread hunread, Reading.next?_of_unread hunread']
    cases token.kind with
    | string content =>
        exact sameButEnd_stringLiteral token content _ _ hs.advance (Nat.le_refl _)
    | _ => exact hname

section Inside

variable {inner inner' : Rule ArgValue} (hinner : SameButEnd size inner inner')
variable (htaken : Consumes 1 inner)

include hinner htaken

theorem sameButEnd_entries (closing : Punctuator) (delimiter : Delimiter) {key : Rule String}
    (hkey : ∀ size, SameButEnd size key key) (hkeyTaken : Consumes 1 key) {left limit limit' : Nat}
    (hleft : left ≤ size) (hlimit : left < limit) (hlimit' : left < limit') (before : Arguments) :
    SameButEnd left (entries closing delimiter key inner limit before)
      (entries closing delimiter key inner' limit' before) := by
  -- each entry takes tokens, so the tokens are spent before the limits are
  induction limit generalizing left limit' before with
  | zero => omega
  | succ limit ih =>
      obtain ⟨limit', rfl⟩ := Nat.exists_eq_add_one_of_ne_zero (by omega : limit' ≠ 0)
      rw [entries, entries]
      refine .nextIs_bind closing fun closed => ?_
      cases closed with
      | true => exact sameButEnd_pure before
      | false =>
          refine .atEnd_bind (sameButEnd_refuseUnclosed delimiter) fun hpos => ?_
          refine (hkey left).bind_of_consumes hkeyTaken fun name => ?_
          refine (sameButEnd_expect .colon).bind_of_consumes (consumes_expect .colon) fun _ => ?_
          refine (hinner.anti (by omega)).bind_of_consumes htaken fun found => ?_
          exact ih (by omega) (by omega) (by omega) _

theorem sameButEnd_items {left limit limit' : Nat} (hleft : left ≤ size) (hlimit : left < limit)
    (hlimit' : left < limit') : SameButEnd left (items inner limit) (items inner' limit') := by
  induction limit generalizing left limit' with
  | zero => omega
  | succ limit ih =>
      obtain ⟨limit', rfl⟩ := Nat.exists_eq_add_one_of_ne_zero (by omega : limit' ≠ 0)
      rw [items, items]
      refine .nextIs_bind .closeBracket fun closed => ?_
      cases closed with
      | true => exact sameButEnd_pure []
      | false =>
          refine .atEnd_bind (sameButEnd_refuseUnclosed .bracket) fun hpos => ?_
          refine (hinner.anti hleft).bind_of_consumes htaken fun first => ?_
          exact (ih (by omega) (by omega) (by omega)).bind fun more _ =>
            sameButEnd_pure (first :: more)

theorem sameButEnd_objectBody :
    SameButEnd (size + 1) (objectBody inner) (objectBody inner') := by
  refine (sameButEnd_openGroup .openBrace .objectValue).bind_of_consumes
    (consumes_openGroup .openBrace .objectValue) fun _ => ?_
  refine (sameButEnd_atSize fun left hleft limit limit' hlimit hlimit' =>
    sameButEnd_entries hinner htaken .closeBrace .brace (fun _ => sameButEnd_objectKey)
      consumes_objectKey hleft hlimit hlimit' []).bind fun found _ => ?_
  exact (sameButEnd_closeGroup .closeBrace).bind fun _ _ => sameButEnd_pure _

theorem sameButEnd_listBody : SameButEnd (size + 1) (listBody inner) (listBody inner') := by
  refine (sameButEnd_openGroup .openBracket .listValue).bind_of_consumes
    (consumes_openGroup .openBracket .listValue) fun _ => ?_
  refine (sameButEnd_atSize fun left hleft limit limit' hlimit hlimit' =>
    sameButEnd_items hinner htaken hleft hlimit hlimit').bind fun found _ => ?_
  exact (sameButEnd_closeGroup .closeBracket).bind fun _ _ => sameButEnd_pure _

end Inside

/-- A value that begins with a given token. -/
theorem sameButEnd_valueAt {inner inner' : Rule ArgValue} (hinner : SameButEnd size inner inner')
    (htaken : Consumes 1 inner) {s s' : Reading} (hs : s.SameButEnd s') {token : Token}
    {rest rest' : List Token} (hunread : s.unread = token :: rest)
    (hunread' : s'.unread = token :: rest') (hsize : rest.length ≤ size) :
    (valueAt inner token s).SameButEnd (valueAt inner' token s') := by
  have hle : s.unread.length ≤ size + 1 := by
    rw [hunread, List.length_cons]
    omega
  rw [valueAt, valueAt, ask_bind, ask_bind, hs.startsRun_eq hunread hunread']
  split
  · exact bareRun_sameButEnd hs hunread hunread'
  refine (?_ : SameButEnd (size + 1) _ _) s s' hs hle
  cases token.kind with
  | string content =>
      exact .taking ((sameButEnd_stringLiteral token content).bind fun text _ => sameButEnd_pure _)
  | int content | float content => exact .taking (sameButEnd_numberLiteral token content)
  | bool _ | null | name _ => exact .taking (sameButEnd_pure _)
  | punctuator mark =>
      cases mark with
      | dollar => exact .taking (sameButEnd_expectName.bind fun found _ => sameButEnd_pure _)
      | openBrace => exact sameButEnd_literal .object (sameButEnd_objectBody hinner htaken)
      | openBracket => exact sameButEnd_literal .list (sameButEnd_listBody hinner htaken)
      | _ => exact sameButEnd_refuseNext _
  | _ => exact sameButEnd_refuseNext _

theorem sameButEnd_nested {rule rule' : Rule α} {s s' : Reading} (hs : s.SameButEnd s')
    (h : (rule { s with depth := s.depth + 1 }).SameButEnd
      (rule' { s' with depth := s'.depth + 1 })) :
    (nested rule s).SameButEnd (nested rule' s') := by
  rw [nested, nested, ← hs.depth]
  split
  · rw [← hs.depth] at h
    generalize rule _ = outcome at h
    generalize rule' _ = outcome' at h
    cases h with
    | done value hstate =>
        exact .done value ⟨hstate.unread, hstate.opened, congrArg (· - 1) hstate.depth,
          hstate.errors, hstate.source⟩
    | failed hstate =>
        exact .failed ⟨hstate.unread, hstate.opened, congrArg (· - 1) hstate.depth,
          hstate.errors, hstate.source⟩
  · exact .failed (hs.record rfl)

/-- Where a value is needed the mark is no better than no token. -/
theorem valueWithin_of_finish {s : Reading} {finish : Token} (hunread : s.unread = [finish])
    (hfinish : finish.kind = .finish) (limit : Nat) :
    valueWithin (limit + 1) s = nested (refuseNext ["value"]) s := by
  rw [valueWithin_of_unread limit hunread, nested, nested, valueAt]
  have hstarts : ∀ s : Reading, s.startsRun finish = false := fun s => by
    simp only [Reading.startsRun, hfinish]
  simp only [ask_bind, hstarts, hfinish]
  rfl

theorem valueWithin_of_nil {s : Reading} (hunread : s.unread = []) (limit : Nat) :
    valueWithin limit s = nested (refuseNext ["value"]) s := by
  cases limit with
  | zero => rw [valueWithin]
  | succ limit =>
      have hnone : ({ s with depth := s.depth + 1 } : Reading).next? = none :=
        Reading.next?_of_nil hunread
      rw [valueWithin, nested, nested, ask_bind, hnone]

theorem sameButEnd_valueWithin {left limit limit' : Nat} (hlimit : left < limit)
    (hlimit' : left < limit') :
    SameButEnd left (valueWithin limit) (valueWithin limit') := by
  -- the token that a value begins with is not among those that are left for its parts
  induction limit generalizing left limit' with
  | zero => omega
  | succ limit ih =>
      obtain ⟨limit', rfl⟩ := Nat.exists_eq_add_one_of_ne_zero (by omega : limit' ≠ 0)
      intro s s' hs hle
      have hdeeper : ({ s with depth := s.depth + 1 } : Reading).SameButEnd
          { s' with depth := s'.depth + 1 } :=
        ⟨hs.unread, hs.opened, congrArg (· + 1) hs.depth, hs.errors, hs.source⟩
      have hwrong := sameButEnd_nested hs (sameButEnd_refuseNext (α := ArgValue) ["value"] _ _ hdeeper
        (Nat.le_refl _))
      rcases hs.unread_cases with ⟨hunread, hunread'⟩ | ⟨finish, hfinish, hunread, hunread'⟩ |
        ⟨token, rest, rest', hunread, hunread', -⟩
      · rwa [valueWithin_of_nil hunread, valueWithin_of_nil hunread']
      · rwa [valueWithin_of_nil hunread, valueWithin_of_finish hunread' hfinish]
      · rw [hunread, List.length_cons] at hle
        rw [valueWithin_of_unread limit hunread, valueWithin_of_unread limit' hunread']
        exact sameButEnd_nested hs (sameButEnd_valueAt (ih (by omega) (by omega))
          (consumes_valueWithin limit) hdeeper hunread hunread' (Nat.le_refl _))

theorem sameButEnd_value : SameButEnd size value value :=
  sameButEnd_atSize fun _ _ _ _ hlimit hlimit' => sameButEnd_valueWithin hlimit hlimit'

theorem consumes_value : Consumes 1 value :=
  fun s => consumes_valueWithin (s.unread.length + 1) s

/-! ### Arguments -/

theorem consumes_argumentName : Consumes 1 argumentName :=
  (consumes_expectName.bind fun found => consumes_pure found.1)

theorem sameButEnd_argumentList : SameButEnd size argumentList argumentList := by
  refine (sameButEnd_openGroup .openParen .fieldArguments).bind fun _ _ => ?_
  refine (sameButEnd_atSize fun left hleft limit limit' hlimit hlimit' =>
    sameButEnd_entries sameButEnd_value consumes_value .closeParen .paren
      (fun _ => sameButEnd_argumentName) consumes_argumentName hleft hlimit hlimit' []).bind
        fun found _ => ?_
  exact (sameButEnd_closeGroup .closeParen).bind fun _ _ => sameButEnd_pure found

theorem sameButEnd_looseArguments {left limit limit' : Nat} (hlimit : left < limit)
    (hlimit' : left < limit') (before : Arguments) :
    SameButEnd left (looseArguments limit before) (looseArguments limit' before) := by
  induction limit generalizing left limit' before with
  | zero => omega
  | succ limit ih =>
      obtain ⟨limit', rfl⟩ := Nat.exists_eq_add_one_of_ne_zero (by omega : limit' ≠ 0)
      rw [looseArguments, looseArguments]
      refine .atEnd_bind (sameButEnd_pure before) fun hpos => ?_
      refine sameButEnd_argumentName.bind_of_consumes consumes_argumentName fun name => ?_
      refine (sameButEnd_expect .colon).bind_of_consumes (consumes_expect .colon) fun _ => ?_
      refine sameButEnd_value.bind_of_consumes consumes_value fun found => ?_
      exact ih (by omega) (by omega) _

theorem sameButEnd_argumentFragment :
    SameButEnd size argumentFragment argumentFragment := by
  refine .nextIs_bind .openParen fun opened => ?_
  cases opened with
  | true => exact sameButEnd_argumentList
  | false =>
      exact sameButEnd_atSize fun _ _ _ _ hlimit hlimit' =>
        sameButEnd_looseArguments hlimit hlimit' []

/-! ### Operations -/

theorem sameButEnd_noDirective : SameButEnd size noDirective noDirective := by
  refine .nextIs_bind .at fun found => ?_
  cases found with
  | true => exact sameButEnd_refuseConstruct .directives
  | false => exact sameButEnd_pure ()

/-- A group that may be absent, and then a rule that comes to the same. -/
theorem sameButEnd_optionalGroup (opening closing : Punctuator) (enclosure : Enclosure)
    {next : Rule α} (h : ∀ size, SameButEnd size next next) :
    SameButEnd size
      (do
        if ← nextIs opening then passGroup opening closing enclosure
        next : Rule α)
      (do
        if ← nextIs opening then passGroup opening closing enclosure
        next : Rule α) := by
  refine .nextIs_bind opening fun found => ?_
  cases found with
  | true => exact (sameButEnd_passGroup opening closing enclosure).bind fun _ => h
  | false => exact h size

theorem sameButEnd_field : SameButEnd size field field := by
  have harguments : ∀ size, SameButEnd size
      (do if ← nextIs .openParen then argumentList else return [] : Rule Arguments)
      (do if ← nextIs .openParen then argumentList else return []) := by
    intro size
    refine .nextIs_bind .openParen fun opened => ?_
    cases opened with
    | true => exact sameButEnd_argumentList
    | false => exact sameButEnd_pure []
  rw [field]
  refine sameButEnd_expectName.bind fun found size => ?_
  refine .nextIs_bind .colon fun aliased => ?_
  cases aliased with
  | true => exact sameButEnd_refuse fun _ _ _ => rfl
  | false =>
      refine (harguments size).bind fun arguments size => ?_
      refine sameButEnd_noDirective.bind fun _ size => ?_
      exact sameButEnd_optionalGroup .openBrace .closeBrace .selectionSet fun size =>
        sameButEnd_pure _

theorem sameButEnd_fields {left limit limit' : Nat} (hlimit : left < limit)
    (hlimit' : left < limit') : SameButEnd left (fields limit) (fields limit') := by
  induction limit generalizing left limit' with
  | zero => omega
  | succ limit ih =>
      obtain ⟨limit', rfl⟩ := Nat.exists_eq_add_one_of_ne_zero (by omega : limit' ≠ 0)
      rw [fields, fields]
      refine .nextKind_bind rfl (sameButEnd_refuseUnclosed .brace) fun kind hpos => ?_
      split
      · exact sameButEnd_pure []
      · exact sameButEnd_refuseUnclosed .brace
      · exact sameButEnd_refuseUnclosed .brace
      · exact sameButEnd_refuseConstruct .fragments
      · refine sameButEnd_field.bind_of_consumes consumes_field fun first => ?_
        exact (ih (by omega) (by omega)).bind fun more _ => sameButEnd_pure (first :: more)

theorem sameButEnd_operationBody : SameButEnd size operationBody operationBody := by
  refine (sameButEnd_openGroup .openBrace .operationBody).bind fun opening _ => ?_
  refine (sameButEnd_atSize fun _ _ _ _ hlimit hlimit' =>
    sameButEnd_fields hlimit hlimit').bind fun found _ => ?_
  refine (sameButEnd_closeGroup .closeBrace).bind fun closing _ => ?_
  split
  · exact sameButEnd_refuse fun _ _ _ => rfl
  · exact sameButEnd_pure found

theorem sameButEnd_optionalName : SameButEnd size
    (do
      if (← ask (·.nextKind?)).bind (·.asName?) |>.isSome then return some (← expectName).1
      else return none : Rule (Option String))
    (do
      if (← ask (·.nextKind?)).bind (·.asName?) |>.isSome then return some (← expectName).1
      else return none) := by
  refine .nextKind_bind rfl (sameButEnd_pure none) fun kind _ => ?_
  split
  · exact sameButEnd_expectName.bind fun found _ => sameButEnd_pure (some found.1)
  · exact sameButEnd_pure none

theorem sameButEnd_operationHead : SameButEnd size operationHead operationHead := by
  refine .nextKind_bind rfl (sameButEnd_pure (OperationType.query, none)) fun kind _ => ?_
  split
  · split
    · refine .taking (sameButEnd_optionalName.bind fun name _ => ?_)
      refine sameButEnd_optionalGroup .openParen .closeParen .variableDefinitions fun size => ?_
      exact sameButEnd_noDirective.bind fun _ _ => sameButEnd_pure _
    · split
      · exact sameButEnd_refuseConstruct .fragments
      · exact sameButEnd_refuseNext _
  · exact sameButEnd_pure (OperationType.query, none)

theorem sameButEnd_operation : SameButEnd size operation operation := by
  refine sameButEnd_operationHead.bind fun head _ => ?_
  refine sameButEnd_operationBody.bind fun found _ => ?_
  exact fun _ _ hs _ => .done _ (hs.observe _ _)

/-! ### Whole documents -/

/-- What a rule makes of a document is the same with and without a mark of the end. -/
theorem SameButEnd.run_whole {rule : Rule α} (h : ∀ size, SameButEnd size rule rule) {s s' : Reading}
    (hs : s.SameButEnd s') :
    ((whole rule).run s).1.mapError Diagnostic.substance =
      ((whole rule).run s').1.mapError Diagnostic.substance := by
  have houtcome : ((whole rule) s).SameButEnd ((whole rule) s') :=
    (h s.unread.length).bind (fun value _ => sameButEnd_endOfDocument.bind fun _ _ =>
      sameButEnd_pure value) s s' hs (Nat.le_refl _)
  generalize hrule : whole rule s = outcome at houtcome
  generalize hrule' : whole rule s' = outcome' at houtcome
  cases houtcome with
  | done value hstate =>
      rw [mapError_run_of_done _ hrule, mapError_run_of_done _ hrule', hstate.errors]
  | failed hstate =>
      rw [mapError_run_of_failed _ hrule, mapError_run_of_failed _ hrule', hstate.errors]
      rfl

end Rule

/-- Whether the tokens of a document or an argument fragment end with a mark, wherever it stands, or
just end makes no difference to the value, or to the cause of the error and its notes. -/
theorem readTokens_concat_finish (source : Option (List Char)) (tokens : List Token) (place : Span) :
    (Operation.readTokens source (tokens ++ [⟨.finish, place⟩])).1.mapError Diagnostic.substance =
        (Operation.readTokens source tokens).1.mapError Diagnostic.substance ∧
      (Arguments.readTokens source (tokens ++ [⟨.finish, place⟩])).mapError Diagnostic.substance =
        (Arguments.readTokens source tokens).mapError Diagnostic.substance := by
  have hstart : (Reading.start source tokens).SameButEnd
      (Reading.start source (tokens ++ [⟨.finish, place⟩])) := .start source (.concat tokens rfl)
  constructor
  · exact (Rule.SameButEnd.run_whole (fun _ => Rule.sameButEnd_operation) hstart).symm
  · exact (Rule.SameButEnd.run_whole (fun _ => Rule.sameButEnd_argumentFragment) hstart).symm

end CompletionGateway
