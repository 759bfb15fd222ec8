import Mathlib.Data.List.TakeWhile
import CompletionGateway.Proofs.Operation.DocumentSite
import CompletionGateway.Proofs.Token.Placement

/-!
# The places of errors

Every place that an error names exists in the text, and its line and column are those of its offset.
An error about a group that is not closed has one note, which points at the bracket that opened the
group and says what kind of group it is.

Errors about the end of a document lie where its last token ends.  The one exception are groups that
are passed, the variable definitions and the selection sets: these are passed up to the very end of
the text, over the trivia behind the last token, and that is where the error lies.
-/

namespace CompletionGateway

/-- The span covers a piece of the text, and both its ends have the lines and columns of their
offsets. -/
structure Span.IsIn (text : List Char) (span : Span) : Prop where
  ordered : span.start.offset ≤ span.stop.offset
  covers : ∃ before covered behind, text = before ++ covered ++ behind ∧
    span.start.offset = Text.byteLength before ∧
      span.stop.offset = Text.byteLength (before ++ covered) ∧ span.textIn? text = some covered
  start : span.start.Counts text
  stop : span.stop.Counts text

/-- The places of an error in a text that stands inside some groups. -/
structure Diagnostic.Located (base : List Enclosure) (text : List Char) (error : Diagnostic) :
    Prop where
  span : error.span.IsIn text
  notes : ∀ note ∈ error.notes, ∀ span ∈ note.span, span.IsIn text
  /-- The note of a group that is not closed covers the bracket that opened the group. -/
  opened : ∀ delimiter, error.cause = .unclosedDelimiter delimiter →
    ∃ before token behind construct, Token.list text = before ++ token :: behind ∧
      token.kind = .punctuator delimiter.opening ∧
        token.span.textIn? text = some delimiter.spelling.toList ∧
          token.span.stop.offset ≤ error.span.start.offset ∧
            Enclosure.opened? (Enclosure.around base before) delimiter.opening = some construct ∧
              error.notes = [.explainAt
                s!"opening `{delimiter.spelling}` in {construct.title} here" token.span]

namespace Span

/-- What a cursor walks over is what the span covers. -/
theorem textIn?_walk (front covered behind : List Char) :
    textIn? ⟨(Cursor.start.walk front).position, (Cursor.start.walk (front ++ covered)).position⟩
      (front ++ covered ++ behind) = some covered := by
  rw [textIn?, Token.offset_walk_start, Token.offset_walk_start, Text.byteLength_append]
  exact Text.slice_append front covered behind

variable {text : List Char} {span : Span}

theorem Walked.isIn (h : span.Walked text) : span.IsIn text := by
  have hcounts := h.counts
  obtain ⟨front, covered, behind, rfl, -, -, rfl⟩ := h
  have hstart := Token.offset_walk_start front
  have hstop := Token.offset_walk_start (front ++ covered)
  refine ⟨?_, ⟨front, covered, behind, rfl, hstart, hstop, textIn?_walk front covered behind⟩,
    hcounts.1, hcounts.2⟩
  rw [hstart, hstop, Text.byteLength_append]
  omega

theorem Walked.emptyAt_start (h : span.Walked text) : (emptyAt span.start).Walked text := by
  obtain ⟨front, covered, behind, rfl, hstart, -, rfl⟩ := h
  refine ⟨front, [], covered ++ behind, by simp, by simpa using hstart, by simpa using hstart, ?_⟩
  rw [List.append_nil]
  rfl

theorem Walked.emptyAt_stop (h : span.Walked text) : (emptyAt span.stop).Walked text := by
  obtain ⟨front, covered, behind, rfl, -, hstop, rfl⟩ := h
  refine ⟨front ++ covered, [], behind, by simp, by simpa using hstop, by simpa using hstop, ?_⟩
  rw [List.append_nil]
  rfl

theorem walked_origin (text : List Char) : (emptyAt .origin).Walked text :=
  ⟨[], [], text, rfl, by simp [Text.Cuts], by simp [Text.Cuts], rfl⟩

/-- From the beginning of one piece to the end of a later one. -/
theorem Walked.cover {last : Span} (h : span.Walked text) (h' : last.Walked text)
    (hle : span.start.offset ≤ last.stop.offset) : Walked text ⟨span.start, last.stop⟩ := by
  obtain ⟨front, covered, behind, htext, hstart, -, rfl⟩ := h
  obtain ⟨front', covered', behind', htext', -, hstop, rfl⟩ := h'
  simp only [Token.offset_walk_start] at hle
  have hfront : front <+: text := ⟨covered ++ behind, by rw [htext, List.append_assoc]⟩
  obtain ⟨between, hbetween⟩ := Text.prefix_of_byteLength_le hfront ⟨behind', htext'.symm⟩ hle
  rw [← hbetween] at htext' hstop
  have hrest : covered ++ behind = between ++ behind' := by
    rw [htext', List.append_assoc, List.append_assoc] at htext
    exact (List.append_cancel_left htext).symm
  refine ⟨front, between, behind', htext', ?_, hstop, ?_⟩
  · rwa [← hrest]
  · rw [hbetween]

end Span

namespace Token

variable {text : List Char}

theorem walked_lastStop {tokens : List Token} (h : ∀ token ∈ tokens, token ∈ list text) :
    (Span.emptyAt (lastStop tokens)).Walked text := by
  rw [lastStop]
  cases hlast : tokens.getLast? with
  | none => exact Span.walked_origin text
  | some last => exact (walked_of_mem (h last (List.mem_of_getLast? hlast))).emptyAt_stop

/-- The notes that come with a faulty token point at its beginning, if they point anywhere. -/
theorem span_of_error {token : Token} (h : token ∈ list text) {message : String} {notes : List Note}
    (hkind : token.kind = .error message notes) :
    ∀ note ∈ notes, ∀ span ∈ note.span, span = .emptyAt token.span.start := by
  obtain ⟨before, c, rest, horigin⟩ := exists_origin h (by simp [hkind])
  rw [horigin.kind, Lexeme.kindAt] at hkind
  split at hkind
  · rename_i kind hcontent
    have herror := (Lexeme.kind_of_content hcontent).1
    rw [hkind] at herror
    cases herror
  · rename_i fault hcontent
    obtain ⟨-, rfl⟩ := TokenKind.error.inj hkind
    exact fault.span_of_mem_notes token.span.start

/-- A token ends no later than the tokens up to another one behind it. -/
theorem stop_le_lastStop {outer inside rest : List Token} {token : Token}
    (h : list text = outer ++ token :: inside ++ rest) :
    token.span.stop.offset ≤ (lastStop (outer ++ token :: inside)).offset := by
  rw [lastStop_append_cons]
  cases hlast : inside.getLast? with
  | none => exact Nat.le_refl _
  | some last =>
      have hmem := List.mem_of_getLast? hlast
      have hordered := (lexed_list text).ordered.2
      rw [h, List.append_assoc, List.pairwise_append] at hordered
      have hle := (List.pairwise_cons.1 hordered.2.1).1 last (List.mem_append_left _ hmem)
      have hwalked : last.span.Walked text := walked_of_mem (by rw [h]; simp [hmem])
      exact hle.trans hwalked.isIn.ordered

/-- The tokens before the end of a text are all but the last, which is where the text ends. -/
theorem list_eq_written (text : List Char) :
    list text = written (list text) ++ [finishAt (Cursor.start.walk text).position] := by
  obtain ⟨front, place, hlist, rfl, hfront⟩ := (lexed_list text).exists_finish
  have hsound : ∀ token ∈ front, (token.kind != .finish) = true := by simpa using hfront
  have hwritten : written (list text) = front := by
    rw [written, hlist, List.takeWhile_append_of_pos hsound]
    simp [finishAt]
  rw [hwritten, hlist]

/-- The last element of a list is the one that the list is split at, or it is behind it. -/
theorem split_concat {front before rest : List Token} {last token : Token}
    (h : front ++ [last] = before ++ token :: rest) : (rest = [] ∧ token = last ∧ front = before) ∨
      ∃ more, rest = more ++ [last] ∧ front = before ++ token :: more := by
  rcases List.eq_nil_or_concat rest with rfl | ⟨more, final, rfl⟩
  · obtain ⟨hfront, hlast⟩ := List.append_inj' h rfl
    exact .inl ⟨rfl, (List.singleton_inj.1 hlast).symm, hfront⟩
  · rw [List.concat_eq_append, ← List.cons_append, ← List.append_assoc] at h
    obtain ⟨hfront, hlast⟩ := List.append_inj' h rfl
    exact .inr ⟨more, by rw [List.concat_eq_append, hlast], hfront⟩

/-- Tokens up to a mark of the end are all tokens. -/
theorem eq_nil_of_finish {front rest : List Token} {last : Token}
    (h : list text = front ++ last :: rest) (hlast : last.kind = .finish) : rest = [] := by
  rcases split_concat ((list_eq_written text).symm.trans h) with ⟨hnil, -⟩ | ⟨more, -, hwritten⟩
  · exact hnil
  · have hmem : last ∈ written (list text) := by
      rw [hwritten]
      simp
    have hsound := List.mem_takeWhile_imp hmem
    simp [hlast] at hsound

end Token

/-- The mark of the end opens no group. -/
theorem OpenGroup.Stands.of_concat {group : OpenGroup} {base : List Enclosure} {front : List Token}
    {last : Token} (h : group.Stands base (front ++ [last])) (hlast : last.kind = .finish) :
    group.Stands base front := by
  obtain ⟨outer, token, inside, hsplit, hspan, hkind, hopened⟩ := h
  rcases Token.split_concat hsplit with ⟨-, rfl, -⟩ | ⟨more, -, hfront⟩
  · rw [hlast] at hkind
    cases hkind
  · exact ⟨outer, token, more, hfront, hspan, hkind, hopened⟩

namespace Diagnostic

variable {base : List Enclosure} {text : List Char} {error : Diagnostic}

/-- Every place that an error names is passed by a cursor that walks over the text. -/
theorem Sited.walked (h : error.Sited base (Token.list text)) :
    error.span.Walked text ∧ ∀ note ∈ error.notes, ∀ span ∈ note.span, span.Walked text := by
  have hwritten : ∀ token ∈ Token.written (Token.list text), token ∈ Token.list text :=
    fun token htoken => (List.takeWhile_sublist _).mem htoken
  -- the bracket that an error about an open group points at
  have hbracket : ∀ {group : OpenGroup} {tokens : List Token} (place : Position),
      group.Stands base tokens → (∀ token ∈ tokens, token ∈ Token.list text) →
        ∀ note ∈ (Diagnostic.unclosed group place).notes, ∀ span ∈ note.span, span.Walked text := by
    rintro group _ place ⟨outer, token, inside, rfl, hspan, -⟩ hmem note hnote span hnoteSpan
    obtain rfl := List.mem_singleton.1 hnote
    obtain rfl := Option.some.inj hnoteSpan
    rw [hspan]
    exact Token.walked_of_mem (hmem token (by simp))
  cases h with
  | atToken hmem _ hnotes =>
      refine ⟨Token.walked_of_mem hmem, fun note hnote span hspan => ?_⟩
      rw [hnotes note hnote] at hspan
      cases hspan
  | lexical hmem hkind =>
      have hwalked := Token.walked_of_mem hmem
      refine ⟨hwalked, fun note hnote span hspan => ?_⟩
      rw [Token.span_of_error hmem hkind note hnote span hspan]
      exact hwalked.emptyAt_start
  | @emptySelection before inside behind first last hsplit =>
      have hfirst : first.span.Walked text := Token.walked_of_mem (by rw [hsplit]; simp)
      have hlast : last.span.Walked text := Token.walked_of_mem (by rw [hsplit]; simp)
      refine ⟨hfirst.cover hlast ?_, by simp [Diagnostic.emptySelection]⟩
      have hordered := (Token.lexed_list text).ordered.2
      rw [hsplit, List.pairwise_append] at hordered
      have hle := (List.pairwise_cons.1 hordered.2.1).1 last (by simp)
      exact hfirst.isIn.ordered.trans (hle.trans hlast.isIn.ordered)
  | atEnd => exact ⟨Token.walked_lastStop hwritten, by simp⟩
  | unclosed hstands => exact ⟨Token.walked_lastStop hwritten, hbracket _ hstands hwritten⟩
  | passed _ hsplit hstands =>
      have hpassed : ∀ token ∈ _, token ∈ Token.list text := fun token htoken => by
        rw [hsplit]
        exact List.mem_append_left _ htoken
      exact ⟨Token.walked_lastStop hpassed, hbracket _ hstands hpassed⟩

/-- An error about an open group lies behind the last token before the end or, if the group is passed,
at the end of the text. -/
theorem Sited.exists_group (h : error.Sited base (Token.list text)) {delimiter : Delimiter}
    (hcause : error.cause = .unclosedDelimiter delimiter) :
    ∃ group : OpenGroup, group.enclosure.delimiter = delimiter ∧
      group.Stands base (Token.written (Token.list text)) ∧
        (group.enclosure.isPassed = true → base = []) ∧
          error = .unclosed group (if group.enclosure.isPassed then (Cursor.start.walk text).position
            else Token.lastStop (Token.written (Token.list text))) := by
  cases h with
  | atToken _ hnot =>
      obtain rfl : _ = Cause.unclosedDelimiter delimiter := hcause
      cases hnot
  | lexical | emptySelection => cases hcause
  | atEnd hnot => exact absurd hcause (hnot delimiter)
  | @unclosed group hstands hpassed =>
      refine ⟨group, Cause.unclosedDelimiter.inj hcause, hstands, ?_, ?_⟩
      · simp [hpassed]
      · rw [hpassed]
        rfl
  | @passed group passed rest hbase hsplit hstands hpassed hend =>
      have hall : Token.list text = passed := by
        rcases hend with rfl | ⟨last, hlast, hfinish⟩
        · rw [hsplit, List.append_nil]
        · obtain ⟨front, rfl⟩ := List.getLast?_eq_some_iff.1 hlast
          have hnil : rest = [] :=
            Token.eq_nil_of_finish (hsplit.trans (List.append_assoc _ _ _)) hfinish
          rw [hsplit, hnil, List.append_nil]
      rw [← hall, Token.list_eq_written text] at hstands
      refine ⟨group, Cause.unclosedDelimiter.inj hcause, hstands.of_concat rfl, fun _ => hbase, ?_⟩
      rw [hpassed, ← hall, Token.list_eq_written text, Token.lastStop_concat]
      rfl

/-- Errors that are not about an open group lie at a token or behind the last one before the end. -/
theorem Sited.span_of_unexpectedEnd (h : error.Sited base (Token.list text)) {expected : List String}
    (hcause : error.cause = .unexpectedEnd expected) :
    error.span = .emptyAt (Token.lastStop (Token.written (Token.list text))) := by
  cases h with
  | atToken _ hnot =>
      obtain rfl : _ = Cause.unexpectedEnd expected := hcause
      cases hnot
  | lexical | emptySelection | unclosed | passed => cases hcause
  | atEnd => rfl

theorem Sited.located (h : error.Sited base (Token.list text)) : error.Located base text := by
  obtain ⟨hspan, hnotes⟩ := h.walked
  refine ⟨hspan.isIn, fun note hnote span hmem => (hnotes note hnote span hmem).isIn, ?_⟩
  intro delimiter hcause
  obtain ⟨group, rfl, ⟨outer, token, inside, hsplit, hplace, hkind, hopened⟩, -, herror⟩ :=
    h.exists_group hcause
  have hlist := Token.list_eq_written text
  rw [hsplit] at hlist
  have hmem : token ∈ Token.list text := by rw [hlist]; simp
  have hspelling : group.enclosure.delimiter.spelling.toList ∈ token.kind.written? := by
    rw [hkind]
    cases group.enclosure.delimiter <;> rfl
  refine ⟨outer, token, inside ++ [Token.finishAt (Cursor.start.walk text).position],
    group.enclosure, by rw [hlist]; simp, hkind, ?_, ?_, hopened, ?_⟩
  · obtain ⟨before, covered, behind, rfl, hstart, hstop, -, hspelled⟩ := Token.exists_covered hmem
    rw [Span.textIn?, hstart, hstop, Text.byteLength_append, ← hspelled _ hspelling]
    exact Text.slice_append before covered behind
  · -- the bracket stands before the end, and so does the token that the error lies behind
    have hwritten := Token.stop_le_lastStop hlist
    have hend : Token.list text = outer ++ token ::
        (inside ++ [Token.finishAt (Cursor.start.walk text).position]) ++ [] := by rw [hlist]; simp
    have hall := Token.stop_le_lastStop hend
    rw [← List.cons_append, ← List.append_assoc, Token.lastStop_concat] at hall
    rw [herror]
    simp only [Diagnostic.unclosed, Span.emptyAt, hsplit]
    split
    · exact hall
    · exact hwritten
  · rw [herror, ← hplace]
    rfl

end Diagnostic

/-! ### Documents and argument fragments -/

/-- All places in the errors of a text exist, and the note on a group that is not closed points at the
bracket that opened the group.  The text is a document, or it stands inside the arguments of a
field. -/
theorem error_located (text : List Char) (error : Diagnostic) :
    (Operation.parse text = .error error → error.Located [] text) ∧
      (Arguments.parse text = .error error → error.Located [.fieldArguments] text) :=
  ⟨fun h => (Operation.sited_of_parse h).located, fun h => (Arguments.sited_of_parse h).located⟩

/-- The error of a text that is not read. -/
def Diagnostic.reported? {α : Type} : Except Diagnostic α → Option Diagnostic
  | .ok _ => none
  | .error error => some error

theorem Diagnostic.eq_error_of_reported? {α : Type} {result : Except Diagnostic α}
    {error : Diagnostic} (h : reported? result = some error) : result = .error error := by
  cases result with
  | ok value => cases h
  | error found => rw [Option.some.inj h]

/-- A list in an object, behind a wide character and a line end of two, in a document and in an
argument fragment. -/
theorem error_located_openList :
    let fragment :=
      ['s', ':', '\'', 'é', '\'', 'x', ':', '{', '\r', '\n', 'y', ':', '[', 'z', ' ', '#']
    let document := ['{', 'f', '('] ++ fragment
    ∃ error error', Operation.parse document = .error error ∧ error.Located [] document ∧
      Arguments.parse fragment = .error error' ∧ error'.Located [.fieldArguments] fragment ∧
        error.cause = .unclosedDelimiter .bracket ∧ error'.cause = .unclosedDelimiter .bracket := by
  intro fragment document
  have hdocument : Operation.parse document = .error (.unclosed
      ⟨.listValue, ⟨1, 2, 16⟩, ⟨1, 3, 17⟩⟩ ⟨1, 4, 18⟩) :=
    Diagnostic.eq_error_of_reported? (by decide +kernel)
  have hfragment : Arguments.parse fragment = .error (.unclosed
      ⟨.listValue, ⟨1, 2, 13⟩, ⟨1, 3, 14⟩⟩ ⟨1, 4, 15⟩) :=
    Diagnostic.eq_error_of_reported? (by decide +kernel)
  exact ⟨_, _, hdocument, (error_located document _).1 hdocument, hfragment,
    (error_located fragment _).2 hfragment, rfl, rfl⟩

/-- Errors about the end lie where the last token before the end of the text ends, or at the beginning
if there is none.  Only the error about a group that is passed lies at the end of the text. -/
theorem endError_span (text : List Char) (error : Diagnostic) :
    (Arguments.parse text = .error error → error.cause.isAboutEnd = true →
      error.span = .emptyAt (Token.lastStop (Token.written (Token.list text)))) ∧
    (Operation.parse text = .error error →
      (∀ expected, error.cause = .unexpectedEnd expected →
        error.span = .emptyAt (Token.lastStop (Token.written (Token.list text)))) ∧
      ∀ delimiter, error.cause = .unclosedDelimiter delimiter → ∃ group : OpenGroup,
        group.enclosure.delimiter = delimiter ∧
        group.Stands [] (Token.written (Token.list text)) ∧
        error = .unclosed group (if group.enclosure.isPassed then (Cursor.start.walk text).position
          else Token.lastStop (Token.written (Token.list text)))) := by
  constructor
  · intro herror hend
    have hsited := Arguments.sited_of_parse herror
    cases hcause : error.cause with
    | unexpectedEnd expected => exact hsited.span_of_unexpectedEnd hcause
    | unclosedDelimiter delimiter =>
        obtain ⟨group, -, -, hpassed, hgroup⟩ := hsited.exists_group hcause
        have hplain : group.enclosure.isPassed = false := by simpa using hpassed
        rw [hgroup, hplain]
        rfl
    | _ => simp [hcause, Cause.isAboutEnd] at hend
  · intro herror
    have hsited := Operation.sited_of_parse herror
    refine ⟨fun expected => hsited.span_of_unexpectedEnd, fun delimiter hcause => ?_⟩
    obtain ⟨group, hdelimiter, hstands, -, hgroup⟩ := hsited.exists_group hcause
    exact ⟨group, hdelimiter, hstands, hgroup⟩

/-- A comment behind the last token of an operation and of an argument. -/
theorem endError_span_beforeComment :
    let document := ['{', 'a', '(', 'x', ':', '1', ')', ' ', '#', 'c']
    let fragment := ['x', ':', '\n', '#', 'c']
    ∃ error error', Operation.parse document = .error error ∧
      Arguments.parse fragment = .error error' ∧
      (∃ group : OpenGroup, group.enclosure.delimiter = .brace ∧
        error = .unclosed group (if group.enclosure.isPassed then ⟨0, 10, 10⟩ else ⟨0, 7, 7⟩)) ∧
      error'.cause = .unexpectedEnd ["value"] ∧ error'.span = .emptyAt ⟨0, 2, 2⟩ := by
  intro document fragment
  have hdocument : Operation.parse document = .error (.unclosed
      ⟨.operationBody, ⟨0, 0, 0⟩, ⟨0, 1, 1⟩⟩ ⟨0, 7, 7⟩) :=
    Diagnostic.eq_error_of_reported? (by decide +kernel)
  have hfragment : Arguments.parse fragment =
      .error (.unexpectedEnd ["value"] (.emptyAt ⟨0, 2, 2⟩)) :=
    Diagnostic.eq_error_of_reported? (by decide +kernel)
  have hend : (Cursor.start.walk document).position = ⟨0, 10, 10⟩ := by decide +kernel
  have hlast : Token.lastStop (Token.written (Token.list document)) = ⟨0, 7, 7⟩ := by decide +kernel
  have hlast' : Token.lastStop (Token.written (Token.list fragment)) = ⟨0, 2, 2⟩ := by decide +kernel
  obtain ⟨group, hdelimiter, -, hgroup⟩ := ((endError_span document _).2 hdocument).2 .brace rfl
  have hspan := (endError_span fragment _).1 hfragment rfl
  rw [hend, hlast] at hgroup
  rw [hlast'] at hspan
  exact ⟨_, _, hdocument, hfragment, ⟨group, hdelimiter, hgroup⟩, rfl, hspan⟩

/-- The error about a selection set lies behind the blanks that follow its last token. -/
theorem Operation.parse_openSelection :
    let text := ['{', ' ', 'a', ' ', '{', ' ', 'b', ' ', ' ', ' ']
    Token.lastStop (Token.written (Token.list text)) = ⟨0, 7, 7⟩ ∧
      ∃ error, parse text = .error error ∧ error.cause = .unclosedDelimiter .brace ∧
        error.span = .emptyAt ⟨0, 10, 10⟩ := by
  intro text
  have hparse : parse text = .error (.unclosed ⟨.selectionSet, ⟨0, 4, 4⟩, ⟨0, 5, 5⟩⟩ ⟨0, 10, 10⟩) :=
    Diagnostic.eq_error_of_reported? (by decide +kernel)
  exact ⟨by decide +kernel, _, hparse, rfl, rfl⟩

end CompletionGateway
