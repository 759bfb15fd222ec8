import CompletionGateway.Proofs.Operation.Enclosing
import CompletionGateway.Proofs.Operation.Parallel

/-!
# Where errors lie

An error lies at a token, or behind the last token before the end of the document.  An error about a
group that is not closed also points at the bracket that opened the group.  There is one exception:
a group that is passed is passed with the mark of the end, so the error lies where the mark does.

The invariant says where the reader stands.  The taken tokens are a front of the document without a
mark of the end; the place for errors is where the last of them ends; and the groups on the stack are
the ones that enclose the next token, each with the place of the bracket that opened it.
-/

namespace CompletionGateway

namespace Token

/-- Where the last of some tokens ends. -/
def lastStop (tokens : List Token) : Position := (tokens.getLast?.map (·.span.stop)).getD .origin

/-- The tokens before the end of a document. -/
def written (tokens : List Token) : List Token := tokens.takeWhile (·.kind != .finish)

theorem lastStop_concat (front : List Token) (token : Token) :
    lastStop (front ++ [token]) = token.span.stop := by
  simp [lastStop]

end Token

/-- Whether an error of this cause is about the end of the document. -/
def Cause.isAboutEnd : Cause → Bool
  | unclosedDelimiter _ | unexpectedEnd _ => true
  | _ => false

/-- The error at a place where the document ends inside a group. -/
def Diagnostic.unclosed (group : OpenGroup) (place : Position) : Diagnostic :=
  let delimiter := group.enclosure.delimiter
  ⟨.unclosedDelimiter delimiter, s!"unclosed `{delimiter.spelling}`", .emptyAt place,
    [.explainAt s!"opening `{delimiter.spelling}` in {group.enclosure.title} here" group.span]⟩

namespace OpenGroup

/-- The groups that are open if some have been opened inside others. -/
def surroundings (base : List Enclosure) (opened : List OpenGroup) : List Enclosure :=
  opened.map (·.enclosure) ++ base

/-- One of the tokens is the bracket that opened the group. -/
def Stands (group : OpenGroup) (base : List Enclosure) (tokens : List Token) : Prop :=
  ∃ outer token inside, tokens = outer ++ token :: inside ∧ group.span = token.span ∧
    token.kind = .punctuator group.enclosure.delimiter.opening ∧
      Enclosure.opened? (Enclosure.around base outer) group.enclosure.delimiter.opening =
        some group.enclosure

theorem Stands.append {group : OpenGroup} {base : List Enclosure} {front : List Token}
    (h : group.Stands base front) (back : List Token) : group.Stands base (front ++ back) := by
  obtain ⟨outer, token, inside, rfl, htoken⟩ := h
  exact ⟨outer, token, inside ++ back, by simp, htoken⟩

end OpenGroup

/-- Where an error lies in a document with the given tokens that stands inside some groups. -/
inductive Diagnostic.Sited (base : List Enclosure) (tokens : List Token) : Diagnostic → Prop
  | atToken {token : Token} {cause : Cause} {message : String} {notes : List Note}
      (hmem : token ∈ tokens) (hcause : cause.isAboutEnd = false)
      (hnotes : ∀ note ∈ notes, note.span = none) :
      Sited base tokens ⟨cause, message, token.span, notes⟩
  /-- The notes are those that came with the token. -/
  | lexical {token : Token} {message : String} {notes : List Note} (hmem : token ∈ tokens)
      (hkind : token.kind = .error message notes) :
      Sited base tokens (.lexical message notes token.span)
  /-- The error covers the brackets. -/
  | emptySelection {before inside behind : List Token} {first last : Token}
      (hsplit : tokens = before ++ first :: (inside ++ last :: behind)) :
      Sited base tokens (.emptySelection ⟨first.span.start, last.span.stop⟩)
  | atEnd {cause : Cause} {message : String}
      (hcause : ∀ delimiter, cause ≠ .unclosedDelimiter delimiter) :
      Sited base tokens ⟨cause, message, .emptyAt (Token.lastStop (Token.written tokens)), []⟩
  | unclosed {group : OpenGroup} (hstands : group.Stands base (Token.written tokens))
      (hpassed : group.enclosure.isPassed = false) :
      Sited base tokens (.unclosed group (Token.lastStop (Token.written tokens)))
  /-- The tokens have been passed, the mark of the end included.  Arguments hold no such groups. -/
  | passed {group : OpenGroup} {passed rest : List Token} (hbase : base = [])
      (hsplit : tokens = passed ++ rest) (hstands : group.Stands base passed)
      (hpassed : group.enclosure.isPassed = true)
      (hend : rest = [] ∨ ∃ last, passed.getLast? = some last ∧ last.kind = .finish) :
      Sited base tokens (.unclosed group (Token.lastStop passed))

namespace Reading

/-- The tokens before the next one have been taken, and the open groups were opened among them. -/
structure Behind (s : Reading) (base : List Enclosure) (tokens before : List Token) : Prop where
  unread : tokens = before ++ s.unread
  sound : ∀ token ∈ before, token.kind ≠ .finish
  lastEnd : s.lastEnd = Token.lastStop before
  stands : ∀ group ∈ s.opened, group.Stands base before

/-- The open groups are the given ones, and they are what encloses the next token. -/
structure Placed (s : Reading) (base : List Enclosure) (tokens : List Token)
    (opened : List OpenGroup) : Prop where
  stack : s.opened = opened
  behind : ∃ before, s.Behind base tokens before ∧
    Enclosure.around base before = OpenGroup.surroundings base opened

/-- The state between two rules. -/
structure Fits (s : Reading) (base : List Enclosure) (tokens : List Token)
    (opened : List OpenGroup) : Prop where
  placed : s.Placed base tokens opened
  errors : s.errors = []

/-- The state behind a failure.  If values are read and no error is fatal, groups that hold values have
been opened inside the ones that were open before. -/
structure Strands (s : Reading) (base : List Enclosure) (tokens : List Token)
    (opened : List OpenGroup) : Prop where
  recorded : s.errors ≠ []
  sited : ∀ error ∈ s.errors, error.Sited base tokens
  mild : Enclosure.HoldValues (OpenGroup.surroundings base opened) →
    s.errors.any (·.cause.isFatal) = false →
      ∃ inner, (∀ group ∈ inner, group.enclosure.holdsValues = true) ∧
        s.Placed base tokens (inner ++ opened)

variable {s : Reading} {base : List Enclosure} {tokens before rest : List Token} {token : Token}
variable {opened : List OpenGroup} {enclosure : Enclosure}

theorem Fits.start (source : Option (List Char)) :
    (Reading.start source tokens).Fits base tokens [] :=
  ⟨⟨rfl, [], ⟨rfl, by simp, rfl, by simp [Reading.start]⟩, rfl⟩, rfl⟩

/-! ### Behind some tokens -/

theorem Behind.mem (h : s.Behind base tokens before) (hunread : s.unread = token :: rest) :
    token ∈ tokens := by
  rw [h.unread, hunread]
  simp

theorem Behind.advance (h : s.Behind base tokens before) (hunread : s.unread = token :: rest)
    (hfinish : token.kind ≠ .finish) : s.advance.Behind base tokens (before ++ [token]) := by
  rw [advance_of_unread hunread]
  refine ⟨?_, ?_, (Token.lastStop_concat before token).symm, fun group hgroup => ?_⟩
  · rw [h.unread, hunread]
    simp
  · simpa [or_imp, forall_and] using ⟨h.sound, hfinish⟩
  · exact (h.stands group hgroup).append [token]

/-- Where the document ends, the tokens before the end are the taken ones. -/
theorem Behind.written (h : s.Behind base tokens before) (hended : s.Ended) :
    Token.written tokens = before := by
  have hsound : ∀ token ∈ before, (token.kind != .finish) = true := fun token htoken => by
    simpa using h.sound token htoken
  rw [Token.written, h.unread, List.takeWhile_append_of_pos hsound]
  cases hunread : s.unread with
  | nil => simp
  | cons token rest =>
      have hfinish : token.kind = .finish := hended token (by simp [hunread])
      simp [hfinish]

theorem Behind.sited_unclosed (h : s.Behind base tokens before) (hended : s.Ended) {group : OpenGroup}
    (hgroup : group ∈ s.opened) (hpassed : group.enclosure.isPassed = false) :
    (Diagnostic.unclosed group s.lastEnd).Sited base tokens := by
  have hstands := h.stands group hgroup
  rw [h.lastEnd]
  rw [← h.written hended] at hstands ⊢
  exact .unclosed hstands hpassed

/-- An error at the next token, or behind the last one. -/
theorem Behind.sited_nextSpan (h : s.Behind base tokens before) {cause : Cause} {message : String}
    (hcause : cause.isAboutEnd = false) :
    Diagnostic.Sited base tokens ⟨cause, message, s.nextSpan, []⟩ := by
  cases hunread : s.unread with
  | nil =>
      have hspan : s.nextSpan = .emptyAt (Token.lastStop (Token.written tokens)) := by
        rw [nextSpan, next?_of_nil hunread, endSpan, h.lastEnd, h.written (by simp [Ended, hunread])]
        rfl
      rw [hspan]
      refine .atEnd ?_
      rintro delimiter rfl
      cases hcause
  | cons token rest =>
      have hspan : s.nextSpan = token.span := by
        rw [nextSpan, next?_of_unread hunread]
        rfl
      rw [hspan]
      exact .atToken (h.mem hunread) hcause (by simp)

theorem Behind.sited_wrongNext (h : s.Behind base tokens before) (expected : List String) :
    (s.wrongNext expected).Sited base tokens := by
  have hend : s.Ended → s.endSpan = .emptyAt (Token.lastStop (Token.written tokens)) := fun hended => by
    rw [endSpan, h.lastEnd, h.written hended]
  cases hunread : s.unread with
  | nil =>
      rw [wrongNext, next?_of_nil hunread]
      simp only [Diagnostic.missing, hend (by simp [Ended, hunread])]
      exact .atEnd (by simp)
  | cons token rest =>
      have hmem := h.mem hunread
      rw [wrongNext, next?_of_unread hunread]
      cases hkind : token.kind with
      | error message notes =>
          simp only [hkind]
          exact .lexical hmem hkind
      | finish =>
          simp only [hkind, Diagnostic.unexpectedEnd, hend (by simp [Ended, hunread, hkind])]
          exact .atEnd (by simp)
      | _ =>
          simp only [hkind]
          exact .atToken hmem rfl (by simp)

/-! ### Between two rules -/

/-- A token that begins and ends no group is taken. -/
theorem Placed.advance (h : s.Placed base tokens opened) (hunread : s.unread = token :: rest)
    (hfinish : token.kind ≠ .finish)
    (hsame : Enclosure.behind (OpenGroup.surroundings base opened) token.kind =
      OpenGroup.surroundings base opened) : s.advance.Placed base tokens opened := by
  obtain ⟨before, hbehind, haround⟩ := h.behind
  refine ⟨s.agrees_advance.opened.trans h.stack, before ++ [token],
    hbehind.advance hunread hfinish, ?_⟩
  rw [Enclosure.around_concat, haround, hsame]

/-- The bracket that opens a group is taken. -/
theorem Placed.push (h : s.Placed base tokens opened) (hunread : s.unread = token :: rest)
    (hmark : token.kind = .punctuator enclosure.delimiter.opening)
    (hcounts : Enclosure.counts (OpenGroup.surroundings base opened) enclosure.delimiter.opening = true)
    (hopened : Enclosure.opened? (OpenGroup.surroundings base opened) enclosure.delimiter.opening =
      some enclosure) :
    (s.advance.push enclosure token.span).Placed base tokens (⟨enclosure, token.span⟩ :: opened) := by
  obtain ⟨before, hbehind, haround⟩ := h.behind
  have hadvance := hbehind.advance hunread (by simp [hmark])
  have hstack : s.advance.opened = opened := s.agrees_advance.opened.trans h.stack
  refine ⟨congrArg (_ :: ·) hstack, before ++ [token],
    ⟨hadvance.unread, hadvance.sound, hadvance.lastEnd, fun group hgroup => ?_⟩, ?_⟩
  · rcases List.mem_cons.1 hgroup with rfl | hgroup
    · exact ⟨before, token, [], rfl, rfl, hmark, by rw [haround]; exact hopened⟩
    · exact hadvance.stands group hgroup
  · rw [Enclosure.around_concat, haround, hmark, Enclosure.behind_of_opened hcounts hopened]
    rfl

/-- The bracket that closes the innermost group is taken. -/
theorem Placed.pop {group : OpenGroup} (h : s.Placed base tokens (group :: opened))
    (hunread : s.unread = token :: rest)
    (hmark : token.kind = .punctuator group.enclosure.delimiter.closing) :
    s.advance.pop.Placed base tokens opened := by
  obtain ⟨before, hbehind, haround⟩ := h.behind
  have hadvance := hbehind.advance hunread (by simp [hmark])
  have hstack : s.advance.opened = group :: opened := s.agrees_advance.opened.trans h.stack
  have hpopped : s.advance.pop.opened = opened := by rw [Reading.pop, hstack]; rfl
  refine ⟨hpopped, before ++ [token],
    ⟨hadvance.unread, hadvance.sound, hadvance.lastEnd, fun other hother => ?_⟩, ?_⟩
  · refine hadvance.stands other ?_
    rw [hpopped] at hother
    rw [hstack]
    exact List.mem_cons_of_mem group hother
  · rw [Enclosure.around_concat, haround, hmark]
    exact Enclosure.behind_closing group.enclosure (OpenGroup.surroundings base opened)

theorem Fits.advance (h : s.Fits base tokens opened) (hunread : s.unread = token :: rest)
    (hplain : token.kind.isPlain = true) : s.advance.Fits base tokens opened := by
  simp only [TokenKind.isPlain, Bool.and_eq_true, Bool.not_eq_true', bne_iff_ne] at hplain
  obtain ⟨⟨hopening, hclosing⟩, hfinish⟩ := hplain
  exact ⟨h.placed.advance hunread hfinish (Enclosure.behind_of_plain hopening hclosing),
    s.agrees_advance.errors.trans h.errors⟩

/-- A token that is read later stands behind. -/
theorem Fits.exists_later {s' : Reading} {opened' : List OpenGroup} {last : Token}
    {behind : List Token} (h : s.Fits base tokens opened) (h' : s'.Fits base tokens opened')
    (hunread : s.unread = token :: rest)
    (hunread' : s'.unread = last :: behind) (hlater : s'.unread.length ≤ rest.length) :
    ∃ before inside, tokens = before ++ token :: (inside ++ last :: behind) := by
  obtain ⟨before, hbehind, -⟩ := h.placed.behind
  obtain ⟨before', hbehind', -⟩ := h'.placed.behind
  have hsplit : tokens = before ++ token :: rest := by rw [hbehind.unread, hunread]
  have hrest : rest <:+ tokens := ⟨before ++ [token], by simp [hsplit]⟩
  have hlast : last :: behind <:+ tokens := ⟨before', by rw [hbehind'.unread, hunread']⟩
  rw [hunread'] at hlater
  obtain ⟨inside, hinside⟩ := List.suffix_of_suffix_length_le hlast hrest hlater
  exact ⟨before, inside, by rw [hsplit, hinside]⟩

/-! ### Failures -/

/-- A rule that fails at once leaves the reader where it stands. -/
theorem Fits.record (h : s.Fits base tokens opened) {error : Diagnostic}
    (hsited : error.Sited base tokens) : (s.record error).Strands base tokens opened := by
  have herrors : (s.record error).errors = [error] := by simp [Reading.record, h.errors]
  obtain ⟨before, hbehind, haround⟩ := h.placed.behind
  refine ⟨by simp [herrors], by simpa [herrors] using hsited, fun _ _ => ⟨[], by simp, ?_⟩⟩
  exact ⟨h.placed.stack, before,
    ⟨hbehind.unread, hbehind.sound, hbehind.lastEnd, hbehind.stands⟩, haround⟩

theorem recordUnclosed_eq {group : OpenGroup} (h : s.opened.head? = some group) :
    s.recordUnclosed group.enclosure.delimiter = s.pop.record (.unclosed group s.lastEnd) := by
  rw [recordUnclosed, h]
  rfl

/-- An error about the innermost group is fatal, so it does not matter where it leaves the reader. -/
theorem strands_recordUnclosed {group : OpenGroup} (hhead : s.opened.head? = some group)
    (herrors : s.errors = []) (hsited : (Diagnostic.unclosed group s.lastEnd).Sited base tokens) :
    (s.recordUnclosed group.enclosure.delimiter).Strands base tokens opened := by
  have hrecorded : (s.recordUnclosed group.enclosure.delimiter).errors =
      [.unclosed group s.lastEnd] := by
    rw [recordUnclosed_eq hhead]
    simp [Reading.record, Reading.pop, herrors]
  refine ⟨by simp [hrecorded], by simpa [hrecorded] using hsited, fun _ hmild => ?_⟩
  simp [hrecorded, Diagnostic.unclosed, Cause.isFatal] at hmild

/-- The document ends inside the innermost group. -/
theorem Fits.recordUnclosed {group : OpenGroup} (h : s.Fits base tokens (group :: opened))
    (hended : s.Ended) (hpassed : group.enclosure.isPassed = false) :
    (s.recordUnclosed group.enclosure.delimiter).Strands base tokens (group :: opened) := by
  obtain ⟨before, hbehind, -⟩ := h.placed.behind
  have hhead : s.opened.head? = some group := by rw [h.placed.stack]; rfl
  exact strands_recordUnclosed hhead h.errors
    (hbehind.sited_unclosed hended (List.mem_of_head? hhead) hpassed)

/-- How many values enclose the next token does not matter. -/
theorem Placed.depth (h : s.Placed base tokens opened) (depth : Nat) :
    Placed { s with depth } base tokens opened := by
  obtain ⟨before, hbehind, haround⟩ := h.behind
  exact ⟨h.stack, before, ⟨hbehind.unread, hbehind.sound, hbehind.lastEnd, hbehind.stands⟩, haround⟩

theorem Fits.depth (h : s.Fits base tokens opened) (depth : Nat) :
    Fits { s with depth } base tokens opened := ⟨h.placed.depth depth, h.errors⟩

theorem Strands.depth (h : s.Strands base tokens opened) (depth : Nat) :
    Strands { s with depth } base tokens opened := by
  refine ⟨h.recorded, h.sited, fun hhold hmild => ?_⟩
  obtain ⟨inner, hinner, hplaced⟩ := h.mild hhold hmild
  exact ⟨inner, hinner, hplaced.depth depth⟩

/-- What fails inside a group fails inside the groups around it. -/
theorem Strands.outer {group : OpenGroup} (h : s.Strands base tokens (group :: opened))
    (hvalues : Enclosure.HoldValues (OpenGroup.surroundings base opened) →
      group.enclosure.holdsValues = true) : s.Strands base tokens opened := by
  refine ⟨h.recorded, h.sited, fun hhold hmild => ?_⟩
  have hgroup := hvalues hhold
  obtain ⟨inner, hinner, hplaced⟩ := h.mild ⟨group.enclosure, rfl, hgroup⟩ hmild
  refine ⟨inner ++ [group], ?_, by simpa using hplaced⟩
  simpa [or_imp, forall_and] using ⟨hinner, hgroup⟩

end Reading

namespace Rule

/-- From a state with at most `size` unread tokens the rule leaves the open groups as they are, and
every error that it fails with lies where an error lies. -/
def Keeps {α : Type} (base : List Enclosure) (tokens : List Token) (size : Nat)
    (opened : List OpenGroup) (rule : Rule α) : Prop :=
  ∀ s : Reading, s.Fits base tokens opened → s.unread.length ≤ size →
    rule.Meets s (fun _ s' => s'.Fits base tokens opened) (·.Strands base tokens opened)

variable {α β : Type} {base : List Enclosure} {tokens : List Token} {size : Nat}
variable {opened : List OpenGroup}

/-! ### Sequences -/

section Calculus

variable {rule : Rule α} {second : α → Rule β}

theorem Keeps.anti {size' : Nat} (h : Keeps base tokens size opened rule) (hsize : size' ≤ size) :
    Keeps base tokens size' opened rule := fun s hs hle => h s hs (hle.trans hsize)

theorem keeps_pure (value : α) : Keeps base tokens size opened (pure value : Rule α) :=
  fun _ hs _ => hs

/-- What the first rule has taken is not left to the second one. -/
theorem Keeps.bind_of_consumes {taken : Nat} (h : Keeps base tokens size opened rule)
    (htaken : Consumes taken rule)
    (h' : ∀ value, Keeps base tokens (size - taken) opened (second value)) :
    Keeps base tokens size opened (rule >>= second) := by
  intro s hs hle
  have hfirst := h s hs hle
  have hleaves := htaken s
  unfold Meets at hfirst ⊢
  cases hrule : rule s with
  | done value s' =>
      rw [hrule] at hfirst hleaves
      rw [bind_of_done hrule]
      simp only [Outcome.Leaves] at hleaves
      exact h' value s' hfirst (by omega)
  | failed s' =>
      rw [hrule] at hfirst
      rw [bind_of_failed hrule]
      exact hfirst

theorem Keeps.bind (h : Keeps base tokens size opened rule)
    (h' : ∀ value size, Keeps base tokens size opened (second value)) :
    Keeps base tokens size opened (rule >>= second) :=
  fun s hs hle => Meets.bind (h s hs hle) fun value s' hs' => h' value _ s' hs' (Nat.le_refl _)

theorem Keeps.ask_bind {question : Reading → α}
    (h : ∀ answer, Keeps base tokens size opened (second answer)) :
    Keeps base tokens size opened (ask question >>= second) :=
  fun s hs hle => Meets.congr (Rule.ask_bind question s) (h _ s hs hle)

theorem Keeps.nextIs_bind {second : Bool → Rule β} (mark : Punctuator)
    (h : ∀ answer, Keeps base tokens size opened (second answer)) :
    Keeps base tokens size opened (nextIs mark >>= second) := .ask_bind h

/-- Where it is not the end there is a token left. -/
theorem Keeps.atEnd_bind {second : Bool → Rule β}
    (hend : ∀ s : Reading, s.Fits base tokens opened → s.Ended →
      (second true).Meets s (fun _ s' => s'.Fits base tokens opened) (·.Strands base tokens opened))
    (hmore : 0 < size → Keeps base tokens size opened (second false)) :
    Keeps base tokens size opened (atEnd >>= second) := by
  intro s hs hle
  refine .congr (Rule.atEnd_bind second s) ?_
  cases hatEnd : s.toTokenStream.atEnd with
  | true => exact hend s hs (Reading.ended_of_atEnd hatEnd)
  | false =>
      have hpos : 0 < s.unread.length := by
        refine List.length_pos_iff.2 fun hnil => ?_
        simp [TokenStream.atEnd, TokenStream.peek, hnil] at hatEnd
      exact hmore (hpos.trans_le hle) s hs hle

/-- Rules that are given a limit above the number of unread tokens. -/
theorem keeps_atSize {rule : Nat → Rule α}
    (h : ∀ left ≤ size, ∀ limit, left < limit → Keeps base tokens left opened (rule limit)) :
    Keeps base tokens size opened (fun s => rule (s.unread.length + 1) s) :=
  fun s hs hle => Meets.congr rfl (h _ hle _ (Nat.lt_succ_self _) s hs (Nat.le_refl _))

end Calculus

/-! ### Single tokens -/

theorem keeps_refuseNext (expected : List String) :
    Keeps base tokens size opened (refuseNext expected : Rule α) := by
  intro s hs _
  obtain ⟨before, hbehind, -⟩ := hs.placed.behind
  exact hs.record (hbehind.sited_wrongNext expected)

theorem keeps_refuseConstruct (construct : Construct) :
    Keeps base tokens size opened (refuseConstruct construct : Rule α) := by
  intro s hs _
  obtain ⟨before, hbehind, -⟩ := hs.placed.behind
  exact hs.record (hbehind.sited_nextSpan rfl)

theorem keeps_refuse {error : Diagnostic} (h : error.Sited base tokens) :
    Keeps base tokens size opened (refuse fun _ => error : Rule α) := fun _ hs _ => hs.record h

theorem meets_expect_fits {s : Reading} (hs : s.Fits base tokens opened) (mark : Punctuator) :
    (expect mark).Meets s (fun token s' => ∃ rest, s.unread = token :: rest ∧
      token.kind = .punctuator mark ∧ s' = s.advance) (·.Strands base tokens opened) := by
  have hwrong := keeps_refuseNext (α := Token) [mark.spelling] s hs (Nat.le_refl _)
  cases hunread : s.unread with
  | nil =>
      rw [Meets, expect_of_nil hunread]
      exact hwrong
  | cons token rest =>
      by_cases hmark : token.kind = .punctuator mark
      · rw [Meets, expect_of_unread hunread hmark]
        exact ⟨rest, rfl, hmark, rfl⟩
      · rw [Meets, expect_of_ne hunread hmark]
        exact hwrong

theorem keeps_expect {mark : Punctuator} (hopening : mark.isOpening = false)
    (hclosing : mark.isClosing = false) : Keeps base tokens size opened (expect mark) := by
  intro s hs _
  refine (meets_expect_fits hs mark).mono ?_ fun _ hfault => hfault
  rintro token s' ⟨rest, hunread, hmark, rfl⟩
  exact hs.advance hunread (Token.isPlain_of_mark hmark hopening hclosing)

/-- A name is taken with the place of one of the tokens. -/
theorem meets_expectName_fits {s : Reading} (hs : s.Fits base tokens opened) :
    expectName.Meets s (fun found s' => s'.Fits base tokens opened ∧ ∃ token ∈ tokens,
      found.2 = token.span) (·.Strands base tokens opened) := by
  have hwrong := keeps_refuseNext (α := String × Span) ["name"] s hs (Nat.le_refl _)
  cases hunread : s.unread with
  | nil =>
      rw [Meets, expectName_of_nil hunread]
      exact hwrong
  | cons token rest =>
      cases hname : token.kind.asName? with
      | some name =>
          obtain ⟨before, hbehind, -⟩ := hs.placed.behind
          rw [Meets, expectName_of_unread hunread hname]
          exact ⟨hs.advance hunread (Token.isPlain_of_asName? (by rw [hname]; rfl)), token,
            hbehind.mem hunread, rfl⟩
      | none =>
          rw [Meets, expectName_of_none hunread hname]
          exact hwrong

theorem keeps_expectName : Keeps base tokens size opened expectName := fun _ hs _ =>
  (meets_expectName_fits hs).mono (fun _ _ h => h.1) fun _ h => h

/-! ### Groups -/

section Group

variable {s : Reading} {enclosure : Enclosure}

theorem meets_openGroup_fits (hs : s.Fits base tokens opened)
    (hcounts : Enclosure.counts (OpenGroup.surroundings base opened) enclosure.delimiter.opening = true)
    (hopened : Enclosure.opened? (OpenGroup.surroundings base opened) enclosure.delimiter.opening =
      some enclosure) :
    (openGroup enclosure.delimiter.opening enclosure).Meets s
      (fun token s' => s.unread = token :: s'.unread ∧
        s'.Fits base tokens (⟨enclosure, token.span⟩ :: opened)) (·.Strands base tokens opened) := by
  refine (meets_expect_fits hs enclosure.delimiter.opening).bind ?_
  rintro token s' ⟨rest, hunread, hmark, rfl⟩
  refine ⟨?_, hs.placed.push hunread hmark hcounts hopened, s.agrees_advance.errors.trans hs.errors⟩
  rw [hunread]
  exact congrArg (token :: ·) (Reading.unread_advance hunread).symm

theorem meets_closeGroup_fits {group : OpenGroup} (hs : s.Fits base tokens (group :: opened)) :
    (closeGroup group.enclosure.delimiter.closing).Meets s
      (fun token s' => s.unread = token :: s'.unread ∧ s'.Fits base tokens opened)
      (·.Strands base tokens (group :: opened)) := by
  refine (meets_expect_fits hs group.enclosure.delimiter.closing).bind ?_
  rintro token s' ⟨rest, hunread, hmark, rfl⟩
  refine ⟨?_, hs.placed.pop hunread hmark, s.agrees_advance.errors.trans hs.errors⟩
  rw [hunread]
  exact congrArg (token :: ·) (Reading.unread_advance hunread).symm

variable {body : Rule α} {finish : Token → α → Token → Rule β}

/-- A group leaves the groups around it as they are if what stands in it does. -/
theorem keeps_group (enclosure : Enclosure)
    (hcounts : Enclosure.counts (OpenGroup.surroundings base opened) enclosure.delimiter.opening = true)
    (hopened : Enclosure.opened? (OpenGroup.surroundings base opened) enclosure.delimiter.opening =
      some enclosure)
    (hvalues : Enclosure.HoldValues (OpenGroup.surroundings base opened) → enclosure.holdsValues = true)
    (htaken : Consumes 0 body)
    (hbody : ∀ span, Keeps base tokens (size - 1) (⟨enclosure, span⟩ :: opened) body)
    (hfinish : ∀ before first value inside last behind,
      tokens = before ++ first :: (inside ++ last :: behind) →
        Keeps base tokens size opened (finish first value last)) :
    Keeps base tokens size opened (do
      let first ← openGroup enclosure.delimiter.opening enclosure
      let found ← body
      let last ← closeGroup enclosure.delimiter.closing
      finish first found last) := by
  intro s hs hle
  refine (meets_openGroup_fits hs hcounts hopened).bind ?_
  rintro first s₁ ⟨hunread, hs₁⟩
  rw [hunread, List.length_cons] at hle
  have hleaves := htaken s₁
  have hmeets := hbody first.span s₁ hs₁ (by omega)
  cases hrule : body s₁ with
  | failed s₂ =>
      rw [Meets, bind_of_failed hrule]
      exact (hmeets.of_failed hrule).outer hvalues
  | done value s₂ =>
      rw [hrule] at hleaves
      refine .congr (bind_of_done hrule) ?_
      have hclose := meets_closeGroup_fits (hmeets.of_done hrule)
      refine (hclose.mono (fun _ _ h => h) fun _ h => h.outer hvalues).bind ?_
      rintro last s₃ ⟨hunread₂, hs₃⟩
      simp only [Outcome.Leaves, hunread₂, List.length_cons] at hleaves
      obtain ⟨before, inside, hsplit⟩ := hs.exists_later (hmeets.of_done hrule) hunread hunread₂
        (by rw [hunread₂, List.length_cons]; exact hleaves)
      exact hfinish before first value inside last _ hsplit s₃ hs₃ (by omega)

end Group

end Rule

end CompletionGateway
