import CompletionGateway.Proofs.Operation.Parallel

/-!
# Documents that just end

The tokens of a document end with a mark of the end, or they just end.  The rules tell the two apart,
for a token can be taken and shown in messages and a missing token cannot, but both come to the same:
the same value, or errors with the same cause and the same notes.

The proof runs the two documents side by side.  Until the tokens are spent both states have the same
next token; behind the last one the first state has no token, and the second one the mark or, once a
skipped group has taken it, none either.
-/

namespace CompletionGateway

/-- The same tokens, or the second ones have a mark of the end behind them. -/
inductive Token.SameButEnd : List Token → List Token → Prop
  | nil : SameButEnd [] []
  | mark {finish : Token} (hfinish : finish.kind = .finish) : SameButEnd [] [finish]
  | cons (token : Token) {rest rest' : List Token} (hrest : SameButEnd rest rest') :
      SameButEnd (token :: rest) (token :: rest')

/-- What an error tells apart from its place and its wording: the cause and the notes. -/
def Diagnostic.substance (error : Diagnostic) : Cause × List Note := (error.cause, error.notes)

namespace Token.SameButEnd

theorem concat (tokens : List Token) {finish : Token} (hfinish : finish.kind = .finish) :
    SameButEnd tokens (tokens ++ [finish]) := by
  induction tokens with
  | nil => exact .mark hfinish
  | cons token rest ih => exact .cons token ih

theorem length_le {tokens tokens' : List Token} (h : SameButEnd tokens tokens') :
    tokens.length ≤ tokens'.length := by
  induction h with
  | nil => exact Nat.le_refl _
  | mark _ => exact Nat.zero_le _
  | cons _ _ ih => exact Nat.succ_le_succ ih

/-- A run takes the same tokens, for the mark goes on with no run. -/
theorem takeRun {tokens tokens' : List Token} (h : SameButEnd tokens tokens') (last : Span) :
    (takeRun last tokens).1 = (CompletionGateway.takeRun last tokens').1 ∧
      SameButEnd (CompletionGateway.takeRun last tokens).2
        (CompletionGateway.takeRun last tokens').2 := by
  induction h generalizing last with
  | nil => exact ⟨rfl, .nil⟩
  | @mark finish hfinish =>
      have hends : finish.kind.endsRun = true := by rw [hfinish]; rfl
      simp only [CompletionGateway.takeRun, hends, Bool.not_true, Bool.and_false]
      exact ⟨rfl, .mark hfinish⟩
  | @cons token rest rest' hrest ih =>
      simp only [CompletionGateway.takeRun]
      split
      · exact ⟨congrArg (token :: ·) (ih token.span).1, (ih token.span).2⟩
      · exact ⟨rfl, .cons token hrest⟩

end Token.SameButEnd

namespace Reading

/-- Two states that differ at most in a mark of the end and in the places of errors. -/
structure SameButEnd (s s' : Reading) : Prop where
  unread : Token.SameButEnd s.unread s'.unread
  opened : s.opened = s'.opened
  depth : s.depth = s'.depth
  errors : s.errors.map (·.substance) = s'.errors.map (·.substance)
  source : s.source = s'.source

namespace SameButEnd

variable {s s' : Reading} (h : s.SameButEnd s')

theorem start (source : Option (List Char)) {tokens tokens' : List Token}
    (h : Token.SameButEnd tokens tokens') :
    (start source tokens).SameButEnd (start source tokens') := ⟨h, rfl, rfl, rfl, rfl⟩

include h

/-- The second state is at the end as the first one is, with or without a mark, or both have the same
next token. -/
theorem unread_cases : (s.unread = [] ∧ s'.unread = []) ∨
    (∃ finish, finish.kind = .finish ∧ s.unread = [] ∧ s'.unread = [finish]) ∨
      ∃ token rest rest', s.unread = token :: rest ∧ s'.unread = token :: rest' ∧
        Token.SameButEnd rest rest' := by
  have hunread := h.unread
  generalize s.unread = tokens at hunread
  generalize s'.unread = tokens' at hunread
  cases hunread with
  | nil => exact .inl ⟨rfl, rfl⟩
  | mark hfinish => exact .inr (.inl ⟨_, hfinish, rfl, rfl⟩)
  | cons token hrest => exact .inr (.inr ⟨token, _, _, rfl, rfl, hrest⟩)

theorem advance : s.advance.SameButEnd s'.advance := by
  rcases h.unread_cases with ⟨hnil, hnil'⟩ | ⟨finish, -, hnil, hmark⟩ |
    ⟨token, rest, rest', hunread, hunread', hrest⟩
  · have hsame : s.advance = s := by rw [Reading.advance, hnil]
    have hsame' : s'.advance = s' := by rw [Reading.advance, hnil']
    rwa [hsame, hsame']
  · have hsame : s.advance = s := by rw [Reading.advance, hnil]
    rw [hsame, advance_of_unread hmark]
    exact ⟨by rw [hnil]; exact .nil, h.opened, h.depth, h.errors, h.source⟩
  · rw [advance_of_unread hunread, advance_of_unread hunread']
    exact ⟨hrest, h.opened, h.depth, h.errors, h.source⟩

theorem push (enclosure : Enclosure) (span : Span) :
    (s.push enclosure span).SameButEnd (s'.push enclosure span) :=
  ⟨h.unread, congrArg (OpenGroup.mk enclosure span :: ·) h.opened, h.depth, h.errors, h.source⟩

theorem pop : s.pop.SameButEnd s'.pop :=
  ⟨h.unread, congrArg List.tail h.opened, h.depth, h.errors, h.source⟩

theorem observe (event event' : ReadingEvent) :
    (s.observe event).SameButEnd (s'.observe event') :=
  ⟨h.unread, h.opened, h.depth, h.errors, h.source⟩

theorem record {error error' : Diagnostic} (herror : error.substance = error'.substance) :
    (s.record error).SameButEnd (s'.record error') := by
  refine ⟨h.unread, h.opened, h.depth, ?_, h.source⟩
  simp only [Reading.record, List.map_append, h.errors, List.map_singleton, herror]

theorem recordUnclosed (delimiter : Delimiter) :
    (s.recordUnclosed delimiter).SameButEnd (s'.recordUnclosed delimiter) := by
  refine h.pop.record ?_
  simp only [Diagnostic.substance, h.opened]

theorem substance_wrongNext (expected : List String) :
    (s.wrongNext expected).substance = (s'.wrongNext expected).substance := by
  rcases h.unread_cases with ⟨hnil, hnil'⟩ | ⟨finish, hfinish, hnil, hmark⟩ |
    ⟨token, rest, rest', hunread, hunread', -⟩
  · simp only [wrongNext, next?_of_nil hnil, next?_of_nil hnil']
    rfl
  · simp only [wrongNext, next?_of_nil hnil, next?_of_unread hmark, hfinish]
    rfl
  · simp only [wrongNext, next?_of_unread hunread, next?_of_unread hunread']
    cases token.kind <;> rfl

theorem atEnd_eq : s.toTokenStream.atEnd = s'.toTokenStream.atEnd := by
  rcases h.unread_cases with ⟨hnil, hnil'⟩ | ⟨finish, hfinish, hnil, hmark⟩ |
    ⟨token, rest, rest', hunread, hunread', -⟩
  · simp [TokenStream.atEnd, TokenStream.peek, hnil, hnil']
  · rw [atEnd_of_unread hmark, hfinish]
    simp [TokenStream.atEnd, TokenStream.peek, hnil]
  · rw [atEnd_of_unread hunread, atEnd_of_unread hunread']

theorem nextIs_eq (mark : Punctuator) :
    (s.nextKind? == some (.punctuator mark)) = (s'.nextKind? == some (.punctuator mark)) := by
  rcases h.unread_cases with ⟨hnil, hnil'⟩ | ⟨finish, hfinish, hnil, hmark⟩ |
    ⟨token, rest, rest', hunread, hunread', -⟩
  · rw [nextKind?_of_nil hnil, nextKind?_of_nil hnil']
  · rw [nextKind?_of_unread hmark, nextKind?_of_nil hnil, hfinish]
    rfl
  · rw [nextKind?_of_unread hunread, nextKind?_of_unread hunread']

/-- The token behind the next one says whether a run goes on; the mark says that none does. -/
theorem startsRun_eq {token : Token} {rest rest' : List Token} (hunread : s.unread = token :: rest)
    (hunread' : s'.unread = token :: rest') : s.startsRun token = s'.startsRun token := by
  have hbehind : Token.SameButEnd rest rest' := by
    have hall := h.unread
    rw [hunread, hunread'] at hall
    cases hall with
    | cons _ hrest => exact hrest
  unfold startsRun
  cases token.kind with
  | error message notes => simp only [isOpenString, h.source]
  | name _ | int _ | float _ | bool _ | null =>
      simp only [TokenStream.peek, hunread, hunread', List.getElem?_cons_succ]
      cases hbehind with
      | nil | cons => rfl
      | mark hfinish => simp [hfinish, TokenKind.endsRun]
  | _ => rfl

end SameButEnd

end Reading

/-- Two outcomes with the same value, or without one, in states that differ at most in a mark of the
end and in the places of errors. -/
inductive Outcome.SameButEnd {α : Type} : Outcome α → Outcome α → Prop
  | done (value : α) {s s' : Reading} (hstate : s.SameButEnd s') :
      SameButEnd (.done value s) (.done value s')
  | failed {s s' : Reading} (hstate : s.SameButEnd s') : SameButEnd (.failed s) (.failed s')

namespace Rule

/-- From states that differ at most in a mark of the end, with at most `size` tokens before it, the
rules come to outcomes that do. -/
def SameButEnd {α : Type} (size : Nat) (rule rule' : Rule α) : Prop :=
  ∀ s s' : Reading, s.SameButEnd s' → s.unread.length ≤ size → (rule s).SameButEnd (rule' s')

variable {α β : Type} {size : Nat}

/-! ### Sequences -/

section Calculus

variable {rule rule' : Rule α} {second second' : α → Rule β}

theorem SameButEnd.anti {size' : Nat} (h : SameButEnd size rule rule') (hsize : size' ≤ size) :
    SameButEnd size' rule rule' := fun s s' hs hle => h s s' hs (hle.trans hsize)

theorem sameButEnd_pure (value : α) : SameButEnd size (pure value : Rule α) (pure value) :=
  fun _ _ hs _ => .done value hs

theorem SameButEnd.bind (h : SameButEnd size rule rule')
    (h' : ∀ value size, SameButEnd size (second value) (second' value)) :
    SameButEnd size (rule >>= second) (rule' >>= second') := by
  intro s s' hs hle
  have hfirst := h s s' hs hle
  rw [bind_apply, bind_apply]
  generalize rule s = outcome at hfirst
  generalize rule' s' = outcome' at hfirst
  cases hfirst with
  | done value hstate => exact h' value _ _ _ hstate (Nat.le_refl _)
  | failed hstate => exact .failed hstate

/-- What the first rule has taken is not left to the second one. -/
theorem SameButEnd.bind_of_consumes {taken : Nat} (h : SameButEnd size rule rule')
    (htaken : Consumes taken rule)
    (h' : ∀ value, SameButEnd (size - taken) (second value) (second' value)) :
    SameButEnd size (rule >>= second) (rule' >>= second') := by
  intro s s' hs hle
  have hfirst := h s s' hs hle
  have hleaves := htaken s
  rw [bind_apply, bind_apply]
  generalize rule s = outcome at hfirst hleaves
  generalize rule' s' = outcome' at hfirst
  cases hfirst with
  | done value hstate =>
      simp only [Outcome.Leaves] at hleaves
      exact h' value _ _ hstate (by omega)
  | failed hstate => exact .failed hstate

theorem SameButEnd.ask_bind {question : Reading → α}
    (h : ∀ s s' : Reading, s.SameButEnd s' → question s = question s')
    (h' : ∀ answer, SameButEnd size (second answer) (second' answer)) :
    SameButEnd size (ask question >>= second) (ask question >>= second') := by
  intro s s' hs hle
  rw [Rule.ask_bind, Rule.ask_bind, h s s' hs]
  exact h' _ s s' hs hle

theorem SameButEnd.nextIs_bind {second second' : Bool → Rule β} (mark : Punctuator)
    (h : ∀ answer, SameButEnd size (second answer) (second' answer)) :
    SameButEnd size (nextIs mark >>= second) (nextIs mark >>= second') :=
  .ask_bind (fun _ _ hs => hs.nextIs_eq mark) h

/-- Where it is not the end there is a token left. -/
theorem SameButEnd.atEnd_bind {second second' : Bool → Rule β}
    (hend : SameButEnd size (second true) (second' true))
    (hmore : 0 < size → SameButEnd size (second false) (second' false)) :
    SameButEnd size (atEnd >>= second) (atEnd >>= second') := by
  intro s s' hs hle
  rw [Rule.atEnd_bind, Rule.atEnd_bind, ← hs.atEnd_eq]
  cases hatEnd : s.toTokenStream.atEnd with
  | true => exact hend s s' hs hle
  | false =>
      have hpos : 0 < s.unread.length := by
        refine List.length_pos_iff.2 fun hnil => ?_
        simp [TokenStream.atEnd, TokenStream.peek, hnil] at hatEnd
      exact hmore (hpos.trans_le hle) s s' hs hle

/-- A rule that asks for the kind of the next token does at the mark what it does without a token. -/
theorem SameButEnd.nextKind_bind {second second' : Option TokenKind → Rule β}
    (hmark : second' (some .finish) = second' none)
    (hnone : SameButEnd size (second none) (second' none))
    (hsome : ∀ kind, 0 < size → SameButEnd size (second (some kind)) (second' (some kind))) :
    SameButEnd size (ask (·.nextKind?) >>= second) (ask (·.nextKind?) >>= second') := by
  intro s s' hs hle
  rw [Rule.ask_bind, Rule.ask_bind]
  rcases hs.unread_cases with ⟨hunread, hunread'⟩ | ⟨finish, hfinish, hunread, hunread'⟩ |
    ⟨token, rest, rest', hunread, hunread', -⟩
  · rw [Reading.nextKind?_of_nil hunread, Reading.nextKind?_of_nil hunread']
    exact hnone s s' hs hle
  · rw [Reading.nextKind?_of_nil hunread, Reading.nextKind?_of_unread hunread', hfinish, hmark]
    exact hnone s s' hs hle
  · rw [Reading.nextKind?_of_unread hunread, Reading.nextKind?_of_unread hunread']
    rw [hunread, List.length_cons] at hle
    refine hsome token.kind (by omega) s s' hs ?_
    rwa [hunread, List.length_cons]

/-- Taking the next token, and then rules that come to the same. -/
theorem SameButEnd.taking (h : SameButEnd size rule rule') :
    SameButEnd size (do update (·.advance); rule) (do update (·.advance); rule') :=
  fun _ _ hs hle => h _ _ hs.advance ((Reading.length_unread_advance_le _).trans hle)

/-- Rules that are given a limit above the number of unread tokens. -/
theorem sameButEnd_atSize {rule rule' : Nat → Rule α}
    (h : ∀ left ≤ size, ∀ limit limit', left < limit → left < limit' →
      SameButEnd left (rule limit) (rule' limit')) :
    SameButEnd size (fun s => rule (s.unread.length + 1) s)
      (fun s => rule' (s.unread.length + 1) s) :=
  fun s s' hs hle => h s.unread.length hle _ _ (Nat.lt_succ_self _)
    (Nat.lt_succ_of_le hs.unread.length_le) s s' hs (Nat.le_refl _)

theorem sameButEnd_refuse {reason reason' : Reading → Diagnostic}
    (h : ∀ s s' : Reading, s.SameButEnd s' → (reason s).substance = (reason' s').substance) :
    SameButEnd size (refuse reason : Rule α) (refuse reason') :=
  fun s s' hs _ => .failed (hs.record (h s s' hs))

theorem sameButEnd_refuseNext (expected : List String) :
    SameButEnd size (refuseNext expected : Rule α) (refuseNext expected) :=
  sameButEnd_refuse fun _ _ hs => hs.substance_wrongNext expected

theorem sameButEnd_refuseUnclosed (delimiter : Delimiter) :
    SameButEnd size (refuseUnclosed delimiter : Rule α) (refuseUnclosed delimiter) :=
  fun _ _ hs _ => .failed (hs.recordUnclosed delimiter)

theorem sameButEnd_refuseConstruct (construct : Construct) :
    SameButEnd size (refuseConstruct construct : Rule α) (refuseConstruct construct) :=
  sameButEnd_refuse fun _ _ _ => rfl

end Calculus

/-! ### Single tokens -/

theorem sameButEnd_expect (mark : Punctuator) : SameButEnd size (expect mark) (expect mark) := by
  intro s s' hs _
  have hwrong := Outcome.SameButEnd.failed (α := Token)
    (hs.record (hs.substance_wrongNext [mark.spelling]))
  rcases hs.unread_cases with ⟨hunread, hunread'⟩ | ⟨finish, hfinish, hunread, hunread'⟩ |
    ⟨token, rest, rest', hunread, hunread', -⟩
  · rwa [expect_of_nil hunread, expect_of_nil hunread']
  · rwa [expect_of_nil hunread, expect_of_ne hunread' (by simp [hfinish])]
  · by_cases hmark : token.kind = .punctuator mark
    · rw [expect_of_unread hunread hmark, expect_of_unread hunread' hmark]
      exact .done token hs.advance
    · rwa [expect_of_ne hunread hmark, expect_of_ne hunread' hmark]

theorem sameButEnd_expectName : SameButEnd size expectName expectName := by
  intro s s' hs _
  have hwrong := Outcome.SameButEnd.failed (α := String × Span)
    (hs.record (hs.substance_wrongNext ["name"]))
  rcases hs.unread_cases with ⟨hunread, hunread'⟩ | ⟨finish, hfinish, hunread, hunread'⟩ |
    ⟨token, rest, rest', hunread, hunread', -⟩
  · rwa [expectName_of_nil hunread, expectName_of_nil hunread']
  · rwa [expectName_of_nil hunread, expectName_of_none hunread' (by rw [hfinish]; rfl)]
  · cases hname : token.kind.asName? with
    | some name =>
        rw [expectName_of_unread hunread hname, expectName_of_unread hunread' hname]
        exact .done _ hs.advance
    | none => rwa [expectName_of_none hunread hname, expectName_of_none hunread' hname]

theorem sameButEnd_openGroup (mark : Punctuator) (enclosure : Enclosure) :
    SameButEnd size (openGroup mark enclosure) (openGroup mark enclosure) :=
  (sameButEnd_expect mark).bind fun token _ _ _ hs _ =>
    .done token (hs.push enclosure token.span)

theorem sameButEnd_closeGroup (mark : Punctuator) :
    SameButEnd size (closeGroup mark) (closeGroup mark) :=
  (sameButEnd_expect mark).bind fun token _ _ _ hs _ => .done token hs.pop

theorem sameButEnd_endOfDocument : SameButEnd size endOfDocument endOfDocument := by
  intro s s' hs _
  rcases hs.unread_cases with ⟨hunread, hunread'⟩ | ⟨finish, hfinish, hunread, hunread'⟩ |
    ⟨token, rest, rest', hunread, hunread', -⟩
  · simp only [endOfDocument, Reading.next?_of_nil hunread, Reading.next?_of_nil hunread']
    exact .done () hs
  · simp only [endOfDocument, Reading.next?_of_nil hunread, Reading.next?_of_unread hunread', hfinish]
    exact .done () hs
  · simp only [endOfDocument, Reading.next?_of_unread hunread, Reading.next?_of_unread hunread']
    cases token.kind with
    | finish => exact .done () hs
    | _ => exact .failed (hs.record rfl)

/-! ### Skipped tokens -/

/-- A skipped group takes the mark, and then both states have no token. -/
theorem skipGroup_sameButEnd (opening closing : Punctuator) (delimiter : Delimiter) (inner : Nat)
    {tokens tokens' : List Token} (h : Token.SameButEnd tokens tokens') {s s' : Reading}
    (hs : s.SameButEnd s') (hunread : s.unread = tokens) (hunread' : s'.unread = tokens') :
    (skipGroup opening closing delimiter inner tokens s).SameButEnd
      (skipGroup opening closing delimiter inner tokens' s') := by
  induction h generalizing inner s s' with
  | nil => exact .failed (hs.recordUnclosed delimiter)
  | @mark finish hfinish =>
      have hsame : s.advance = s := by rw [Reading.advance, hunread]
      have hadvance := hs.advance
      rw [hsame] at hadvance
      simp only [skipGroup.eq_def _ _ _ _ [finish], update_bind, hfinish]
      exact .failed (hadvance.recordUnclosed delimiter)
  | @cons token rest rest' hrest ih =>
      have hmore := fun inner => ih inner hs.advance (Reading.unread_advance hunread)
        (Reading.unread_advance hunread')
      simp only [skipGroup.eq_def _ _ _ _ (token :: _), update_bind]
      cases token.kind with
      | finish => exact .failed (hs.advance.recordUnclosed delimiter)
      | error message notes => exact .failed (hs.advance.record rfl)
      | punctuator mark =>
          dsimp only
          split
          · exact hmore (inner + 1)
          split
          · cases inner with
            | zero => exact .done () hs.advance.pop
            | succ inner => exact hmore inner
          · exact hmore inner
      | _ => exact hmore inner

theorem sameButEnd_passGroup (opening closing : Punctuator) (enclosure : Enclosure) :
    SameButEnd size (passGroup opening closing enclosure) (passGroup opening closing enclosure) :=
  (sameButEnd_openGroup opening enclosure).bind fun _ _ _ _ hs _ =>
    skipGroup_sameButEnd opening closing enclosure.delimiter 0 hs.unread hs rfl rfl

/-- What closes a literal is looked for up to the mark. -/
theorem skipClosers_sameButEnd (depth : Nat) {tokens tokens' : List Token}
    (h : Token.SameButEnd tokens tokens') {s s' : Reading} (hs : s.SameButEnd s') :
    (skipClosers depth tokens s).SameButEnd (skipClosers depth tokens' s') := by
  have hmissing : ∀ s s' : Reading, s.SameButEnd s' → Outcome.SameButEnd (α := Unit)
      (refuseUnclosed ((s.opened.head?.map (·.enclosure.delimiter)).getD .brace) s)
      (refuseUnclosed ((s'.opened.head?.map (·.enclosure.delimiter)).getD .brace) s') := by
    intro s s' hs
    rw [hs.opened]
    exact .failed (hs.recordUnclosed _)
  induction h generalizing depth s s' with
  | nil =>
      cases depth with
      | zero => exact .done () hs
      | succ depth => exact hmissing s s' hs
  | mark hfinish =>
      cases depth with
      | zero => exact .done () hs
      | succ depth =>
          simp only [skipClosers, if_pos hfinish]
          exact hmissing s s' hs
  | cons token hrest ih =>
      cases depth with
      | zero => exact .done () hs
      | succ depth =>
          simp only [skipClosers]
          split
          · exact hmissing s s' hs
          split
          · exact ih _ hs.advance
          split
          · exact ih _ hs.advance
          · exact ih _ hs.advance

end Rule

end CompletionGateway
