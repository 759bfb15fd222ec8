import CompletionGateway.Proofs.Operation.Step
import CompletionGateway.Proofs.Token.Alike

/-!
# Rules see no places

Two states of reading are alike if their unread tokens are, if the same groups are open and if the
same errors are recorded, whatever the places of all of these.  From states that are alike a rule
comes to outcomes that are alike: it yields the same value or fails on both, and leaves states that
are alike again.
-/

namespace CompletionGateway

/-- What an error is, whatever its place: its cause and its message. -/
def Diagnostic.gist (error : Diagnostic) : Cause × String := (error.cause, error.message)

namespace Reading

/-- Two states in two texts differ in places alone. -/
structure Alike (text text' : List Char) (s s' : Reading) : Prop where
  unread : Token.AllAlike text text' s.unread s'.unread
  opened : s.opened.map (·.enclosure) = s'.opened.map (·.enclosure)
  depth : s.depth = s'.depth
  errors : s.errors.map (·.gist) = s'.errors.map (·.gist)
  source : s.source = some text
  source' : s'.source = some text'

namespace Alike

variable {text text' : List Char} {s s' : Reading} (h : s.Alike text text' s')

theorem start {tokens tokens' : List Token} (h : Token.AllAlike text text' tokens tokens') :
    (start (some text) tokens).Alike text text' (start (some text') tokens') :=
  ⟨h, rfl, rfl, rfl, rfl, rfl⟩

include h

/-- Both states have read everything, or have a next token. -/
theorem unread_cases : (s.unread = [] ∧ s'.unread = []) ∨
    ∃ token rest token' rest', s.unread = token :: rest ∧ s'.unread = token' :: rest' ∧
      token.Alike text text' token' ∧ Token.AllAlike text text' rest rest' ∧
        ∀ second ∈ rest.head?, ∀ second' ∈ rest'.head?,
          second.follows token.span = second'.follows token'.span := by
  have hunread := h.unread
  generalize s.unread = tokens at hunread
  generalize s'.unread = tokens' at hunread
  cases hunread with
  | nil => exact .inl ⟨rfl, rfl⟩
  | cons first touch others => exact .inr ⟨_, _, _, _, rfl, rfl, first, others, touch⟩

theorem advance : s.advance.Alike text text' s'.advance := by
  rcases h.unread_cases with ⟨hnil, hnil'⟩ |
    ⟨token, rest, token', rest', hunread, hunread', -, hrest, -⟩
  · have hsame : s.advance = s := by rw [Reading.advance, hnil]
    have hsame' : s'.advance = s' := by rw [Reading.advance, hnil']
    rwa [hsame, hsame']
  · rw [advance_of_unread hunread, advance_of_unread hunread']
    exact ⟨hrest, h.opened, h.depth, h.errors, h.source, h.source'⟩

theorem push (enclosure : Enclosure) (span span' : Span) :
    (s.push enclosure span).Alike text text' (s'.push enclosure span') :=
  ⟨h.unread, congrArg (enclosure :: ·) h.opened, h.depth, h.errors, h.source, h.source'⟩

theorem pop : s.pop.Alike text text' s'.pop := by
  refine ⟨h.unread, ?_, h.depth, h.errors, h.source, h.source'⟩
  have htail := congrArg List.tail h.opened
  rwa [← List.map_tail, ← List.map_tail] at htail

theorem observe (event event' : ReadingEvent) :
    (s.observe event).Alike text text' (s'.observe event') :=
  ⟨h.unread, h.opened, h.depth, h.errors, h.source, h.source'⟩

theorem record {error error' : Diagnostic} (herror : error.gist = error'.gist) :
    (s.record error).Alike text text' (s'.record error') := by
  refine ⟨h.unread, h.opened, h.depth, ?_, h.source, h.source'⟩
  simp only [Reading.record, List.map_append, h.errors, List.map_singleton, herror]

theorem recordUnclosed (delimiter : Delimiter) :
    (s.recordUnclosed delimiter).Alike text text' (s'.recordUnclosed delimiter) :=
  h.pop.record rfl

/-- What does not depend on places and remarks is asked of both states with the same answer. -/
theorem congr_nextKind? {α : Type} (f : Option TokenKind → α)
    (hf : ∀ message notes notes', f (some (.error message notes)) =
      f (some (.error message notes'))) : f s.nextKind? = f s'.nextKind? := by
  rcases h.unread_cases with ⟨hnil, hnil'⟩ |
    ⟨token, rest, token', rest', hunread, hunread', htoken, -, -⟩
  · rw [nextKind?, nextKind?, next?, next?, hnil, hnil']
  · rw [nextKind?_of_unread hunread, nextKind?_of_unread hunread']
    exact TokenKind.congr_of_withoutNotes htoken.kind (fun kind => f (some kind)) hf

theorem gist_wrongNext (expected : List String) :
    (s.wrongNext expected).gist = (s'.wrongNext expected).gist := by
  rcases h.unread_cases with ⟨hnil, hnil'⟩ |
    ⟨token, rest, token', rest', hunread, hunread', htoken, -, -⟩
  · simp only [wrongNext, next?, hnil, hnil']
    rfl
  · simp only [wrongNext, next?_of_unread hunread, next?_of_unread hunread']
    rcases TokenKind.eq_or_error htoken.kind with hkind | ⟨message, notes, notes', hkind, hkind'⟩
    · rw [hkind]
      cases token'.kind <;> rfl
    · rw [hkind, hkind']
      rfl

theorem atEnd_eq : s.toTokenStream.atEnd = s'.toTokenStream.atEnd := by
  rcases h.unread_cases with ⟨hnil, hnil'⟩ |
    ⟨token, rest, token', rest', hunread, hunread', htoken, -, -⟩
  · simp [TokenStream.atEnd, TokenStream.peek, hnil, hnil']
  · rw [atEnd_of_unread hunread, atEnd_of_unread hunread']
    exact TokenKind.congr_of_withoutNotes htoken.kind (· == .finish) fun _ _ _ => rfl

end Alike

end Reading

/-- Two outcomes in two texts: values that are related, or no values, and states that are alike. -/
inductive Outcome.Alike {α β : Type} (text text' : List Char) (related : α → β → Prop) :
    Outcome α → Outcome β → Prop
  | done {value : α} {value' : β} {s s' : Reading} (hvalue : related value value')
      (hstate : s.Alike text text' s') : Alike text text' related (.done value s) (.done value' s')
  | failed {s s' : Reading} (hstate : s.Alike text text' s') :
      Alike text text' related (.failed s) (.failed s')

namespace Rule

/-- From states that are alike the rules come to outcomes that are alike. -/
def Alike {α β : Type} (text text' : List Char) (rule : Rule α) (rule' : Rule β)
    (related : α → β → Prop) : Prop :=
  ∀ s s' : Reading, s.Alike text text' s' → Outcome.Alike text text' related (rule s) (rule' s')

variable {α β γ δ : Type} {text text' : List Char}

/-! ### Sequences -/

section Calculus

variable {rule : Rule α} {rule' : Rule β} {related : α → β → Prop}

theorem alike_pure {value : α} {value' : β} (h : related value value') :
    Alike text text' (pure value : Rule α) (pure value' : Rule β) related :=
  fun _ _ hs => .done h hs

theorem Alike.bind {second : α → Rule γ} {second' : β → Rule δ} {related' : γ → δ → Prop}
    (h : Alike text text' rule rule' related)
    (h' : ∀ value value', related value value' →
      Alike text text' (second value) (second' value') related') :
    Alike text text' (rule >>= second) (rule' >>= second') related' := by
  intro s s' hs
  have hfirst := h s s' hs
  rw [bind_apply, bind_apply]
  generalize rule s = outcome at hfirst
  generalize rule' s' = outcome' at hfirst
  cases hfirst with
  | done hvalue hstate => exact h' _ _ hvalue _ _ hstate
  | failed hstate => exact .failed hstate

/-- A question with one answer, and then the same rule. -/
theorem Alike.ask_bind {question : Reading → γ} {second : γ → Rule α} {second' : γ → Rule β}
    (h : ∀ s s' : Reading, s.Alike text text' s' → question s = question s')
    (h' : ∀ value, Alike text text' (second value) (second' value) related) :
    Alike text text' (ask question >>= second) (ask question >>= second') related := by
  intro s s' hs
  rw [Rule.ask_bind, Rule.ask_bind, h s s' hs]
  exact h' _ s s' hs

theorem Alike.update_bind {change change' : Reading → Reading} {second : Unit → Rule α}
    {second' : Unit → Rule β}
    (h : ∀ s s' : Reading, s.Alike text text' s' → (change s).Alike text text' (change' s'))
    (h' : Alike text text' (second ()) (second' ()) related) :
    Alike text text' (update change >>= second) (update change' >>= second') related :=
  fun s s' hs => h' _ _ (h s s' hs)

theorem Alike.nextIs_bind {second : Bool → Rule α} {second' : Bool → Rule β} (mark : Punctuator)
    (h : ∀ answer, Alike text text' (second answer) (second' answer) related) :
    Alike text text' (nextIs mark >>= second) (nextIs mark >>= second') related :=
  .ask_bind (fun _ _ hs => hs.congr_nextKind? (· == some (.punctuator mark)) fun _ _ _ => rfl) h

theorem Alike.atEnd_bind {second : Bool → Rule α} {second' : Bool → Rule β}
    (h : ∀ answer, Alike text text' (second answer) (second' answer) related) :
    Alike text text' (atEnd >>= second) (atEnd >>= second') related :=
  .ask_bind (fun _ _ hs => hs.atEnd_eq) h

theorem alike_refuse {reason reason' : Reading → Diagnostic}
    (h : ∀ s s' : Reading, s.Alike text text' s' → (reason s).gist = (reason' s').gist) :
    Alike text text' (refuse reason : Rule α) (refuse reason' : Rule β) related :=
  fun s s' hs => .failed (hs.record (h s s' hs))

theorem alike_refuseNext (expected : List String) :
    Alike text text' (refuseNext expected : Rule α) (refuseNext expected : Rule β) related :=
  alike_refuse fun _ _ hs => hs.gist_wrongNext expected

theorem alike_refuseUnclosed (delimiter : Delimiter) :
    Alike text text' (refuseUnclosed delimiter : Rule α) (refuseUnclosed delimiter : Rule β)
      related :=
  fun _ _ hs => .failed (hs.recordUnclosed delimiter)

theorem alike_refuseConstruct (construct : Construct) :
    Alike text text' (refuseConstruct construct : Rule α) (refuseConstruct construct : Rule β)
      related :=
  alike_refuse fun _ _ _ => rfl

end Calculus

/-! ### Single tokens -/

theorem alike_expect (mark : Punctuator) :
    Alike text text' (expect mark) (expect mark) fun _ _ => True := by
  intro s s' hs
  rcases hs.unread_cases with ⟨hnil, hnil'⟩ |
    ⟨token, rest, token', rest', hunread, hunread', htoken, -, -⟩
  · have hrule : ∀ s : Reading, s.unread = [] → expect mark s = refuseNext [mark.spelling] s :=
      fun s hs => by rw [expect, hs]
    rw [hrule s hnil, hrule s' hnil']
    exact alike_refuseNext _ s s' hs
  · have hkind : token.kind = .punctuator mark ↔ token'.kind = .punctuator mark := by
      have hsame := TokenKind.congr_of_withoutNotes htoken.kind (· = .punctuator mark)
        fun _ _ _ => by simp
      rw [hsame]
    by_cases hmark : token.kind = .punctuator mark
    · rw [expect_of_unread hunread hmark, expect_of_unread hunread' (hkind.1 hmark)]
      exact .done trivial hs.advance
    · rw [expect_of_ne hunread hmark, expect_of_ne hunread' (mt hkind.2 hmark)]
      exact .failed (hs.record (hs.gist_wrongNext _))

theorem alike_expectName :
    Alike text text' expectName expectName fun found found' => found.1 = found'.1 := by
  intro s s' hs
  rcases hs.unread_cases with ⟨hnil, hnil'⟩ |
    ⟨token, rest, token', rest', hunread, hunread', htoken, -, -⟩
  · have hrule : ∀ s : Reading, s.unread = [] → expectName s = refuseNext ["name"] s := by
      intro s hs
      rw [expectName, Reading.next?, hs]
      rfl
    rw [hrule s hnil, hrule s' hnil']
    exact alike_refuseNext _ s s' hs
  · have hname : token.kind.asName? = token'.kind.asName? :=
      TokenKind.congr_of_withoutNotes htoken.kind _ fun _ _ _ => rfl
    cases hfound : token.kind.asName? with
    | some name =>
        rw [expectName_of_unread hunread hfound,
          expectName_of_unread hunread' (hname ▸ hfound)]
        exact .done rfl hs.advance
    | none =>
        rw [expectName_of_none hunread hfound, expectName_of_none hunread' (hname ▸ hfound)]
        exact .failed (hs.record (hs.gist_wrongNext _))

theorem alike_openGroup (mark : Punctuator) (enclosure : Enclosure) :
    Alike text text' (openGroup mark enclosure) (openGroup mark enclosure) fun _ _ => True :=
  (alike_expect mark).bind fun _ _ _ =>
    .update_bind (fun _ _ hs => hs.push enclosure _ _) (alike_pure trivial)

theorem alike_closeGroup (mark : Punctuator) :
    Alike text text' (closeGroup mark) (closeGroup mark) fun _ _ => True :=
  (alike_expect mark).bind fun _ _ _ => .update_bind (fun _ _ hs => hs.pop) (alike_pure trivial)

/-! ### Skipped groups -/

/-- Passing a group goes by the kinds of its tokens. -/
theorem alike_skipGroup (opening closing : Punctuator) (delimiter : Delimiter) (inner : Nat)
    {tokens tokens' : List Token} (h : Token.AllAlike text text' tokens tokens') :
    Alike text text' (skipGroup opening closing delimiter inner tokens)
      (skipGroup opening closing delimiter inner tokens') fun _ _ => True := by
  -- the induction is on the pairs of tokens; `inner` counts the groups that both sides are in
  induction h generalizing inner with
  | nil =>
      rw [skipGroup]
      exact alike_refuseUnclosed delimiter
  | @cons token token' rest rest' first touch others ih =>
      rw [skipGroup.eq_def _ _ _ _ (token :: rest), skipGroup.eq_def _ _ _ _ (token' :: rest')]
      refine .update_bind (fun _ _ hs => hs.advance) ?_
      rcases TokenKind.eq_or_error first.kind with hkind | ⟨message, notes, notes', hkind, hkind'⟩
      · rw [← hkind]
        cases token.kind with
        | finish => exact alike_refuseUnclosed delimiter
        | error message notes => exact alike_refuse fun _ _ _ => rfl
        | punctuator mark =>
            dsimp only
            split
            · exact ih (inner + 1)
            · split
              · cases inner with
                | zero => exact fun _ _ hs => .done trivial hs.pop
                | succ inner => exact ih inner
              · exact ih inner
        | _ => exact ih inner
      · rw [hkind, hkind']
        exact alike_refuse fun _ _ _ => rfl

theorem alike_passGroup (opening closing : Punctuator) (enclosure : Enclosure) :
    Alike text text' (passGroup opening closing enclosure) (passGroup opening closing enclosure)
      fun _ _ => True :=
  (alike_openGroup opening enclosure).bind fun _ _ _ s s' hs =>
    alike_skipGroup opening closing enclosure.delimiter 0 hs.unread s s' hs

end Rule

end CompletionGateway
