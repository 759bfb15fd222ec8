import CompletionGateway.Proofs.Operation.Closure
import CompletionGateway.Proofs.Operation.ValueTaking
import CompletionGateway.Proofs.Text.Offset

/-!
# Rules without the document at hand

The document serves two purposes: a bare run means the text that it covers, and a faulty token is a
string without its end if a quote stands where it begins.  Where no token is faulty and tokens cover
what they spell, the tokens alone say both, and a rule comes to the same outcome without the
document.
-/

namespace CompletionGateway

variable {text : List Char}

namespace Reading

/-- The same state without the document. -/
def blind (s : Reading) : Reading := { s with source := none }

/-- The document is known, none of the unread tokens is faulty, and those that can belong to a bare
run cover what they spell. -/
structure Plain (text : List Char) (s : Reading) : Prop where
  source : s.source = some text
  sound : ∀ token ∈ s.unread, token.kind.isError = false
  covers : ∀ token ∈ s.unread, token.kind.endsRun = false →
    token.span.textIn? text = some token.kind.shown.toList

theorem advance_blind (s : Reading) : s.blind.advance = s.advance.blind := by
  obtain ⟨⟨unread⟩, opened, depth, errors, lastEnd, source, events⟩ := s
  cases unread <;> rfl

namespace Plain

variable {s s' : Reading} (h : s.Plain text)

include h

/-- A state stays plain as long as nothing is unread that was read before. -/
theorem of_subset (hsource : s'.source = s.source) (hunread : s'.unread ⊆ s.unread) :
    s'.Plain text where
  source := hsource.trans h.source
  sound token htoken := h.sound token (hunread htoken)
  covers token htoken := h.covers token (hunread htoken)

theorem advance : s.advance.Plain text := by
  unfold Reading.advance
  split
  · exact h
  · rename_i token rest hunread
    exact h.of_subset rfl (by simp [hunread])

theorem push (enclosure : Enclosure) (span : Span) : (s.push enclosure span).Plain text :=
  h.of_subset rfl (List.Subset.refl _)

theorem pop : s.pop.Plain text := h.of_subset rfl (List.Subset.refl _)

theorem observe (event : ReadingEvent) : (s.observe event).Plain text :=
  h.of_subset rfl (List.Subset.refl _)

theorem record (error : Diagnostic) : (s.record error).Plain text :=
  h.of_subset rfl (List.Subset.refl _)

end Plain

end Reading

/-- The outcomes with and without the document: the same value, or none, and the same state but for
the document. -/
inductive Outcome.Blind {α : Type} (text : List Char) : Outcome α → Outcome α → Prop
  | done (value : α) {s : Reading} (hstate : s.Plain text) :
      Blind text (.done value s) (.done value s.blind)
  | failed {s : Reading} (hstate : s.Plain text) : Blind text (.failed s) (.failed s.blind)

namespace Rule

variable {α : Type}

/-- From a plain state a rule comes to the same outcome without the document. -/
def Blind (text : List Char) (rule : Rule α) : Prop :=
  ∀ s : Reading, s.Plain text → Outcome.Blind text (rule s) (rule s.blind)

/-! ### Steps -/

theorem blind_refuse {reason : Reading → Diagnostic} (hsame : ∀ s, reason s.blind = reason s) :
    Blind text (refuse reason : Rule α) := by
  intro s hs
  rw [refuse, refuse, hsame]
  exact .failed (hs.record _)

/-- The steps of the reader have nothing to do with the document. -/
theorem closed_blind (text : List Char) : Closed fun _ rule => Blind text rule where
  pure value := fun _ hs => .done value hs
  bind {_ _ rule second} hrule hsecond := by
    intro s hs
    have hfirst := hrule s hs
    rw [bind_apply, bind_apply]
    generalize rule s = outcome at hfirst
    generalize rule s.blind = outcome' at hfirst
    cases hfirst with
    | done value hstate => exact hsecond value _ hstate
    | failed hstate => exact .failed hstate
  ask _ := fun _ hs => .done _ hs
  advance := fun s hs => by
    rw [update, update, Reading.advance_blind]
    exact .done () hs.advance
  push enclosure span := fun _ hs => .done () (hs.push enclosure span)
  pop := fun _ hs => .done () hs.pop
  observe _ _ := fun _ hs => .done () (hs.observe _)
  refuse _ := blind_refuse fun _ => rfl
  refuseNext _ := blind_refuse fun _ => rfl
  refuseConstruct _ := blind_refuse fun _ => rfl
  refuseUnclosed _ := fun _ hs => .failed (hs.pop.record _)

/-! ### Bare runs -/

/-- The tokens of a run cover what they spell, one behind the other. -/
theorem slice_takeRun {first : Token} {rest : List Token}
    (hcovers : ∀ token ∈ first :: rest, token.kind.endsRun = false →
      token.span.textIn? text = some token.kind.shown.toList)
    (hfirst : first.kind.endsRun = false) :
    Text.slice text first.span.start.offset
        ((takeRun first.span rest).1.getLast?.getD first).span.stop.offset =
      some ((first :: (takeRun first.span rest).1).map (·.kind.shown.toList)).flatten := by
  induction rest generalizing first with
  | nil =>
      have hslice : Text.slice text _ _ = _ := hcovers first (by simp) hfirst
      simpa [takeRun] using hslice
  | cons second rest ih =>
      have hslice : Text.slice text _ _ = _ := hcovers first (by simp) hfirst
      rw [takeRun]
      split
      · rename_i hgoes
        rw [Bool.and_eq_true, Token.follows, beq_iff_eq, Bool.not_eq_true'] at hgoes
        have hmore := ih (fun token htoken => hcovers token (List.mem_cons_of_mem _ htoken)) hgoes.2
        -- the second token begins where the first one ends
        rw [hgoes.1] at hmore
        simpa [List.getLast?_cons] using Text.slice_append_slice hslice hmore
      · simpa using hslice

theorem lexicalError?_of_sound {tokens : List Token}
    (h : ∀ token ∈ tokens, token.kind.isError = false) : lexicalError? tokens = none := by
  induction tokens with
  | nil => rfl
  | cons token rest ih =>
      have hrest := ih fun other hother => h other (List.mem_cons_of_mem _ hother)
      have htoken := h token (by simp)
      unfold lexicalError?
      split
      · rename_i hkind
        rw [hkind] at htoken
        cases htoken
      · exact hrest

/-- The text that a run covers is what its tokens spell. -/
theorem bareRun_blind {s : Reading} {first : Token} {rest : List Token} (hs : s.Plain text)
    (hunread : s.unread = first :: rest) (hfirst : first.kind.endsRun = false) :
    Outcome.Blind text (bareRun s) (bareRun s.blind) := by
  have hblind : s.blind.unread = first :: rest := hunread
  have happend := takeRun_append first.span rest
  have hcovers := hs.covers
  rw [hunread] at hcovers
  have hslice := slice_takeRun hcovers hfirst
  have hsound : ∀ token ∈ first :: (takeRun first.span rest).1, token.kind.isError = false := by
    intro token htoken
    refine hs.sound token ?_
    rw [hunread, ← happend, ← List.cons_append]
    exact List.mem_append_left _ htoken
  have hbehind : (takeRun first.span rest).2 ⊆ s.unread := by
    intro token htoken
    rw [hunread, ← happend]
    exact List.mem_cons_of_mem _ (List.mem_append_right _ htoken)
  have hsource : s.blind.source = none := rfl
  have hspelled : String.join ((first :: (takeRun first.span rest).1).map (·.kind.shown)) =
      String.ofList ((first :: (takeRun first.span rest).1).map (·.kind.shown.toList)).flatten := by
    rw [← String.toList_inj]
    simp [List.flatMap, Function.comp_def]
  simp only [bareRun, hunread, hblind, hs.source, hsource, Option.bind_some, Option.bind_none, hslice,
    lexicalError?_of_sound hsound, hspelled]
  exact .done _ (hs.of_subset hs.source.symm hbehind)

/-! ### Literals -/

theorem blind_stringLiteral (token : Token) (content : String) :
    Blind text (stringLiteral token content) := by
  unfold stringLiteral
  split
  · exact (closed_blind text).pure _
  · exact blind_refuse fun _ => rfl

theorem blind_numberLiteral (token : Token) (content : String) :
    Blind text (numberLiteral token content) := by
  unfold numberLiteral
  split
  · split
    · exact (closed_blind text).pure _
    · exact blind_refuse fun _ => rfl
  · exact blind_refuse fun _ => rfl

theorem blind_literal (kind : LiteralKind) {body : Rule ArgValue} (h : Blind text body) :
    Blind text (literal kind body) := by
  intro s hs
  have hbody := h s hs
  rw [literal, literal]
  generalize body s = outcome at hbody
  generalize body s.blind = outcome' at hbody
  cases hbody with
  | done value hstate => exact .done value hstate
  | @failed after hstate =>
      have herrors : after.blind.errors.drop s.blind.errors.length =
          after.errors.drop s.errors.length := rfl
      have hopened : after.blind.opened.length - s.blind.opened.length =
          after.opened.length - s.opened.length := rfl
      have hunread : after.blind.unread = after.unread := rfl
      dsimp only
      rw [herrors, hopened, hunread]
      split
      · exact .failed hstate
      have hskip := (closed_blind text).skipClosers (after.opened.length - s.opened.length)
        after.unread after hstate
      generalize skipClosers _ after.unread after = skipped at hskip
      generalize skipClosers _ after.unread after.blind = skipped' at hskip
      cases hskip with
      | done value hstate => exact .done kind.empty (hstate.of_subset rfl (List.Subset.refl _))
      | failed hstate => exact .failed hstate

/-! ### Values -/

theorem blind_nested {rule : Rule ArgValue} (h : Blind text rule) : Blind text (nested rule) := by
  intro s hs
  have hdepth : s.blind.depth = s.depth := rfl
  have hdeeper : ({ s.blind with depth := s.depth + 1 } : Reading) =
    ({ s with depth := s.depth + 1 } : Reading).blind := rfl
  rw [nested, nested, hdepth, hdeeper]
  split
  · have hrule := h { s with depth := s.depth + 1 } (hs.of_subset rfl (List.Subset.refl _))
    generalize rule { s with depth := s.depth + 1 } = outcome at hrule
    generalize rule ({ s with depth := s.depth + 1 } : Reading).blind = outcome' at hrule
    cases hrule with
    | done value hstate => exact .done value (hstate.of_subset rfl (List.Subset.refl _))
    | failed hstate => exact .failed (hstate.of_subset rfl (List.Subset.refl _))
  · exact .failed (hs.record _)

/-- A token that is not faulty begins a run or not, whatever the document. -/
theorem startsRun_blind {s : Reading} {token : Token} (hsound : token.kind.isError = false) :
    s.blind.startsRun token = s.startsRun token := by
  unfold Reading.startsRun
  split
  · rename_i hkind
    rw [hkind] at hsound
    cases hsound
  all_goals rfl

theorem valueAt_blind {inner : Rule ArgValue} (hinner : Blind text inner) {s : Reading}
    {token : Token} {rest : List Token} (hs : s.Plain text) (hunread : s.unread = token :: rest) :
    Outcome.Blind text (valueAt inner token s) (valueAt inner token s.blind) := by
  obtain ⟨rule, hrule, heq⟩ := (closed_blind text).valueAt inner token
    (fun content _ => blind_stringLiteral token content)
    (fun content _ => blind_numberLiteral token content)
    (fun kind => blind_literal kind ((closed_blind text).body hinner
      ((closed_blind text).objectKey blind_stringLiteral) kind))
  rw [heq, ask_bind, ask_bind, startsRun_blind (hs.sound token (by simp [hunread]))]
  split
  · rename_i hstarts
    exact bareRun_blind hs hunread (beginsRun_of_startsRun hstarts).1
  · exact hrule s hs

theorem blind_valueWithin (limit : Nat) : Blind text (valueWithin limit) := by
  have hwrong : Blind text (refuseNext ["value"] : Rule ArgValue) :=
    (closed_blind text).refuseNext (List.cons_ne_nil _ _)
  induction limit with
  | zero => exact blind_nested hwrong
  | succ limit ih =>
      refine blind_nested fun s hs => ?_
      have hnext : s.blind.next? = s.next? := rfl
      rw [ask_bind, ask_bind, hnext]
      cases hunread : s.unread with
      | nil =>
          rw [Reading.next?_of_nil hunread]
          exact hwrong s hs
      | cons token rest =>
          rw [Reading.next?_of_unread hunread]
          exact valueAt_blind ih hs hunread

theorem blind_value : Blind text value := (closed_blind text).atSize blind_valueWithin

end Rule

end CompletionGateway
