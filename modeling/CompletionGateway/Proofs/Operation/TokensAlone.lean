import CompletionGateway.Operation.Document
import CompletionGateway.Proofs.Operation.Blind
import CompletionGateway.Proofs.Token.Alike

/-!
# Documents read from their tokens alone

A document can be read with its text at hand or from its tokens alone.  If none of its tokens is
faulty, both come to the same result: the same operation or arguments, or the same error at the same
place.
-/

namespace CompletionGateway

variable {text : List Char}

namespace Rule

theorem blind_argumentFragment : Blind text argumentFragment :=
  (closed_blind text).argumentFragment blind_value

theorem blind_operation : Blind text operation := (closed_blind text).operation blind_value

theorem Blind.whole {α : Type} {rule : Rule α} (h : Blind text rule) : Blind text (whole rule) :=
  (closed_blind text).whole h

/-- Without the document the same result is reached, and the same happens on the way. -/
theorem Blind.run {α : Type} {rule : Rule α} (h : Blind text rule) {s : Reading}
    (hs : s.Plain text) : rule.run s.blind = rule.run s := by
  have houtcome := h s hs
  rw [Rule.run, Rule.run]
  generalize rule s = outcome at houtcome
  generalize rule s.blind = outcome' at houtcome
  cases houtcome with
  | done value hstate => rfl
  | failed hstate => rfl

end Rule

/-! ### Tokens of a text -/

/-- A token that is not faulty and can belong to a bare run covers what it shows. -/
theorem TokenKind.written?_eq_shown {kind : TokenKind} (hsound : kind.isError = false)
    (hends : kind.endsRun = false) : kind.written? = some kind.shown.toList := by
  cases kind with
  | bool value => cases value <;> rfl
  | error message notes => cases hsound
  | string content | finish => cases hends
  | _ => rfl

theorem Token.textIn?_of_sound {token : Token} (h : token ∈ Token.list text)
    (hsound : token.kind.isError = false) (hends : token.kind.endsRun = false) :
    token.span.textIn? text = some token.kind.shown.toList := by
  obtain ⟨before, covered, behind, htext, hstart, hstop, -, hspells⟩ := exists_covered h
  obtain rfl := hspells _ (TokenKind.written?_eq_shown hsound hends)
  rw [Span.textIn?, hstart, hstop, Text.byteLength_append, htext]
  exact Text.slice_append _ _ _

/-- A text without faulty tokens is read from its tokens alone to the same result, both as an
operation and as an argument fragment. -/
theorem ofTokens_eq_parse (hsound : ∀ token ∈ Token.list text, token.kind.isError = false) :
    Operation.ofTokens (Token.list text) = Operation.parse text ∧
      Arguments.ofTokens (Token.list text) = Arguments.parse text := by
  have hstart : (Reading.start (some text) (Token.list text)).Plain text :=
    ⟨rfl, hsound, fun token htoken => Token.textIn?_of_sound htoken (hsound token htoken)⟩
  exact ⟨congrArg Prod.fst (Rule.blind_operation.whole.run hstart),
    congrArg Prod.fst (Rule.blind_argumentFragment.whole.run hstart)⟩

/-- A field whose argument is a bare run of five tokens. -/
def runOfFive : List Char :=
  ['{', 'f', '(', 'x', ':', ' ', 'a', ':', 'b', '!', 'c', ')', '}']

/-- From the tokens alone the run is put together again. -/
theorem ofTokens_runOfFive : (∀ token ∈ Token.list runOfFive, token.kind.isError = false) ∧
    Operation.ofTokens (Token.list runOfFive) =
      .ok ⟨.query, none, [⟨"f", [("x", .string "a:b!c")]⟩]⟩ := by
  have hsound : ∀ token ∈ Token.list runOfFive, token.kind.isError = false := by decide +kernel
  exact ⟨hsound, (ofTokens_eq_parse hsound).1.trans (by rfl)⟩

end CompletionGateway
