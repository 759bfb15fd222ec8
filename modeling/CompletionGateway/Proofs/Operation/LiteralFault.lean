import CompletionGateway.Proofs.Operation.Closure
import CompletionGateway.Proofs.Operation.History
import CompletionGateway.Proofs.Operation.ValueTaking
import CompletionGateway.Proofs.Token.LiteralShape

/-!
# What can be wrong with a literal

The reader takes apart only literals that have been lexed.  So when it records that a literal has no
value, it is a string with an escape that is at fault, or a number that is not finite.  This holds of
all errors, also of those that are forgotten when a literal around them is emptied.
-/

namespace CompletionGateway

/-- A string fails for an escape, and a number for its range. -/
def ValueFault.IsExpected : ValueFault → Prop
  | number text => ∃ x, Decimal.readNumber text.toList = .ok x ∧ x.isFinite = false
  | string fault => fault.isEscape = true

/-- If the error says that a literal has no value, it is for such a fault. -/
def Diagnostic.IsExpected (error : Diagnostic) : Prop :=
  ∀ fault, error.cause = .invalidValue fault → fault.IsExpected

theorem Diagnostic.isExpected_of_isGrammatical {error : Diagnostic}
    (h : error.cause.isGrammatical = true) : error.IsExpected := by
  intro fault hcause
  rw [hcause] at h
  cases h

theorem Diagnostic.isExpected_of_lexicalError? {tokens : List Token} {error : Diagnostic}
    (h : lexicalError? tokens = some error) : error.IsExpected := by
  obtain ⟨token, -, message, notes, -, rfl⟩ := Rule.exists_of_lexicalError? h
  exact isExpected_of_isGrammatical rfl

namespace Reading

/-- The unread tokens have their shape, and nothing unexpected has been said of a literal. -/
structure Shaped (s : Reading) : Prop where
  unread : ∀ token ∈ s.unread, token.kind.WellShaped
  errors : ∀ error ∈ s.errors, error.IsExpected
  forgotten : ∀ error ∈ s.forgotten, error.IsExpected

namespace Shaped

variable {s s' : Reading}

theorem start (source : Option (List Char)) {tokens : List Token}
    (h : ∀ token ∈ tokens, token.kind.WellShaped) : (Reading.start source tokens).Shaped :=
  ⟨h, List.forall_mem_nil _, List.forall_mem_nil _⟩

/-- A state in which fewer tokens are unread and no error is new. -/
theorem of_suffix (h : s.Shaped) (hunread : s'.unread <:+ s.unread) (hkeeps : s.KeepsErrors s') :
    s'.Shaped :=
  ⟨fun token htoken => h.unread token (hunread.subset htoken), hkeeps.errors ▸ h.errors,
    hkeeps.forgotten ▸ h.forgotten⟩

theorem advance (h : s.Shaped) : s.advance.Shaped := by
  refine h.of_suffix ?_ (.advance s)
  unfold Reading.advance
  split
  · exact List.suffix_refl _
  · rename_i token rest hunread
    exact ⟨[token], hunread.symm⟩

theorem push (h : s.Shaped) (enclosure : Enclosure) (span : Span) :
    (s.push enclosure span).Shaped := h.of_suffix (List.suffix_refl _) (.push s enclosure span)

theorem pop (h : s.Shaped) : s.pop.Shaped := h.of_suffix (List.suffix_refl _) (.pop s)

theorem record (h : s.Shaped) {error : Diagnostic} (herror : error.IsExpected) :
    (s.record error).Shaped := by
  refine ⟨h.unread, fun other hother => ?_, h.forgotten⟩
  rcases List.mem_append.1 hother with hother | hother
  · exact h.errors other hother
  · exact List.mem_singleton.1 hother ▸ herror

theorem recordUnclosed (h : s.Shaped) (delimiter : Delimiter) : (s.recordUnclosed delimiter).Shaped :=
  h.pop.record (Diagnostic.isExpected_of_isGrammatical rfl)

end Shaped

/-- What is said of the next token is not about its value. -/
theorem isExpected_wrongNext (s : Reading) (expected : List String) :
    (s.wrongNext expected).IsExpected := by
  unfold wrongNext
  cases s.next? with
  | none => exact fun _ hcause => by cases hcause
  | some token =>
      cases hkind : token.kind <;> simp only [hkind]
      all_goals exact fun _ hcause => by cases hcause

end Reading

namespace Rule

variable {α β : Type}

/-- The rule says nothing unexpected of a literal. -/
def Upholds (rule : Rule α) : Prop :=
  ∀ s : Reading, s.Shaped → rule.Meets s (fun _ s' => s'.Shaped) Reading.Shaped

/-! ### Steps -/

/-- The steps of the reader say nothing of literals. -/
theorem closed_upholds : Closed @Upholds where
  pure _ := fun _ hs => hs
  bind hrule hsecond := fun s hs => (hrule s hs).bind fun value s' hs' => hsecond value s' hs'
  ask _ := fun _ hs => hs
  advance := fun _ hs => hs.advance
  push enclosure span := fun _ hs => hs.push enclosure span
  pop := fun _ hs => hs.pop
  observe type fieldCount := fun s hs =>
    hs.of_suffix (List.suffix_refl _) (.observe s type fieldCount)
  refuse herror := fun _ hs => hs.record (Diagnostic.isExpected_of_isGrammatical herror)
  refuseNext _ := fun s hs => hs.record (s.isExpected_wrongNext _)
  refuseConstruct _ := fun _ hs => hs.record (Diagnostic.isExpected_of_isGrammatical rfl)
  refuseUnclosed delimiter := fun _ hs => hs.recordUnclosed delimiter

/-- A rule that is chosen by the state. -/
theorem upholds_chosen {rule : Rule α}
    (h : ∀ s : Reading, s.Shaped → ∃ rule', rule s = rule' s ∧ Upholds rule') : Upholds rule := by
  intro s hs
  obtain ⟨rule', heq, hrule'⟩ := h s hs
  exact .congr heq (hrule' s hs)

theorem upholds_refuse {reason : Reading → Diagnostic} (h : ∀ s, (reason s).IsExpected) :
    Upholds (refuse reason : Rule α) := fun s hs => hs.record (h s)

theorem upholds_nested {rule : Rule α} (h : Upholds rule) : Upholds (nested rule) := by
  intro s hs
  by_cases hroom : s.depth < deepestValue
  · have hmeets := h { s with depth := s.depth + 1 } ⟨hs.unread, hs.errors, hs.forgotten⟩
    rw [Meets, nested, if_pos hroom]
    cases hrule : rule { s with depth := s.depth + 1 } with
    | done value s' =>
        have hs' := hmeets.of_done hrule
        exact ⟨hs'.unread, hs'.errors, hs'.forgotten⟩
    | failed s' =>
        have hs' := hmeets.of_failed hrule
        exact ⟨hs'.unread, hs'.errors, hs'.forgotten⟩
  · rw [Meets, nested, if_neg hroom]
    exact hs.record (Diagnostic.isExpected_of_isGrammatical rfl)

/-! ### Literals -/

theorem upholds_stringLiteral (token : Token) {text : String}
    (h : (TokenKind.string text).WellShaped) : Upholds (stringLiteral token text) := by
  unfold stringLiteral
  split
  · exact closed_upholds.pure _
  · rename_i fault hfault
    refine upholds_refuse fun _ found hfound => ?_
    obtain rfl : ValueFault.string fault = found := Cause.invalidValue.inj hfound
    exact h.string fault (by rw [TokenKind.stringValue?, hfault]; rfl)

theorem upholds_numberLiteral (token : Token) {kind : TokenKind} {text : String}
    (h : kind.WellShaped) (hkind : kind.numberValue? = some (Decimal.readNumber text.toList)) :
    Upholds (numberLiteral token text) := by
  obtain ⟨x, hx⟩ := h.number _ hkind
  unfold numberLiteral
  rw [hx]
  dsimp only
  split
  · exact closed_upholds.pure _
  · rename_i hinfinite
    refine upholds_refuse fun _ found hfound => ?_
    obtain rfl : ValueFault.number text = found := Cause.invalidValue.inj hfound
    exact ⟨x, hx, eq_false_of_ne_true hinfinite⟩

theorem upholds_bareRun : Upholds bareRun := by
  intro s hs
  cases hunread : s.unread with
  | nil =>
      rw [Meets, bareRun, hunread]
      exact hs.record (s.isExpected_wrongNext ["value"])
  | cons first rest =>
      have hbehind : ∀ stop, Reading.Shaped
          { s with unread := (takeRun first.span rest).2, lastEnd := stop } := fun stop => by
        refine hs.of_suffix ⟨first :: (takeRun first.span rest).1, ?_⟩ ⟨rfl, rfl⟩
        rw [hunread, List.cons_append, takeRun_append]
      rw [Meets, bareRun, hunread]
      dsimp only
      cases s.source.bind _ with
      | some text => exact hbehind _
      | none =>
          cases herror : lexicalError? (first :: (takeRun first.span rest).1) with
          | some error => exact (hbehind _).record (Diagnostic.isExpected_of_lexicalError? herror)
          | none => exact hbehind _

/-- The errors that are forgotten with a literal were recorded in it. -/
theorem upholds_literal (kind : LiteralKind) {body : Rule ArgValue} (h : Upholds body) :
    Upholds (literal kind body) := by
  intro s hs
  have hmeets := h s hs
  cases hbody : body s with
  | done value after =>
      rw [Meets, literal_of_done hbody]
      exact hmeets.of_done hbody
  | failed after =>
      have hafter := hmeets.of_failed hbody
      cases hfatal : (after.errors.drop s.errors.length).any (·.cause.isFatal) with
      | true =>
          rw [Meets, literal_of_fatal hbody hfatal]
          exact hafter
      | false =>
          have hskip := closed_upholds.skipClosers (after.opened.length - s.opened.length) after.unread
            after hafter
          cases hskipped : skipClosers (after.opened.length - s.opened.length) after.unread after with
          | failed s' =>
              rw [Meets, literal_of_unclosed hbody hfatal hskipped]
              exact hskip.of_failed hskipped
          | done _ s' =>
              have hs' := hskip.of_done hskipped
              rw [Meets, literal_of_closed hbody hfatal hskipped]
              refine ⟨hs'.unread, fun error herror => ?_, fun error herror => ?_⟩
              · exact hs'.errors error (List.mem_of_mem_take herror)
              rw [Reading.forgotten_discard] at herror
              rcases List.mem_append.1 herror with herror | herror
              · exact hs'.forgotten error herror
              · exact hs'.errors error (List.mem_of_mem_drop herror)

theorem upholds_objectKey : Upholds objectKey := by
  refine upholds_chosen fun s hs => ?_
  cases hunread : s.unread with
  | nil =>
      refine ⟨refuseNext ["name"], ?_, closed_upholds.refuseNext (List.cons_ne_nil _ _)⟩
      rw [objectKey, Reading.next?_of_nil hunread]
  | cons token rest =>
      have hshape := hs.unread token (by simp [hunread])
      cases hkind : token.kind with
      | string text =>
          rw [hkind] at hshape
          exact ⟨do update (·.advance); stringLiteral token text, objectKey_of_string hunread hkind,
            closed_upholds.taking (upholds_stringLiteral token hshape)⟩
      | _ =>
          exact ⟨argumentName, objectKey_of_ne_string hunread (by simp [hkind]),
            closed_upholds.argumentName⟩

/-! ### Values -/

theorem upholds_valueAt {inner : Rule ArgValue} (hinner : Upholds inner) {token : Token}
    (hshape : token.kind.WellShaped) : Upholds (valueAt inner token) := by
  obtain ⟨rule, hrule, heq⟩ := closed_upholds.valueAt inner token
    (fun text hkind => upholds_stringLiteral token (hkind ▸ hshape))
    (fun text hkind => upholds_numberLiteral token hshape (by
      rcases hkind with hkind | hkind <;> rw [hkind] <;> rfl))
    (fun kind => upholds_literal kind (closed_upholds.body hinner upholds_objectKey kind))
  rw [heq]
  refine upholds_chosen fun s _ => ?_
  cases hstarts : s.startsRun token with
  | true => exact ⟨bareRun, by rw [ask_bind, hstarts]; rfl, upholds_bareRun⟩
  | false => exact ⟨rule, by rw [ask_bind, hstarts]; rfl, hrule⟩

theorem upholds_valueWithin (limit : Nat) : Upholds (valueWithin limit) := by
  have hwrong : Upholds (refuseNext ["value"] : Rule ArgValue) :=
    closed_upholds.refuseNext (List.cons_ne_nil _ _)
  induction limit with
  | zero => exact upholds_nested hwrong
  | succ limit ih =>
      refine upholds_nested (upholds_chosen fun s hs => ?_)
      cases hunread : s.unread with
      | nil => exact ⟨_, by rw [ask_bind, Reading.next?_of_nil hunread], hwrong⟩
      | cons token rest =>
          exact ⟨_, by rw [ask_bind, Reading.next?_of_unread hunread],
            upholds_valueAt ih (hs.unread token (by simp [hunread]))⟩

theorem upholds_value : Upholds value := closed_upholds.atSize upholds_valueWithin

/-! ### Whole documents -/

/-- The error is the answer, or is recorded on the way to it, or is forgotten on the way. -/
def Reports (rule : Rule α) (s : Reading) (error : Diagnostic) : Prop :=
  (rule.run s).1 = .error error ∨
    ∃ s' : Reading, (rule s = .failed s' ∨ ∃ value, rule s = .done value s') ∧
      (error ∈ s'.errors ∨ error ∈ s'.forgotten)

theorem Upholds.isExpected_of_reports {rule : Rule α} (h : Upholds rule) {s : Reading} (hs : s.Shaped)
    {error : Diagnostic} (hreports : rule.Reports s error) : error.IsExpected := by
  have hmeets := h s hs
  rcases hreports with hrun | ⟨s', hend, herror⟩
  · rcases recorded_of_run_eq_error hrun with
      ⟨value, s', hdone, hmem⟩ | ⟨s', hfailed, hmem | ⟨-, rfl⟩⟩
    · exact (hmeets.of_done hdone).errors error hmem
    · exact (hmeets.of_failed hfailed).errors error hmem
    · exact fun _ hcause => by cases hcause
  · have hs' : s'.Shaped := by
      rcases hend with hfailed | ⟨value, hdone⟩
      · exact hmeets.of_failed hfailed
      · exact hmeets.of_done hdone
    exact herror.elim (hs'.errors error) (hs'.forgotten error)

end Rule

/-- The literals of a text have their shape: strings end with their quotes, numbers are read as numbers,
and the text does not go on with a number.  So whatever is reported of an operation or an argument
fragment in the text, of its literals it is said only that there is a bad escape or that a number is
out of range. -/
theorem literals_wellShaped (text : List Char) :
    (∀ token ∈ Token.list text, token.kind.WellShaped ∧
      (token.kind.numberValue?.isSome = true → ∃ behind,
        Text.dropBytes token.span.stop.offset text = some behind ∧ EndsNumber behind)) ∧
    ∀ (source : Option (List Char)) (error : Diagnostic),
      (Rule.whole Rule.operation).Reports (.start source (Token.list text)) error ∨
        (Rule.whole Rule.argumentFragment).Reports (.start source (Token.list text)) error →
          error.IsExpected := by
  refine ⟨fun token => Token.wellShaped_of_mem_list, fun source error hreports => ?_⟩
  have hstart : (Reading.start source (Token.list text)).Shaped :=
    .start source fun token htoken => (Token.wellShaped_of_mem_list htoken).1
  rcases hreports with hreports | hreports
  · exact Rule.Upholds.isExpected_of_reports
      (Rule.closed_upholds.whole (Rule.closed_upholds.operation Rule.upholds_value)) hstart hreports
  · exact Rule.Upholds.isExpected_of_reports
      (Rule.closed_upholds.whole (Rule.closed_upholds.argumentFragment Rule.upholds_value)) hstart
      hreports

/-- A list that is emptied for a number that is not finite, so the argument is read. -/
theorem literals_wellShaped_emptiedList :
    let text := ['x', ':', '[', '1', 'e', '9', '9', '9', ']']
    EndsNumber [']'] ∧ ∃ error : Diagnostic,
      (Rule.whole Rule.argumentFragment).Reports (.start (some text) (Token.list text)) error ∧
        error.cause = .invalidValue (.number "1e999") ∧ error.IsExpected := by
  intro text
  obtain ⟨hliterals, hfaults⟩ := literals_wellShaped text
  constructor
  · let number : Token := ⟨.float "1e999", ⟨⟨0, 3, 3⟩, ⟨0, 8, 8⟩⟩⟩
    have hmem : number ∈ Token.list text := by decide +kernel
    obtain ⟨behind, hbehind, hends⟩ := (hliterals number hmem).2 (by decide)
    have hdrop : Text.dropBytes number.span.stop.offset text = some [']'] := by decide +kernel
    rw [hdrop] at hbehind
    exact Option.some.inj hbehind ▸ hends
  · let start : Reading := .start (some text) (Token.list text)
    -- the list keeps no error, so the fault is found among the forgotten ones
    have hread : (match Rule.whole Rule.argumentFragment start with
        | .done _ s' => s'.forgotten.head?.map Diagnostic.cause
        | .failed _ => none) = some (.invalidValue (.number "1e999")) := by
      decide +kernel
    cases hend : Rule.whole Rule.argumentFragment start with
    | failed s' => simp [hend] at hread
    | done value s' =>
        rw [hend] at hread
        obtain ⟨error, hhead, hcause⟩ := Option.map_eq_some_iff.1 hread
        have hreports : (Rule.whole Rule.argumentFragment).Reports start error :=
          .inr ⟨s', .inr ⟨value, hend⟩, .inr (List.mem_of_mem_head? hhead)⟩
        exact ⟨error, hreports, hcause, hfaults (some text) error (.inr hreports)⟩

end CompletionGateway
