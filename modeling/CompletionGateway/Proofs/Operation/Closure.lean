import CompletionGateway.Proofs.Operation.ValueStart

/-!
# Properties that rules pass on

The rules of the grammar are put together from a few steps.  A property that these steps have, and
that a sequence has if its parts have it, is a property of every rule for arguments and operations,
as long as it is one of the rule for values.  So the grammar is gone through once, and what is to be
shown of it is shown of the steps.
-/

namespace CompletionGateway

/-- Whether the cause lies in the grammar: neither in the value of a literal nor where nothing at all
was needed. -/
def Cause.isGrammatical : Cause → Bool
  | invalidValue _ | unexpectedToken [] _ => false
  | _ => true

namespace Rule

/-- A property that the steps of the reader have and sequences pass on. -/
structure Closed (P : ∀ ⦃α : Type⦄, Rule α → Prop) : Prop where
  pure {α : Type} (value : α) : P (pure value : Rule α)
  bind {α β : Type} {rule : Rule α} {second : α → Rule β} (hrule : P rule)
    (hsecond : ∀ value, P (second value)) : P (rule >>= second)
  /-- A question about the unread tokens and the open groups. -/
  ask {α : Type} (question : List Token → List OpenGroup → α) :
    P (ask fun s => question s.unread s.opened)
  advance : P (update (·.advance))
  push (enclosure : Enclosure) (span : Span) : P (update (·.push enclosure span))
  pop : P (update (·.pop))
  observe (type : OperationType) (fieldCount : Nat) :
    P (update (·.observe (.operationRead type fieldCount)))
  refuse {α : Type} {error : Diagnostic} (herror : error.cause.isGrammatical = true) :
    P (refuse fun _ => error : Rule α)
  refuseNext {α : Type} {expected : List String} (hexpected : expected ≠ []) :
    P (refuseNext expected : Rule α)
  refuseConstruct {α : Type} (construct : Construct) : P (refuseConstruct construct : Rule α)
  refuseUnclosed {α : Type} (delimiter : Delimiter) : P (refuseUnclosed delimiter : Rule α)

namespace Closed

variable {P : ∀ ⦃α : Type⦄, Rule α → Prop} {α β : Type} (h : Closed P)

include h

/-! ### Questions and choices -/

theorem nextKind : P (Rule.ask (·.nextKind?)) :=
  h.ask fun unread _ => unread.head?.map fun token : Token => token.kind

theorem nextIs (mark : Punctuator) : P (nextIs mark) :=
  h.ask fun unread _ => unread.head?.map (fun token : Token => token.kind) ==
    some (.punctuator mark)

theorem atEnd : P atEnd := h.ask fun unread _ => TokenStream.atEnd ⟨unread⟩

/-- A rule that is told the unread tokens and the open groups. -/
theorem told {rule : List Token → List OpenGroup → Rule α}
    (hrule : ∀ unread opened, P (rule unread opened)) : P fun s => rule s.unread s.opened s :=
  h.bind (h.ask Prod.mk) fun found => hrule found.1 found.2

/-- A rule that is another one for each list of unread tokens. -/
theorem chosen {rule : Rule α}
    (hrule : ∀ tokens, ∃ rule', P rule' ∧ ∀ s : Reading, s.unread = tokens → rule s = rule' s) :
    P rule := by
  obtain ⟨rule', hrule'⟩ := Classical.axiomOfChoice hrule
  have hsame : rule = fun s => rule' s.unread s := funext fun s => (hrule' s.unread).2 s rfl
  rw [hsame]
  exact h.told fun unread _ => (hrule' unread).1

/-- A rule that is given the number of unread tokens. -/
theorem atSize {rule : Nat → Rule α} (hrule : ∀ size, P (rule size)) :
    P fun s => rule (s.unread.length + 1) s :=
  h.told fun unread _ => hrule (unread.length + 1)

/-- Taking the next token, and then a rule. -/
theorem taking {rule : Rule α} (hrule : P rule) : P (do update (·.advance); rule) :=
  h.bind h.advance fun _ => hrule

/-! ### Marks, names and groups -/

theorem expect (mark : Punctuator) : P (expect mark) := by
  have hwrong : P (Rule.refuseNext [mark.spelling] : Rule Token) :=
    h.refuseNext (List.cons_ne_nil _ _)
  refine h.chosen fun tokens => ?_
  cases tokens with
  | nil => exact ⟨_, hwrong, fun s hunread => expect_of_nil hunread⟩
  | cons token rest =>
      by_cases hkind : token.kind = .punctuator mark
      · exact ⟨_, h.taking (h.pure token), fun s hunread => expect_of_unread hunread hkind⟩
      · exact ⟨_, hwrong, fun s hunread => expect_of_ne hunread hkind⟩

theorem expectName : P expectName := by
  have hwrong : P (Rule.refuseNext ["name"] : Rule (String × Span)) :=
    h.refuseNext (List.cons_ne_nil _ _)
  refine h.chosen fun tokens => ?_
  cases tokens with
  | nil => exact ⟨_, hwrong, fun s hunread => expectName_of_nil hunread⟩
  | cons token rest =>
      cases hname : token.kind.asName? with
      | none => exact ⟨_, hwrong, fun s hunread => expectName_of_none hunread hname⟩
      | some name =>
          exact ⟨_, h.taking (h.pure (name, token.span)), fun s hunread =>
            expectName_of_unread hunread hname⟩

theorem argumentName : P argumentName := h.bind h.expectName fun found => h.pure found.1

theorem openGroup (mark : Punctuator) (enclosure : Enclosure) : P (openGroup mark enclosure) :=
  h.bind (h.expect mark) fun token =>
    h.bind (h.push enclosure token.span) fun _ => h.pure token

theorem closeGroup (mark : Punctuator) : P (closeGroup mark) :=
  h.bind (h.expect mark) fun token => h.bind h.pop fun _ => h.pure token

theorem skipGroup (opening closing : Punctuator) (delimiter : Delimiter) (inner : Nat)
    (tokens : List Token) : P (skipGroup opening closing delimiter inner tokens) := by
  induction tokens generalizing inner with
  | nil =>
      rw [Rule.skipGroup]
      exact h.refuseUnclosed delimiter
  | cons token rest ih =>
      rw [Rule.skipGroup.eq_def]
      apply h.taking
      cases token.kind with
      | finish => exact h.refuseUnclosed delimiter
      | error message notes => exact h.refuse rfl
      | punctuator mark =>
          dsimp only
          split
          · exact ih (inner + 1)
          split
          · cases inner with
            | zero => exact h.pop
            | succ inner => exact ih inner
          · exact ih inner
      | _ => exact ih inner

theorem passGroup (opening closing : Punctuator) (enclosure : Enclosure) :
    P (passGroup opening closing enclosure) :=
  h.bind (h.openGroup opening enclosure) fun _ => h.told fun unread _ =>
    h.skipGroup opening closing enclosure.delimiter 0 unread

/-- A group that may be absent, and then a rule. -/
theorem optionalGroup {opening closing : Punctuator} {enclosure : Enclosure} {next : Rule α}
    (hnext : P next) :
    P (do
      if ← Rule.nextIs opening then Rule.passGroup opening closing enclosure
      next : Rule α) := by
  refine h.bind (h.nextIs opening) fun found => ?_
  cases found with
  | true => exact h.bind (h.passGroup opening closing enclosure) fun _ => hnext
  | false => exact hnext

theorem skipClosers (depth : Nat) (tokens : List Token) : P (skipClosers depth tokens) := by
  have hunclosed : P fun s : Reading => (Rule.refuseUnclosed
      ((s.opened.head?.map (·.enclosure.delimiter)).getD .brace) : Rule Unit) s :=
    h.told fun _ opened => h.refuseUnclosed ((opened.head?.map (·.enclosure.delimiter)).getD .brace)
  induction tokens generalizing depth with
  | nil =>
      cases depth with
      | zero => exact h.pure ()
      | succ depth => exact hunclosed
  | cons token rest ih =>
      cases depth with
      | zero => exact h.pure ()
      | succ depth =>
          simp only [Rule.skipClosers]
          by_cases hfinish : token.kind = .finish
          · simpa only [if_pos hfinish] using hunclosed
          simp only [if_neg hfinish]
          split
          · exact h.taking (ih (depth + 2))
          split
          · exact h.taking (ih depth)
          · exact h.taking (ih (depth + 1))

theorem objectKey (hstring : ∀ token text, P (stringLiteral token text)) : P objectKey := by
  refine h.chosen fun tokens => ?_
  cases tokens with
  | nil =>
      refine ⟨Rule.refuseNext ["name"], h.refuseNext (List.cons_ne_nil _ _), fun s hunread => ?_⟩
      rw [Rule.objectKey, Reading.next?_of_nil hunread]
  | cons token rest =>
      cases hkind : token.kind with
      | string text =>
          exact ⟨_, h.taking (hstring token text), fun s hunread => objectKey_of_string hunread hkind⟩
      | _ =>
          exact ⟨_, h.argumentName, fun s hunread =>
            objectKey_of_ne_string hunread (by simp [hkind])⟩

/-! ### Entries and items -/

section Inside

variable {inner : Rule ArgValue} (hinner : P inner)

include hinner

theorem entries (closing : Punctuator) (delimiter : Delimiter) {key : Rule String} (hkey : P key)
    (limit : Nat) (before : Arguments) : P (entries closing delimiter key inner limit before) := by
  induction limit generalizing before with
  | zero => exact h.refuseUnclosed delimiter
  | succ limit ih =>
      rw [Rule.entries]
      refine h.bind (h.nextIs closing) fun closed => ?_
      cases closed with
      | true => exact h.pure before
      | false =>
          refine h.bind h.atEnd fun ended => ?_
          cases ended with
          | true => exact h.refuseUnclosed delimiter
          | false =>
              refine h.bind hkey fun name => h.bind (h.expect .colon) fun _ => ?_
              exact h.bind hinner fun found => ih _

theorem items (limit : Nat) : P (items inner limit) := by
  induction limit with
  | zero => exact h.refuseUnclosed .bracket
  | succ limit ih =>
      rw [Rule.items]
      refine h.bind (h.nextIs .closeBracket) fun closed => ?_
      cases closed with
      | true => exact h.pure []
      | false =>
          refine h.bind h.atEnd fun ended => ?_
          cases ended with
          | true => exact h.refuseUnclosed .bracket
          | false => exact h.bind hinner fun first => h.bind ih fun more => h.pure _

theorem body (hkey : P Rule.objectKey) (kind : LiteralKind) : P (kind.body inner) := by
  cases kind with
  | object =>
      refine h.bind (h.openGroup .openBrace .objectValue) fun _ => ?_
      refine h.bind (h.atSize fun size => h.entries hinner .closeBrace .brace hkey size [])
        fun found => ?_
      exact h.bind (h.closeGroup .closeBrace) fun _ => h.pure _
  | list =>
      refine h.bind (h.openGroup .openBracket .listValue) fun _ => ?_
      refine h.bind (h.atSize (h.items hinner)) fun found => ?_
      exact h.bind (h.closeGroup .closeBracket) fun _ => h.pure _

end Inside

/-- What a value is at a token that begins no bare run. -/
theorem valueAt (inner : Rule ArgValue) (token : Token)
    (hstring : ∀ text, token.kind = .string text → P (stringLiteral token text))
    (hnumber : ∀ text, token.kind = .int text ∨ token.kind = .float text →
      P (numberLiteral token text))
    (hliteral : ∀ kind : LiteralKind, P (literal kind (kind.body inner))) :
    ∃ rule : Rule ArgValue, P rule ∧
      valueAt inner token = (do if ← Rule.ask (·.startsRun token) then bareRun else rule) := by
  have hwrong : P (Rule.refuseNext ["value"] : Rule ArgValue) :=
    h.refuseNext (List.cons_ne_nil _ _)
  unfold Rule.valueAt
  cases hkind : token.kind with
  | string text =>
      exact ⟨_, h.taking (h.bind (hstring text hkind) fun found => h.pure (.string found)), rfl⟩
  | int text => exact ⟨_, h.taking (hnumber text (.inl hkind)), rfl⟩
  | float text => exact ⟨_, h.taking (hnumber text (.inr hkind)), rfl⟩
  | bool value => exact ⟨_, h.taking (h.pure (.bool value)), rfl⟩
  | null => exact ⟨_, h.taking (h.pure .null), rfl⟩
  | name text => exact ⟨_, h.taking (h.pure (.string text)), rfl⟩
  | punctuator mark =>
      cases mark with
      | dollar =>
          exact ⟨_, h.taking (h.bind h.expectName fun found => h.pure (.variable found.1)), rfl⟩
      | openBrace => exact ⟨_, hliteral .object, rfl⟩
      | openBracket => exact ⟨_, hliteral .list, rfl⟩
      | _ => exact ⟨_, hwrong, rfl⟩
  | _ => exact ⟨_, hwrong, rfl⟩

/-! ### Arguments and operations -/

theorem noDirective : P noDirective := by
  refine h.bind (h.nextIs .at) fun found => ?_
  cases found with
  | true => exact h.refuseConstruct .directives
  | false => exact h.pure ()

section Values

variable (hvalue : P value)

include hvalue

theorem argumentList : P argumentList := by
  refine h.bind (h.openGroup .openParen .fieldArguments) fun _ => ?_
  refine h.bind (h.atSize fun size =>
    h.entries hvalue .closeParen .paren h.argumentName size []) fun found => ?_
  exact h.bind (h.closeGroup .closeParen) fun _ => h.pure found

theorem looseArguments (limit : Nat) (before : Arguments) : P (looseArguments limit before) := by
  induction limit generalizing before with
  | zero => exact h.pure before
  | succ limit ih =>
      rw [Rule.looseArguments]
      refine h.bind h.atEnd fun ended => ?_
      cases ended with
      | true => exact h.pure before
      | false =>
          refine h.bind h.argumentName fun name => h.bind (h.expect .colon) fun _ => ?_
          exact h.bind hvalue fun found => ih _

theorem argumentFragment : P argumentFragment := by
  refine h.bind (h.nextIs .openParen) fun opened => ?_
  cases opened with
  | true => exact h.argumentList hvalue
  | false => exact h.atSize fun size => h.looseArguments hvalue size []

theorem field : P field := by
  refine h.bind h.expectName fun found => h.bind (h.nextIs .colon) fun aliased => ?_
  cases aliased with
  | true => exact h.refuse rfl
  | false =>
      have harguments :
          P (do if ← Rule.nextIs .openParen then Rule.argumentList else return [] :
            Rule Arguments) := by
        refine h.bind (h.nextIs .openParen) fun opened => ?_
        cases opened with
        | true => exact h.argumentList hvalue
        | false => exact h.pure []
      refine h.bind harguments fun arguments => h.bind h.noDirective fun _ => ?_
      exact h.optionalGroup (h.pure _)

theorem fields (limit : Nat) : P (fields limit) := by
  induction limit with
  | zero => exact h.refuseUnclosed .brace
  | succ limit ih =>
      rw [Rule.fields]
      refine h.bind h.nextKind fun kind => ?_
      split
      · exact h.pure []
      · exact h.refuseUnclosed .brace
      · exact h.refuseUnclosed .brace
      · exact h.refuseConstruct .fragments
      · exact h.bind (h.field hvalue) fun first => h.bind ih fun more => h.pure _

theorem operationBody : P operationBody := by
  refine h.bind (h.openGroup .openBrace .operationBody) fun opening => ?_
  refine h.bind (h.atSize (h.fields hvalue)) fun found => ?_
  refine h.bind (h.closeGroup .closeBrace) fun closing => ?_
  split
  · exact h.refuse rfl
  · exact h.pure found

omit hvalue in
theorem operationHead : P operationHead := by
  have hname : P
      (do
        if (← Rule.ask (·.nextKind?)).bind (·.asName?) |>.isSome then
          return some (← Rule.expectName).1
        else return none : Rule (Option String)) := by
    refine h.bind h.nextKind fun kind => ?_
    split
    · exact h.bind h.expectName fun found => h.pure _
    · exact h.pure none
  refine h.bind h.nextKind fun kind => ?_
  split
  · split
    · refine h.taking (h.bind hname fun name => ?_)
      exact h.optionalGroup (h.bind h.noDirective fun _ => h.pure _)
    · split
      · exact h.refuseConstruct .fragments
      · exact h.refuseNext (List.cons_ne_nil _ _)
  · exact h.pure _

theorem operation : P operation := by
  refine h.bind h.operationHead fun head => h.bind (h.operationBody hvalue) fun found => ?_
  exact h.bind (h.observe head.1 found.length) fun _ => h.pure _

end Values

/-! ### Whole documents -/

theorem endOfDocument : P endOfDocument := by
  refine h.chosen fun tokens => ?_
  cases tokens with
  | nil =>
      refine ⟨Pure.pure (), h.pure (), fun s hunread => ?_⟩
      rw [Rule.endOfDocument, Reading.next?_of_nil hunread]
      rfl
  | cons token rest =>
      cases hkind : token.kind with
      | finish =>
          refine ⟨Pure.pure (), h.pure (), fun s hunread => ?_⟩
          simp only [Rule.endOfDocument, Reading.next?_of_unread hunread, hkind]
          rfl
      | error message notes =>
          refine ⟨Rule.refuse fun _ => .lexical message notes token.span, h.refuse rfl,
            fun s hunread => ?_⟩
          simp only [Rule.endOfDocument, Reading.next?_of_unread hunread, hkind]
      | _ =>
          refine ⟨Rule.refuse fun _ => .trailingContent token.kind.shown token.span, h.refuse rfl,
            fun s hunread => ?_⟩
          simp only [Rule.endOfDocument, Reading.next?_of_unread hunread, hkind]

theorem whole {rule : Rule α} (hrule : P rule) : P (whole rule) :=
  h.bind hrule fun value => h.bind h.endOfDocument fun _ => h.pure value

end Closed

end Rule

end CompletionGateway
