import CompletionGateway.Diagnostic.Basic
import CompletionGateway.Operation.Basic
import CompletionGateway.Token.Stream

/-!
# Reading a document token by token

A rule reads tokens and either produces a value or fails.  It fails only after it has recorded why,
so the first recorded error is the one to report.  Besides the unread tokens the state holds the
bracketed groups that are open, how deep the current value is nested, and where the last token
ended, which is the place for errors about the end of the document.
-/

namespace CompletionGateway

/-- What the brackets around a group mean. -/
inductive Enclosure where
  | operationBody
  | selectionSet
  | fieldArguments
  | variableDefinitions
  | listValue
  | objectValue
deriving DecidableEq

namespace Enclosure

/-- How messages call the group. -/
def title : Enclosure → String
  | operationBody => "operation body"
  | selectionSet => "selection set"
  | fieldArguments => "field arguments"
  | variableDefinitions => "variable definitions"
  | listValue => "list value"
  | objectValue => "object value"

/-- The bracket that opens the group. -/
def delimiter : Enclosure → Delimiter
  | operationBody | selectionSet | objectValue => .brace
  | fieldArguments | variableDefinitions => .paren
  | listValue => .bracket

end Enclosure

/-- A group whose closing bracket has not been read. -/
structure OpenGroup where
  enclosure : Enclosure
  /-- Where the opening bracket stands. -/
  span : Span
deriving DecidableEq

/-- What happens while a document is read and may interest whoever watches. -/
inductive ReadingEvent where
  /-- The malformed literal at `start` was replaced by an empty one. -/
  | literalEmptied (start : Position) (reason : Diagnostic)
  /-- A whole operation was read. -/
  | operationRead (type : OperationType) (fieldCount : Nat)
deriving DecidableEq

/-- The state of reading. -/
structure Reading extends TokenStream where
  /-- The open groups, the innermost first. -/
  opened : List OpenGroup
  /-- How many values enclose the next token. -/
  depth : Nat
  /-- The recorded errors, the oldest first. -/
  errors : List Diagnostic
  /-- Where the last token that was taken ends. -/
  lastEnd : Position
  /-- The document, if it is known. -/
  source : Option (List Char)
  /-- What has happened, the oldest first. -/
  events : List ReadingEvent

namespace Reading

/-- The state before anything has been read. -/
def start (source : Option (List Char)) (tokens : List Token) : Reading where
  unread := tokens
  opened := []
  depth := 0
  errors := []
  lastEnd := .origin
  source := source
  events := []

/-- The next token. -/
def next? (s : Reading) : Option Token := s.unread.head?

/-- The next token's kind. -/
def nextKind? (s : Reading) : Option TokenKind := s.next?.map (·.kind)

/-- Takes the next token. -/
def advance (s : Reading) : Reading :=
  match s.unread with
  | [] => s
  | token :: rest => { s with unread := rest, lastEnd := token.span.stop }

/-- The place for errors about the end of the document. -/
def endSpan (s : Reading) : Span := .emptyAt s.lastEnd

/-- The place of the next token. -/
def nextSpan (s : Reading) : Span := (s.next?.map (·.span)).getD s.endSpan

/-- Records an error. -/
def record (s : Reading) (error : Diagnostic) : Reading := { s with errors := s.errors ++ [error] }

/-- Records an event. -/
def observe (s : Reading) (event : ReadingEvent) : Reading :=
  { s with events := s.events ++ [event] }

/-- Opens a group. -/
def push (s : Reading) (enclosure : Enclosure) (span : Span) : Reading :=
  { s with opened := ⟨enclosure, span⟩ :: s.opened }

/-- Closes the innermost group. -/
def pop (s : Reading) : Reading := { s with opened := s.opened.tail }

/-- Discards what reading a malformed literal at `start` has left behind: the open groups are cut
back to the outermost `groups`, and the errors to the first `errors`.  Each error that goes is
observed. -/
def discard (s : Reading) (start : Position) (groups errors : Nat) : Reading :=
  { s with
    opened := s.opened.drop (s.opened.length - groups)
    errors := s.errors.take errors
    events := s.events ++ (s.errors.drop errors).map (.literalEmptied start) }

/-- What to say of the next token where something else is needed. -/
def wrongNext (s : Reading) (expected : List String) : Diagnostic :=
  match s.next? with
  | none => .missing expected s.endSpan
  | some token =>
      match token.kind with
      | .error message notes => .lexical message notes token.span
      | .finish => .unexpectedEnd expected s.endSpan
      | kind => .unexpectedToken expected kind.shown token.span

/-- Records that the document ends inside a group. -/
def recordUnclosed (s : Reading) (delimiter : Delimiter) : Reading :=
  let note := s.opened.head?.map fun group =>
    Note.explainAt s!"opening `{delimiter.spelling}` in {group.enclosure.title} here" group.span
  s.pop.record ⟨.unclosedDelimiter delimiter, s!"unclosed `{delimiter.spelling}`", s.endSpan,
    note.toList⟩

end Reading

/-- What a rule comes to. -/
inductive Outcome (α : Type) where
  | done (value : α) (state : Reading)
  | failed (state : Reading)

/-- A rule of the grammar. -/
def Rule (α : Type) : Type := Reading → Outcome α

namespace Rule

variable {α β : Type}

/-- Reads nothing and yields a value. -/
protected def pure (value : α) : Rule α := fun s => .done value s

/-- Applies a rule and then, unless it failed, the rule that depends on its value. -/
protected def bind (first : Rule α) (second : α → Rule β) : Rule β := fun s =>
  match first s with
  | .done value s => second value s
  | .failed s => .failed s

instance : Monad Rule where
  pure := Rule.pure
  bind := Rule.bind

@[simp]
theorem pure_apply (value : α) (s : Reading) : (pure value : Rule α) s = .done value s := rfl

theorem bind_apply (first : Rule α) (second : α → Rule β) (s : Reading) :
    (first >>= second) s =
      match first s with
      | .done value s => second value s
      | .failed s => .failed s := rfl

/-- Asks about the state. -/
def ask (question : Reading → α) : Rule α := fun s => .done (question s) s

/-- Changes the state. -/
def update (change : Reading → Reading) : Rule Unit := fun s => .done () (change s)

/-- Fails after recording an error. -/
def refuse (reason : Reading → Diagnostic) : Rule α := fun s => .failed (s.record (reason s))

/-- Fails because the document ends inside a group. -/
def refuseUnclosed (delimiter : Delimiter) : Rule α := fun s =>
  .failed (s.recordUnclosed delimiter)

/-- Fails because of the next token. -/
def refuseNext (expected : List String) : Rule α := refuse (·.wrongNext expected)

/-- Fails because the next token begins syntax that is refused on purpose. -/
def refuseConstruct (construct : Construct) : Rule α :=
  refuse fun s => .unsupported construct s.nextSpan

/-- Whether the next token is a given mark. -/
def nextIs (mark : Punctuator) : Rule Bool :=
  ask fun s => s.nextKind? == some (.punctuator mark)

/-- Whether nothing is left to read. -/
def atEnd : Rule Bool := ask fun s => s.toTokenStream.atEnd

/-- Takes a given mark. -/
def expect (mark : Punctuator) : Rule Token := fun s =>
  match s.unread with
  | token :: _ =>
      if token.kind = .punctuator mark then .done token s.advance
      else refuseNext [mark.spelling] s
  | [] => refuseNext [mark.spelling] s

/-- Takes a name; also where it stands. -/
def expectName : Rule (String × Span) := fun s =>
  match s.next?.bind fun token => token.kind.asName?.map fun name => (name, token.span) with
  | some found => .done found s.advance
  | none => refuseNext ["name"] s

/-- Takes the opening bracket of a group. -/
def openGroup (mark : Punctuator) (enclosure : Enclosure) : Rule Token := do
  let token ← expect mark
  update (·.push enclosure token.span)
  return token

/-- Takes the closing bracket of the innermost group. -/
def closeGroup (mark : Punctuator) : Rule Token := do
  let token ← expect mark
  update (·.pop)
  return token

/-- Passes tokens up to the bracket that closes the innermost group.  Of the tokens in between only
the group's own brackets count, of which `inner` are open; `unread` are the unread tokens. -/
def skipGroup (opening closing : Punctuator) (delimiter : Delimiter) :
    (inner : Nat) → (unread : List Token) → Rule Unit
  | _, [] => refuseUnclosed delimiter
  | inner, token :: rest => do
      update (·.advance)
      match token.kind with
      | .finish => refuseUnclosed delimiter
      | .error message notes => refuse fun _ => .lexical message notes token.span
      | .punctuator mark =>
          if mark = opening then skipGroup opening closing delimiter (inner + 1) rest
          else if mark = closing then
            match inner with
            | 0 => update (·.pop)
            | inner + 1 => skipGroup opening closing delimiter inner rest
          else skipGroup opening closing delimiter inner rest
      | _ => skipGroup opening closing delimiter inner rest

/-- Passes a whole group without interpreting it. -/
def passGroup (opening closing : Punctuator) (enclosure : Enclosure) : Rule Unit := do
  let _ ← openGroup opening enclosure
  fun s => skipGroup opening closing enclosure.delimiter 0 s.unread s

/-- Applies a rule to a document.  The first recorded error counts, even if the rule did not
fail. -/
def run (rule : Rule α) (s : Reading) : Except Diagnostic α × List ReadingEvent :=
  match rule s with
  | .done value s =>
      match s.errors with
      | [] => (.ok value, s.events)
      | error :: _ => (.error error, s.events)
  | .failed s => (.error (s.errors.head?.getD (.unexplained s.endSpan)), s.events)

end Rule

end CompletionGateway
