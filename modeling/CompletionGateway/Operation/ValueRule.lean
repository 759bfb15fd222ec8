import CompletionGateway.Dict
import CompletionGateway.Operation.Reading

/-!
# Rules for values and arguments

A value is a literal, a variable, an object, a list, or a bare run: tokens that touch each other and
make no literal together, such as `deepseek-chat`, are one string.  An object or list that is
malformed but closed is read as an empty one, so that one slip inside a literal does not spoil the
request; its errors are then forgotten.  An object or list that is not closed is an error.
-/

namespace CompletionGateway

/-- How many values may enclose each other, themselves included. -/
def deepestValue : Nat := 64

/-- The two kinds of literal that can be malformed and still closed. -/
inductive LiteralKind where
  | object
  | list
deriving DecidableEq

/-- The literal of a kind that holds nothing. -/
def LiteralKind.empty : LiteralKind → ArgValue
  | object => .object []
  | list => .list []

/-- Whether an error cannot be mended by emptying the literal that it was found in. -/
def Cause.isFatal : Cause → Bool
  | unclosedDelimiter _ | unexpectedEnd _ | nestingTooDeep => true
  | _ => false

/-- Whether a token cannot belong to a bare run. -/
def TokenKind.endsRun : TokenKind → Bool
  | string _ => true
  | finish => true
  | kind => kind.isOpening || kind.isClosing

/-- The tokens at the front that go on with a run whose last token is at `last`, and the rest. -/
def takeRun (last : Span) : List Token → List Token × List Token
  | [] => ([], [])
  | token :: rest =>
      if token.follows last && !token.kind.endsRun then
        let (run, rest) := takeRun token.span rest
        (token :: run, rest)
      else ([], token :: rest)

/-- The first error among some tokens. -/
def lexicalError? : List Token → Option Diagnostic
  | [] => none
  | token :: rest =>
      match token.kind with
      | .error message notes => some (.lexical message notes token.span)
      | _ => lexicalError? rest

namespace Reading

/-- Whether a faulty token is a string without its end, as the document shows. -/
def isOpenString (s : Reading) (token : Token) : Bool :=
  match s.source.bind (Text.dropBytes token.span.start.offset) with
  | some (c :: _) => c == '"' || c == '\''
  | _ => false

/-- Whether the next token begins a bare run. -/
def startsRun (s : Reading) (token : Token) : Bool :=
  match token.kind with
  | .error _ _ => !s.isOpenString token
  | .punctuator mark =>
      mark == .at || mark == .bang || mark == .ellipsis || mark == .equals
  | .name _ | .int _ | .float _ | .bool _ | .null =>
      match s.toTokenStream.peek 1 with
      | some after => after.follows token.span && !after.kind.endsRun
      | none => false
  | .string _ | .finish => false

end Reading

namespace Rule

variable {α : Type}

/-- Applies a rule one level deeper, if there is one. -/
def nested (rule : Rule α) : Rule α := fun s =>
  if s.depth < deepestValue then
    match rule { s with depth := s.depth + 1 } with
    | .done value s => .done value { s with depth := s.depth - 1 }
    | .failed s => .failed { s with depth := s.depth - 1 }
  else refuse (fun s => .nestingTooDeep s.nextSpan) s

/-- A bare run.  It means the text that it covers; without the document at hand, what its tokens
spell, and then none of them may be faulty. -/
def bareRun : Rule ArgValue := fun s =>
  match s.unread with
  | [] => refuseNext ["value"] s
  | first :: rest =>
      let (more, unread) := takeRun first.span rest
      let stop := (more.getLast?.getD first).span.stop
      let after := { s with unread, lastEnd := stop }
      match s.source.bind (Text.slice · first.span.start.offset stop.offset) with
      | some text => .done (.string (String.ofList text)) after
      | none =>
          match lexicalError? (first :: more) with
          | some error => .failed (after.record error)
          | none => .done (.string (String.join ((first :: more).map (·.kind.shown)))) after

/-- The value of a string token that has just been taken. -/
def stringLiteral (token : Token) (text : String) : Rule String :=
  match Literal.readString text.toList with
  | .ok value => return String.ofList value
  | .error fault => refuse fun _ => .invalidString fault token.span

/-- The value of a number token that has just been taken. -/
def numberLiteral (token : Token) (text : String) : Rule ArgValue :=
  match Decimal.readNumber text.toList with
  | .ok value =>
      if value.isFinite then return .number value
      else refuse fun _ => .invalidNumber text token.span
  | .error _ => refuse fun _ => .invalidNumber text token.span

/-- Passes tokens until `depth` groups have been closed, whatever their brackets; `unread` are the
unread tokens. -/
def skipClosers : (depth : Nat) → (unread : List Token) → Rule Unit
  | 0, _ => return
  | _ + 1, [] => fun s =>
      refuseUnclosed ((s.opened.head?.map (·.enclosure.delimiter)).getD .brace) s
  | depth + 1, token :: rest => fun s =>
      if token.kind = .finish then
        refuseUnclosed ((s.opened.head?.map (·.enclosure.delimiter)).getD .brace) s
      else if token.kind.isOpening then skipClosers (depth + 2) rest s.advance
      else if token.kind.isClosing then skipClosers depth rest s.advance
      else skipClosers (depth + 1) rest s.advance

/-- An object or list.  If it fails and none of its errors is fatal, the rest of it is passed and it
counts as empty. -/
def literal (kind : LiteralKind) (body : Rule ArgValue) : Rule ArgValue := fun s =>
  match body s with
  | .done value after => .done value after
  | .failed after =>
      if (after.errors.drop s.errors.length).any (·.cause.isFatal) then .failed after
      else
        match skipClosers (after.opened.length - s.opened.length) after.unread after with
        | .failed after => .failed after
        | .done _ after =>
            .done kind.empty (after.discard s.nextSpan.start s.opened.length s.errors.length)

/-- The key of an object's entry: a name or a string. -/
def objectKey : Rule String := fun s =>
  match s.next? with
  | some token =>
      match token.kind with
      | .string text => stringLiteral token text s.advance
      | _ => (do return (← expectName).1 : Rule String) s
  | none => refuseNext ["name"] s

/-- Entries `key: value` up to the closing bracket of the innermost group, at most `limit` of them,
added to those already read. -/
def entries (closing : Punctuator) (delimiter : Delimiter) (key : Rule String)
    (value : Rule ArgValue) : (limit : Nat) → Arguments → Rule Arguments
  | 0, _ => refuseUnclosed delimiter
  | limit + 1, before => do
      if ← nextIs closing then return before
      else if ← atEnd then refuseUnclosed delimiter
      else
        let name ← key
        let _ ← expect .colon
        let value' ← value
        entries closing delimiter key value limit (Dict.insert before name value')

/-- Items up to the closing bracket of the innermost group, at most `limit` of them. -/
def items (value : Rule ArgValue) : (limit : Nat) → Rule (List ArgValue)
  | 0 => refuseUnclosed .bracket
  | limit + 1 => do
      if ← nextIs .closeBracket then return []
      else if ← atEnd then refuseUnclosed .bracket
      else
        let first ← value
        let more ← items value limit
        return first :: more

/-- An object whose values follow a given rule. -/
def objectBody (value : Rule ArgValue) : Rule ArgValue := do
  let _ ← openGroup .openBrace .objectValue
  let found ← fun s => entries .closeBrace .brace objectKey value (s.unread.length + 1) [] s
  let _ ← closeGroup .closeBrace
  return .object found

/-- A list whose values follow a given rule. -/
def listBody (value : Rule ArgValue) : Rule ArgValue := do
  let _ ← openGroup .openBracket .listValue
  let found ← fun s => items value (s.unread.length + 1) s
  let _ ← closeGroup .closeBracket
  return .list found

/-- A value that begins with a given token, which is next.  `inner` is the rule for the values
inside it. -/
def valueAt (inner : Rule ArgValue) (token : Token) : Rule ArgValue := do
  if ← ask (·.startsRun token) then bareRun
  else
    match token.kind with
    | .punctuator .dollar =>
        update (·.advance)
        let (name, _) ← expectName
        return .variable name
    | .string text =>
        update (·.advance)
        return .string (← stringLiteral token text)
    | .int text | .float text =>
        update (·.advance)
        numberLiteral token text
    | .bool value =>
        update (·.advance)
        return .bool value
    | .null =>
        update (·.advance)
        return .null
    | .name text =>
        update (·.advance)
        return .string text
    | .punctuator .openBrace => literal .object (objectBody inner)
    | .punctuator .openBracket => literal .list (listBody inner)
    | _ => refuseNext ["value"]

/-- A value in a document with fewer than `limit` unread tokens. -/
def valueWithin : (limit : Nat) → Rule ArgValue
  | 0 => nested (refuseNext ["value"])
  | limit + 1 => nested do
      match ← ask (·.next?) with
      | none => refuseNext ["value"]
      | some token => valueAt (valueWithin limit) token

/-- A value. -/
def value : Rule ArgValue := fun s => valueWithin (s.unread.length + 1) s

/-- The name of an argument. -/
def argumentName : Rule String := do return (← expectName).1

/-- Arguments in parentheses. -/
def argumentList : Rule Arguments := do
  let _ ← openGroup .openParen .fieldArguments
  let found ← fun s => entries .closeParen .paren argumentName value (s.unread.length + 1) [] s
  let _ ← closeGroup .closeParen
  return found

/-- Arguments without parentheses, up to the end of the document, at most `limit` of them, added to
those already read. -/
def looseArguments : (limit : Nat) → Arguments → Rule Arguments
  | 0, before => return before
  | limit + 1, before => do
      if ← atEnd then return before
      else
        let name ← argumentName
        let _ ← expect .colon
        let value ← value
        looseArguments limit (Dict.insert before name value)

/-- Arguments with or without parentheses. -/
def argumentFragment : Rule Arguments := do
  if ← nextIs .openParen then argumentList
  else fun s => looseArguments (s.unread.length + 1) [] s

end Rule

end CompletionGateway
