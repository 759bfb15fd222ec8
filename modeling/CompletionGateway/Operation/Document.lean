import CompletionGateway.Operation.ValueRule
import CompletionGateway.Token.Lexing

/-!
# Documents

A document holds one operation: optionally a keyword, a name and variable definitions in
parentheses, then the fields in braces.  Variable definitions and what is selected inside a field
are passed without being interpreted.  An argument fragment holds arguments alone.
-/

namespace CompletionGateway

namespace Rule

/-- Fails unless the document ends here. -/
def endOfDocument : Rule Unit := fun s =>
  match s.next? with
  | none => .done () s
  | some token =>
      match token.kind with
      | .finish => .done () s
      | .error message notes => refuse (fun _ => .lexical message notes token.span) s
      | kind => refuse (fun _ => .trailingContent kind.shown token.span) s

/-- Fails if a directive comes next. -/
def noDirective : Rule Unit := do
  if ← nextIs .at then refuseConstruct .directives

/-- A field: a name, arguments and a selection set, which is passed. -/
def field : Rule Field := do
  let (name, span) ← expectName
  if ← nextIs .colon then refuse fun _ => .unsupported .fieldAliases span
  else
    let arguments ← (do if ← nextIs .openParen then argumentList else return [])
    noDirective
    if ← nextIs .openBrace then passGroup .openBrace .closeBrace .selectionSet
    return ⟨name, arguments⟩

/-- Fields up to the closing brace of the operation, at most `limit` of them. -/
def fields : (limit : Nat) → Rule (List Field)
  | 0 => refuseUnclosed .brace
  | limit + 1 => do
      match ← ask (·.nextKind?) with
      | some (.punctuator .closeBrace) => return []
      | none | some .finish => refuseUnclosed .brace
      | some (.punctuator .ellipsis) => refuseConstruct .fragments
      | some _ =>
          let first ← field
          let more ← fields limit
          return first :: more

/-- The fields of an operation in braces, at least one. -/
def operationBody : Rule (List Field) := do
  let opening ← openGroup .openBrace .operationBody
  let found ← fun s => fields (s.unread.length + 1) s
  let closing ← closeGroup .closeBrace
  if found.isEmpty then
    refuse fun _ => .emptySelection ⟨opening.span.start, closing.span.stop⟩
  else return found

/-- What stands before the fields of an operation. -/
def operationHead : Rule (OperationType × Option String) := do
  match ← ask (·.nextKind?) with
  | some (.name word) =>
      match OperationType.ofKeyword? word with
      | some type =>
          update (·.advance)
          let name ← (do
            if (← ask (·.nextKind?)).bind (·.asName?) |>.isSome then
              return some (← expectName).1
            else return none)
          if ← nextIs .openParen then passGroup .openParen .closeParen .variableDefinitions
          noDirective
          return (type, name)
      | none =>
          if word = "fragment" then refuseConstruct .fragments
          else
            refuseNext (Punctuator.openBrace.spelling :: OperationType.all.map (·.keyword))
  | _ => return (.query, none)

/-- An operation. -/
def operation : Rule Operation := do
  let (type, name) ← operationHead
  let found ← operationBody
  update (·.observe (.operationRead type found.length))
  return ⟨type, name, found⟩

/-- A rule and then the end of the document. -/
def whole {α : Type} (rule : Rule α) : Rule α := do
  let value ← rule
  endOfDocument
  return value

end Rule

namespace Operation

/-- Reads the document made of the given tokens; also what happened on the way. -/
def readTokens (source : Option (List Char)) (tokens : List Token) :
    Except Diagnostic Operation × List ReadingEvent :=
  (Rule.whole Rule.operation).run (.start source tokens)

/-- Reads a document; also what happened on the way. -/
def read (source : List Char) : Except Diagnostic Operation × List ReadingEvent :=
  readTokens (some source) (Token.list source)

/-- Reads a document. -/
def parse (source : List Char) : Except Diagnostic Operation := (read source).1

/-- Reads a document from its tokens alone. -/
def ofTokens (tokens : List Token) : Except Diagnostic Operation := (readTokens none tokens).1

/-- The names of the fields, in document order. -/
def fieldNames (operation : Operation) : List String := operation.fields.map (·.name)

end Operation

namespace Arguments

/-- Reads the argument fragment made of the given tokens. -/
def readTokens (source : Option (List Char)) (tokens : List Token) :
    Except Diagnostic Arguments :=
  ((Rule.whole Rule.argumentFragment).run (.start source tokens)).1

/-- Reads an argument fragment. -/
def parse (source : List Char) : Except Diagnostic Arguments :=
  readTokens (some source) (Token.list source)

/-- Reads an argument fragment from its tokens alone. -/
def ofTokens (tokens : List Token) : Except Diagnostic Arguments := readTokens none tokens

end Arguments

end CompletionGateway
