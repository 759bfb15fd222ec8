import CompletionGateway.Text.Slice
import CompletionGateway.Token.Literal

/-!
# Diagnostics

A diagnostic says what is wrong with a query document and where.  Its cause is what programs look
at; the message and the notes are for people.
-/

namespace CompletionGateway

/-- The bracket that opens a group. -/
inductive Delimiter where
  | brace
  | paren
  | bracket
deriving DecidableEq

/-- How the bracket is written. -/
def Delimiter.spelling : Delimiter → String
  | brace => "\x7b"
  | paren => "("
  | bracket => "["

/-- Syntax of the query language that is refused on purpose. -/
inductive Construct where
  | directives
  | fragments
  | fieldAliases
deriving DecidableEq

/-- How messages call the construct. -/
def Construct.title : Construct → String
  | directives => "directives"
  | fragments => "fragments"
  | fieldAliases => "field aliases"

/-- Why a literal has no value. -/
inductive ValueFault where
  /-- A number that is not finite, as it was written. -/
  | number (text : String)
  | string (fault : StringFault)
deriving DecidableEq

/-- The wording of a value fault. -/
def ValueFault.message : ValueFault → String
  | number text => s!"invalid number `{text}`"
  | string fault => s!"invalid string: {fault.message}"

/-- What is wrong with a document. -/
inductive Cause where
  /-- A token of the wrong kind, as it is shown, where one of several was needed. -/
  | unexpectedToken (expected : List String) (found : String)
  /-- The document ends where something is needed. -/
  | unexpectedEnd (expected : List String)
  /-- Text that is no token. -/
  | lexical
  | unclosedDelimiter (delimiter : Delimiter)
  | invalidValue (fault : ValueFault)
  /-- Something follows the operation. -/
  | trailingContent
  | emptySelection
  | unsupported (construct : Construct)
  | nestingTooDeep
deriving DecidableEq

/-- The wording of a cause by itself. -/
def Cause.title : Cause → String
  | unexpectedToken _ found => s!"unexpected token: `{found}`"
  | unexpectedEnd _ => "unexpected end of input"
  | lexical => "lexer error"
  | unclosedDelimiter delimiter => s!"unclosed delimiter: `{delimiter.spelling}`"
  | invalidValue _ => "invalid value"
  | trailingContent => "trailing content after operation"
  | emptySelection => "empty selection set"
  | unsupported construct => s!"unsupported syntax: {construct.title}"
  | nestingTooDeep => "maximum nesting depth exceeded"

/-- A message about a stretch of a document. -/
structure Diagnostic where
  cause : Cause
  message : String
  span : Span
  notes : List Note
deriving DecidableEq

namespace Diagnostic

/-- What may stand at a place, for a message: each in backticks. -/
def alternatives (expected : List String) : String :=
  " or ".intercalate (expected.map fun e => s!"`{e}`")

/-- A token of the wrong kind. -/
def unexpectedToken (expected : List String) (found : String) (span : Span) : Diagnostic :=
  ⟨.unexpectedToken expected found,
    s!"expected {alternatives expected}, found `{found}`", span, []⟩

/-- The end of the document where something is needed. -/
def unexpectedEnd (expected : List String) (span : Span) : Diagnostic :=
  ⟨.unexpectedEnd expected,
    s!"expected {alternatives expected}, found end of input", span, []⟩

/-- A document that breaks off, without even a mark of its end, where something is needed. -/
def missing (expected : List String) (span : Span) : Diagnostic :=
  ⟨.unexpectedEnd expected, s!"expected {alternatives expected}", span, []⟩

/-- Text that is no token. -/
def lexical (message : String) (notes : List Note) (span : Span) : Diagnostic :=
  ⟨.lexical, message, span, notes⟩

/-- A literal without a value. -/
def invalidNumber (text : String) (span : Span) : Diagnostic :=
  ⟨.invalidValue (.number text), s!"number `{text}` is out of range", span, []⟩

/-- A string literal without a value. -/
def invalidString (fault : StringFault) (span : Span) : Diagnostic :=
  ⟨.invalidValue (.string fault), fault.message, span, []⟩

/-- Something behind the operation. -/
def trailingContent (found : String) (span : Span) : Diagnostic :=
  ⟨.trailingContent, s!"unexpected `{found}` after the end of the operation", span,
    [.advise "a document may contain exactly one operation"]⟩

/-- An operation without fields. -/
def emptySelection (span : Span) : Diagnostic :=
  ⟨.emptySelection, "selection set must contain at least one field", span, []⟩

/-- Syntax that is refused on purpose. -/
def unsupported (construct : Construct) (span : Span) : Diagnostic :=
  ⟨.unsupported construct, s!"{construct.title} are not supported", span, []⟩

/-- A value inside too many others. -/
def nestingTooDeep (span : Span) : Diagnostic :=
  ⟨.nestingTooDeep, "maximum nesting depth exceeded", span, []⟩

/-- A failure that nothing explains. -/
def unexplained (span : Span) : Diagnostic :=
  ⟨.unexpectedToken [] "", "invalid document", span, []⟩

end Diagnostic

/-- The text that a span covers in a document, if it fits there. -/
def Span.textIn? (span : Span) (source : List Char) : Option (List Char) :=
  Text.slice source span.start.offset span.stop.offset

end CompletionGateway
