import CompletionGateway.Diagnostic.Basic

/-!
# Reports

The one-line form of a diagnostic gives its place and its message.  The detailed form quotes the
line that the diagnostic begins on, with marks under the part that the span covers, and then the
notes, each with a quotation of its own if it points at a place.  The blanks before the marks are
padding, which formatting limits: a report that has to indent its marks further breaks off.
-/

namespace CompletionGateway

/-- The same character several times. -/
def repeated (count : Nat) (c : Char) : String := String.ofList (List.replicate count c)

/-- A number, flush right in a column. -/
def padLeft (width n : Nat) : String :=
  let digits := toString n
  repeated (width - digits.length) ' ' ++ digits

/-- The widest padding that formatting can be asked for. -/
def maxWidth : Nat := 65535

/-- Why a report breaks off: a padding that is too wide. -/
structure WidthOverflow where
  width : Nat
deriving DecidableEq

/-- The blanks before a column. -/
def indentTo (column : Nat) : Except WidthOverflow String :=
  if column ≤ maxWidth then .ok (repeated column ' ') else .error ⟨column⟩

/-- The line that a span begins on, under its number, with marks below the part of the span that
lies on it; at least one mark.  There is none if the document has no such line. -/
def Span.quote? (span : Span) (mark : Char) (source : List Char) :
    Except WidthOverflow (Option String) :=
  match (Text.lines source)[span.start.line]? with
  | none => .ok none
  | some line => do
      let number := span.start.line + 1
      let width := max 2 (toString number).length
      let stop := if span.stop.line = span.start.line then span.stop.column else line.length
      let marks := max 1 (stop - span.start.column)
      let margin := repeated width ' '
      -- the margin is as wide as a line number, so only the marks can stand too far to the right
      let indent ← indentTo span.start.column
      return some (s!"{margin} |\n{padLeft width number} | {String.ofList line}\n" ++
        s!"{margin} | {indent}{repeated marks mark}\n")

/-- How reports introduce a note. -/
def NoteKind.heading : NoteKind → String
  | explanation => "note"
  | advice => "help"

/-- A note in a report, with a quotation if it points into the document. -/
def Note.report (note : Note) (source : Option (List Char)) : Except WidthOverflow String := do
  let quotation ←
    match note.span, source with
    | some span, some source => span.quote? '-' source
    | _, _ => .ok none
  return s!"   = {note.kind.heading}: {note.message}\n" ++ quotation.getD ""

namespace Diagnostic

/-- The line and column where a diagnostic begins, counted from one. -/
def place (diagnostic : Diagnostic) : String :=
  let start := diagnostic.span.start
  s!"{start.line + 1}:{start.column + 1}"

/-- Place and message on one line. -/
def oneLine (diagnostic : Diagnostic) : String :=
  s!"{diagnostic.place}: {diagnostic.message}"

/-- Message, place, quotation and notes; without the document there are no quotations. -/
def detailed (diagnostic : Diagnostic) (source : Option (List Char)) :
    Except WidthOverflow String := do
  let quotation ←
    match source with
    | some source => diagnostic.span.quote? '^' source
    | none => .ok none
  let notes ← diagnostic.notes.mapM (·.report source)
  return s!"error: {diagnostic.message}\n  --> <query>:{diagnostic.place}\n" ++
    quotation.getD "" ++ String.join notes

end Diagnostic

end CompletionGateway
