import CompletionGateway.Text.Position

/-!
# Notes

A note adds context or advice to an error message.  It may point at a related place.
-/

namespace CompletionGateway

/-- Whether a note explains or advises. -/
inductive NoteKind where
  | explanation
  | advice
deriving DecidableEq

/-- A remark that accompanies an error message. -/
structure Note where
  kind : NoteKind
  message : String
  span : Option Span
deriving DecidableEq

namespace Note

/-- An explanation that points nowhere. -/
def explain (message : String) : Note := ⟨.explanation, message, none⟩

/-- An explanation of the text at `span`. -/
def explainAt (message : String) (span : Span) : Note := ⟨.explanation, message, some span⟩

/-- A piece of advice. -/
def advise (message : String) : Note := ⟨.advice, message, none⟩

end Note

end CompletionGateway
