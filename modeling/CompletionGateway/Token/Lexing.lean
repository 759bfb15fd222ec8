import CompletionGateway.Token.Passing

/-!
# The tokens of a text

A text is trivia, a lexeme, trivia, a lexeme and so on up to trivia before the end.  Trivia are
spaces, tabs, line breaks, byte order marks, commas, and comments from `#` to the end of the line.
-/

namespace CompletionGateway

/-- The characters that separate tokens and mean nothing else. -/
def isSeparator (c : Char) : Bool :=
  c == ' ' || c == '\t' || c == '\n' || c == '\r' || c == '\uFEFF' || c == ','

/-- The length of the trivia at the front of a text, which may begin inside a comment. -/
def triviaLength (inComment : Bool) : List Char → Nat
  | [] => 0
  | c :: rest =>
      if inComment then triviaLength (c != '\n' && c != '\r') rest + 1
      else if isSeparator c then triviaLength false rest + 1
      else if c = '#' then triviaLength true rest + 1
      else 0

namespace Token

/-- The token at the very end of a text. -/
def finishAt (place : Position) : Token := ⟨.finish, .emptyAt place⟩

/-- The tokens of a text of at most `limit` characters that begins at `cursor`. -/
def listFrom : (limit : Nat) → Cursor → List Char → List Token
  | 0, cursor, _ => [finishAt cursor.position]
  | limit + 1, cursor, text =>
      let gap := triviaLength false text
      let start := cursor.passTrivia gap (text.take gap)
      match text.drop gap with
      | [] => [finishAt start.position]
      | c :: rest =>
          let lexeme := Lexeme.scan c rest
          let stop := start.passLexeme c rest
          ⟨lexeme.kindAt start.position, ⟨start.position, stop.position⟩⟩ ::
            listFrom limit stop lexeme.rest

/-- The tokens of a text, the last of them its end. -/
def list (text : List Char) : List Token := listFrom text.length .start text

end Token

end CompletionGateway
