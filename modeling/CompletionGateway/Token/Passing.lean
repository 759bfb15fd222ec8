import CompletionGateway.Token.Lexeme

/-!
# How the cursor passes a text

The cursor walks over trivia and lexemes one character at a time, but for three kinds of runs, over
which it skips: the rest of a comment, a name, and the digits of a number.
-/

namespace CompletionGateway

namespace Cursor

/-- Passes trivia of at most `limit` characters. -/
def passTrivia (cursor : Cursor) : (limit : Nat) → List Char → Cursor
  | 0, _ => cursor
  | _ + 1, [] => cursor
  | limit + 1, c :: rest =>
      if c = '#' then
        let inLine := fun c => c != '\n' && c != '\r'
        passTrivia ((cursor.step c).skip (rest.takeWhile inLine)) limit (rest.dropWhile inLine)
      else passTrivia (cursor.step c) limit rest

/-- Passes what belongs to a faulty number, behind its fault. -/
def passBroken (cursor : Cursor) (rest : List Char) : Cursor :=
  let belongs := fun c => Lexeme.isNamePart c || c == '.' || c == '+' || c == '-'
  cursor.walk (rest.takeWhile belongs)

/-- Passes what is glued to a number, behind its digits and its exponent. -/
def passGlued (cursor : Cursor) (rest : List Char) : Cursor :=
  if Lexeme.startsWith (fun c => Lexeme.isNameStart c || c == '.') rest then cursor.passBroken rest
  else cursor

/-- Passes the fraction of a number: a point and digits. -/
def passFraction (cursor : Cursor) : List Char → Cursor
  | [] => cursor
  | point :: digits => (cursor.step point).skip digits

/-- Passes a number, behind its whole part. -/
def passNumberTail (cursor : Cursor) (rest : List Char) : Cursor :=
  let (fraction, rest) := Lexeme.splitFraction rest
  let (exponentMark, rest) := Lexeme.splitExponentMark rest
  let behindMark := (cursor.passFraction fraction).walk exponentMark
  if exponentMark = [] then behindMark.passGlued rest
  else if Lexeme.startsWith Lexeme.isDigit rest then
    (behindMark.skip (rest.takeWhile Lexeme.isDigit)).passGlued (rest.dropWhile Lexeme.isDigit)
  else behindMark.passBroken rest

/-- Passes a number, behind its sign. -/
def passUnsigned (cursor : Cursor) : List Char → Cursor
  | '0' :: rest =>
      if Lexeme.startsWith Lexeme.isDigit rest then (cursor.step '0').passBroken rest
      else (cursor.step '0').passNumberTail rest
  | text =>
      if Lexeme.startsWith Lexeme.isDigit text then
        (cursor.skip (text.takeWhile Lexeme.isDigit)).passNumberTail (text.dropWhile Lexeme.isDigit)
      else cursor

/-- Passes a number. -/
def passNumber (cursor : Cursor) : List Char → Cursor
  | '-' :: rest => (cursor.step '-').passUnsigned rest
  | text => cursor.passUnsigned text

/-- Passes the lexeme at the front of a text that begins with `c`, which is no trivia. -/
def passLexeme (cursor : Cursor) (c : Char) (rest : List Char) : Cursor :=
  if Lexeme.isNameStart c then cursor.skip (c :: rest.takeWhile Lexeme.isNamePart)
  else if c = '-' || Lexeme.isDigit c then cursor.passNumber (c :: rest)
  else cursor.walk (Lexeme.scan c rest).taken

end Cursor

end CompletionGateway
