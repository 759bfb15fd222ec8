import CompletionGateway.Text.Blank
import CompletionGateway.Token.Basic

/-!
# Lexemes

A lexeme is the longest piece at the front of a text that makes one token, found without regard to
where in a document the text stands.  Text that makes no token is a faulty lexeme: it has a fault
and is passed as a whole, so that reading can go on behind it.
-/

namespace CompletionGateway

/-- Why a piece of text is no token. -/
inductive LexicalFault where
  | loneDot
  | twoDots
  | loneMinus
  | leadingZeros
  | emptyExponent
  | gluedNumber
  /-- The text ends inside a string. -/
  | openString (quote : Char)
  /-- The line ends inside a string that must not span lines. -/
  | brokenString
  /-- The text ends inside a block string. -/
  | openBlockString
  | strayCharacter (c : Char)
deriving DecidableEq

namespace LexicalFault

/-- At least four upper-case hexadecimal digits. -/
def codePoint (c : Char) : String :=
  let digits := (Nat.toDigits 16 c.toNat).map Char.toUpper
  String.ofList (List.replicate (4 - digits.length) '0' ++ digits)

/-- A character for a message: in backticks, or by its code point if it would not show. -/
def describe (c : Char) : String :=
  if Text.isControl c || Text.isBlank c then s!"U+{codePoint c}"
  else s!"`{c}`"

/-- The wording of a fault. -/
def message : LexicalFault → String
  | loneDot => "Unexpected `.`"
  | twoDots => "Unexpected `..`"
  | loneMinus => "Unexpected `-`"
  | leadingZeros => "Invalid number: leading zeros are not allowed"
  | emptyExponent => "Invalid number: exponent must have at least one digit"
  | gluedNumber => "Invalid number: unexpected character after numeric literal"
  | openString _ => "Unterminated string literal"
  | brokenString => "Unterminated string literal"
  | openBlockString => "Unterminated block string"
  | strayCharacter c => s!"Unexpected character {describe c}"

/-- The remarks on a fault in the piece of text that begins at `start`. -/
def notes (start : Position) : LexicalFault → List Note
  | twoDots => [.advise "Add one more `.` to form the spread operator `...`"]
  | openString quote =>
      [.explainAt "String started here" (.emptyAt start), .advise s!"Add closing `{quote}`"]
  | brokenString =>
      [.explain "Single-line strings cannot contain unescaped newlines",
        .advise ("Use a block string (triple quotes) for multi-line strings, " ++
          "or escape the newline with `\\n`")]
  | openBlockString =>
      [.explainAt "Block string started here" (.emptyAt start),
        .advise "Add closing `\"\"\"`"]
  | _ => []

/-- Whether the fault is a string without its closing quote. -/
def isOpenString : LexicalFault → Bool
  | openString _ | brokenString | openBlockString => true
  | _ => false

end LexicalFault

/-- The piece at the front of a text: what it is, its characters, and the text behind it. -/
structure Lexeme where
  content : Except LexicalFault TokenKind
  taken : List Char
  rest : List Char

namespace Lexeme

/-- The kind of the token that the lexeme makes at a given place. -/
def kindAt (lexeme : Lexeme) (start : Position) : TokenKind :=
  match lexeme.content with
  | .ok kind => kind
  | .error fault => .error fault.message (fault.notes start)

/-- Whether a character can begin a name. -/
def isNameStart (c : Char) : Bool := c == '_' || c.isAlpha

/-- Whether a character can go on in a name. -/
def isNamePart (c : Char) : Bool := c == '_' || c.isAlphanum

/-- The ten digits. -/
def isDigit (c : Char) : Bool := c.isDigit

/-- The marks that are a single character. -/
def mark? : Char → Option Punctuator
  | '!' => some .bang
  | '$' => some .dollar
  | '(' => some .openParen
  | ')' => some .closeParen
  | ':' => some .colon
  | '=' => some .equals
  | '@' => some .at
  | '[' => some .openBracket
  | ']' => some .closeBracket
  | '{' => some .openBrace
  | '}' => some .closeBrace
  | _ => none

/-- What a word is: one of the three value words, or a name. -/
def wordKind (word : List Char) : TokenKind :=
  if word = "true".toList then .bool true
  else if word = "false".toList then .bool false
  else if word = "null".toList then .null
  else .name (String.ofList word)

/-- Three dots, or the dots before something else. -/
def scanDots : List Char → Lexeme
  | '.' :: '.' :: '.' :: rest => ⟨.ok (.punctuator .ellipsis), ['.', '.', '.'], rest⟩
  | '.' :: '.' :: rest => ⟨.error .twoDots, ['.', '.'], rest⟩
  | text => ⟨.error .loneDot, text.take 1, text.drop 1⟩

/-- A faulty number: everything that could belong to it is passed with it. -/
def brokenNumber (fault : LexicalFault) (taken rest : List Char) : Lexeme :=
  let belongs := fun c => isNamePart c || c == '.' || c == '+' || c == '-'
  ⟨.error fault, taken ++ rest.takeWhile belongs, rest.dropWhile belongs⟩

/-- The fraction of a number: a point that is followed by a digit, and the digits. -/
def splitFraction : List Char → List Char × List Char
  | '.' :: d :: rest =>
      if isDigit d then ('.' :: d :: rest.takeWhile isDigit, rest.dropWhile isDigit)
      else ([], '.' :: d :: rest)
  | text => ([], text)

/-- The exponent mark of a number and its sign, without the digits. -/
def splitExponentMark : List Char → List Char × List Char
  | c :: rest =>
      if c = 'e' ∨ c = 'E' then
        match rest with
        | '+' :: rest => ([c, '+'], rest)
        | '-' :: rest => ([c, '-'], rest)
        | rest => ([c], rest)
      else ([], c :: rest)
  | [] => ([], [])

/-- Whether a text begins with a character of some class. -/
def startsWith (p : Char → Bool) : List Char → Bool
  | c :: _ => p c
  | [] => false

/-- The end of a number whose digits and exponent have been read. -/
def finishNumber (isFloat : Bool) (taken rest : List Char) : Lexeme :=
  if startsWith (fun c => isNameStart c || c == '.') rest then
    brokenNumber .gluedNumber taken rest
  else
    let text := String.ofList taken
    ⟨.ok (if isFloat then .float text else .int text), taken, rest⟩

/-- A number behind its whole part. -/
def scanNumberTail (whole rest : List Char) : Lexeme :=
  let (fraction, rest) := splitFraction rest
  let (exponentMark, rest) := splitExponentMark rest
  let taken := whole ++ fraction ++ exponentMark
  if exponentMark = [] then finishNumber (fraction ≠ []) taken rest
  else if startsWith isDigit rest then
    finishNumber true (taken ++ rest.takeWhile isDigit) (rest.dropWhile isDigit)
  else brokenNumber .emptyExponent taken rest

/-- A number behind its sign. -/
def scanUnsigned (sign : List Char) : List Char → Lexeme
  | '0' :: rest =>
      if startsWith isDigit rest then brokenNumber .leadingZeros (sign ++ ['0']) rest
      else scanNumberTail (sign ++ ['0']) rest
  | text =>
      if startsWith isDigit text then
        scanNumberTail (sign ++ text.takeWhile isDigit) (text.dropWhile isDigit)
      else ⟨.error .loneMinus, sign, text⟩

/-- A number: a sign, a whole part, a fraction and an exponent. -/
def scanNumber : List Char → Lexeme
  | '-' :: rest => scanUnsigned ['-'] rest
  | text => scanUnsigned [] text

/-- How a string ends, the characters up to there, and the text behind. -/
structure StringEnd where
  fault : Option LexicalFault
  taken : List Char
  rest : List Char

/-- One more character before the end of a string. -/
def StringEnd.after (c : Char) (tail : StringEnd) : StringEnd :=
  { tail with taken := c :: tail.taken }

/-- A string on one line, behind its opening quote.  A backslash hides the character behind it,
unless that is a line break. -/
def scanQuoted (quote : Char) : List Char → StringEnd
  | [] => ⟨some (.openString quote), [], []⟩
  | '\n' :: rest => ⟨some .brokenString, ['\n'], rest⟩
  | '\r' :: '\n' :: rest => ⟨some .brokenString, ['\r', '\n'], rest⟩
  | '\r' :: rest => ⟨some .brokenString, ['\r'], rest⟩
  | '\\' :: [] => ⟨some (.openString quote), ['\\'], []⟩
  | '\\' :: c :: rest =>
      if c = '\n' ∨ c = '\r' then .after '\\' (scanQuoted quote (c :: rest))
      else .after '\\' (.after c (scanQuoted quote rest))
  | c :: rest =>
      if c = quote then ⟨none, [c], rest⟩ else .after c (scanQuoted quote rest)

/-- A block string behind its opening quotes.  It ends at the first three quotes that no backslash
precedes. -/
def scanBlock : List Char → StringEnd
  | [] => ⟨some .openBlockString, [], []⟩
  | '\\' :: '"' :: '"' :: '"' :: rest =>
      .after '\\' (.after '"' (.after '"' (.after '"' (scanBlock rest))))
  | '"' :: '"' :: '"' :: rest => ⟨none, ['"', '"', '"'], rest⟩
  | c :: rest => .after c (scanBlock rest)

/-- The lexeme of a string whose opening quotes are `quotes`. -/
def ofStringEnd (quotes : List Char) (tail : StringEnd) : Lexeme :=
  let taken := quotes ++ tail.taken
  match tail.fault with
  | none => ⟨.ok (.string (String.ofList taken)), taken, tail.rest⟩
  | some fault => ⟨.error fault, taken, tail.rest⟩

/-- The lexeme at the front of a text that begins with `c`, which is no trivia. -/
def scan (c : Char) (rest : List Char) : Lexeme :=
  match mark? c with
  | some mark => ⟨.ok (.punctuator mark), [c], rest⟩
  | none =>
      if c = '.' then scanDots (c :: rest)
      else if c = '"' then
        match rest with
        | '"' :: '"' :: rest => ofStringEnd ['"', '"', '"'] (scanBlock rest)
        | rest => ofStringEnd ['"'] (scanQuoted '"' rest)
      else if c = '\'' then ofStringEnd ['\''] (scanQuoted '\'' rest)
      else if isNameStart c then
        let word := c :: rest.takeWhile isNamePart
        ⟨.ok (wordKind word), word, rest.dropWhile isNamePart⟩
      else if c = '-' || isDigit c then scanNumber (c :: rest)
      else ⟨.error (.strayCharacter c), [c], rest⟩

end Lexeme

end CompletionGateway
