import CompletionGateway.Number.Decimal
import CompletionGateway.Text.Blank
import CompletionGateway.Text.Hex
import CompletionGateway.Text.Line
import CompletionGateway.Text.Slice
import CompletionGateway.Token.Basic

/-!
# Values of literals

A string on one line may contain escapes.  A block string loses the indentation that its lines
share and the blank lines at its ends; in it only three quotes can be escaped.
-/

namespace CompletionGateway

/-- Why a string literal has no value. -/
inductive StringFault where
  /-- A backslash before something that is no escape; the text is the escape as it was written. -/
  | unknownEscape (shown : String)
  | unclosed
  /-- A `\u` escape that is malformed or names no character. -/
  | badCodePoint (shown : String)
deriving DecidableEq

/-- The wording of a string fault. -/
def StringFault.message : StringFault → String
  | unknownEscape shown => s!"invalid escape sequence `{shown}`"
  | unclosed => "string literal is missing its closing quote"
  | badCodePoint shown => s!"invalid unicode escape `{shown}`"

namespace Literal

/-- The character with a given code point.  Surrogates are not characters. -/
def charOfCode? (code : Nat) : Option Char :=
  if code.isValidChar then some (Char.ofNat code) else none

/-- The escape at the front of the text behind `\u`: four digits, or one to six in braces.  The
result is the character and the text behind the escape. -/
def readCodePoint (text : List Char) : Except StringFault (Char × List Char) :=
  match text with
  | '{' :: inner =>
      let digits := inner.takeWhile (· ≠ '}')
      match inner.dropWhile (· ≠ '}') with
      | [] => .error (.badCodePoint (String.ofList ('\\' :: 'u' :: '{' :: inner)))
      | _ :: rest =>
          let fault := StringFault.badCodePoint
            (String.ofList ('\\' :: 'u' :: '{' :: digits ++ ['}']))
          if digits.all Text.isHexDigit ∧ 1 ≤ digits.length ∧ digits.length ≤ 6 then
            match charOfCode? (Text.readHex digits) with
            | some c => .ok (c, rest)
            | none => .error fault
          else .error fault
  | text =>
      let digits := text.take 4
      let fault := StringFault.badCodePoint (String.ofList ('\\' :: 'u' :: digits))
      if digits.all Text.isHexDigit ∧ digits.length = 4 then
        match charOfCode? (Text.readHex digits) with
        | some c => .ok (c, text.drop 4)
        | none => .error fault
      else .error fault

/-- The character behind a short escape in a string with the given quote. -/
def shortEscape? (quote c : Char) : Option Char :=
  if c = 'n' then some '\n'
  else if c = 'r' then some '\r'
  else if c = 't' then some '\t'
  else if c = 'b' then some '\x08'
  else if c = 'f' then some '\x0c'
  else if c = '\\' ∨ c = '/' ∨ c = '"' then some c
  else if c = '\'' ∧ quote = '\'' then some c
  else none

/-- Replaces the escapes in a text of at most `limit` characters. -/
def unescape (quote : Char) : (limit : Nat) → List Char → Except StringFault (List Char)
  | 0, _ => .ok []
  | limit + 1, text =>
      match text with
      | [] => .ok []
      | ['\\'] => .error (.unknownEscape "\\")
      | '\\' :: 'u' :: rest => do
          let (c, rest) ← readCodePoint rest
          return c :: (← unescape quote limit rest)
      | '\\' :: e :: rest =>
          match shortEscape? quote e with
          | some c => return c :: (← unescape quote limit rest)
          | none => .error (.unknownEscape (String.ofList ['\\', e]))
      | c :: rest => return c :: (← unescape quote limit rest)

/-- Replaces the escaped triple quotes of a block string. -/
def unescapeBlock : List Char → List Char
  | [] => []
  | '\\' :: '"' :: '"' :: '"' :: rest => '"' :: '"' :: '"' :: unescapeBlock rest
  | c :: rest => c :: unescapeBlock rest

/-- The bytes of indentation of a line that is not blank. -/
def indentation? (line : List Char) : Option Nat :=
  if Text.allBlank line then none
  else some (Text.byteLength (line.takeWhile Text.isBlank))

/-- A line without its first `indent` bytes, or the line itself if it cannot be cut there. -/
def removeIndent (indent : Nat) (line : List Char) : List Char :=
  (Text.dropBytes indent line).getD line

/-- Removes the indentation that all lines after the first share, and the blank lines at both
ends. -/
def dedent (content : List Char) : List Char :=
  match Text.lines content with
  | [] => []
  | first :: more =>
      let indent := ((more.filterMap indentation?).min?).getD 0
      let lines := first :: more.map (removeIndent indent)
      let kept := ((lines.dropWhile Text.allBlank).reverse.dropWhile Text.allBlank).reverse
      Text.joinLines kept

/-- A text without a given end. -/
def stripEnd? (ending text : List Char) : Option (List Char) :=
  if ending.isSuffixOf text then some (text.take (text.length - ending.length)) else none

/-- The value of a string literal as it was written. -/
def readString (text : List Char) : Except StringFault (List Char) :=
  match text with
  | '"' :: '"' :: '"' :: rest =>
      match stripEnd? ['"', '"', '"'] rest with
      | some content => .ok (dedent (unescapeBlock content))
      | none => .error .unclosed
  | quote :: rest =>
      if quote = '"' ∨ quote = '\'' then
        match stripEnd? [quote] rest with
        | some content => unescape quote content.length content
        | none => .error .unclosed
      else .error .unclosed
  | [] => .error .unclosed

end Literal

namespace TokenKind

/-- The value of a string token; `none` for every other token. -/
def stringValue? : TokenKind → Option (Except StringFault String)
  | string text => some ((Literal.readString text.toList).map String.ofList)
  | _ => none

/-- The value of a number token; `none` for every other token. -/
def numberValue? : TokenKind → Option (Except Decimal.ReadError Binary64)
  | int text => some (Decimal.readNumber text.toList)
  | float text => some (Decimal.readNumber text.toList)
  | _ => none

/-- How a punctuation mark is written; `none` for every other token. -/
def spelling? : TokenKind → Option String
  | punctuator mark => some mark.spelling
  | _ => none

end TokenKind

end CompletionGateway
