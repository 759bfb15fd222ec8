import CompletionGateway.Json.Basic
import CompletionGateway.Number.Decimal
import CompletionGateway.Text.Hex
import CompletionGateway.Text.Utf8

/-!
# The shape of a JSON text

A draft is a JSON text that has been checked against the grammar but not yet given a meaning:
numerals are still digits and strings are still sequences of plain characters and escapes.  What
has only a shape is not limited: a draft may nest to any depth, hold numerals beyond every range,
and hold surrogate escapes without a partner.  A member that nobody asks for is therefore accepted
as soon as it has the right shape.
-/

namespace CompletionGateway.Json

/-- A numeral as it was written. -/
structure Numeral where
  negative : Bool
  whole : List Char
  /-- The digits after the point, if there is a point. -/
  fraction : Option (List Char)
  /-- Whether the exponent has a minus, and its digits, if there is an exponent. -/
  exponent : Option (Bool × List Char)
deriving DecidableEq

/-- One element of a string as it was written: a character, plain or behind a short escape, or the
code unit of a `\u` escape. -/
inductive StringPart where
  | char (c : Char)
  | unit (n : Nat)
deriving DecidableEq

/-- A JSON text without its meaning. -/
inductive Draft where
  | null
  | bool (value : Bool)
  | number (value : Numeral)
  | string (parts : List StringPart)
  | array (items : List Draft)
  | object (members : List (List StringPart × Draft))

/-- The white space of JSON texts. -/
def isSpace (c : Char) : Bool := c = ' ' || c = '\t' || c = '\n' || c = '\r'

/-- Skips white space. -/
def skipSpace (text : List Char) : List Char := text.dropWhile isSpace

/-- The code unit that four hexadecimal digits stand for. -/
def readUnit? (a b c d : Char) : Option Nat := do
  let a ← Text.hexValue? a
  let b ← Text.hexValue? b
  let c ← Text.hexValue? c
  let d ← Text.hexValue? d
  some (((a * 16 + b) * 16 + c) * 16 + d)

/-- The character behind a short escape. -/
def shortEscape? : Char → Option Char
  | '"' => some '"'
  | '\\' => some '\\'
  | '/' => some '/'
  | 'b' => some '\x08'
  | 'f' => some '\x0c'
  | 'n' => some '\n'
  | 'r' => some '\r'
  | 't' => some '\t'
  | _ => none

/-- The rest of a string after its opening quote: its elements, and what follows the closing
quote. -/
def readString? : List Char → Option (List StringPart × List Char)
  | [] => none
  | '"' :: rest => some ([], rest)
  | '\\' :: 'u' :: a :: b :: c :: d :: rest => do
      let unit ← readUnit? a b c d
      let (parts, rest) ← readString? rest
      some (.unit unit :: parts, rest)
  | '\\' :: e :: rest => do
      let c ← shortEscape? e
      let (parts, rest) ← readString? rest
      some (.char c :: parts, rest)
  | c :: rest =>
      if c = '\\' ∨ c.toNat < 0x20 then none
      else do
        let (parts, rest) ← readString? rest
        some (.char c :: parts, rest)

/-- The digits at the front of a text, at least one, and the rest. -/
def readDigits? (text : List Char) : Option (List Char × List Char) :=
  match text.takeWhile Decimal.isDigit with
  | [] => none
  | digits => some (digits, text.dropWhile Decimal.isDigit)

/-- The whole part of a numeral: a single zero, or digits that do not begin with zero. -/
def readWhole? : List Char → Option (List Char × List Char)
  | '0' :: rest =>
      if (rest.head?.map Decimal.isDigit).getD false then none else some (['0'], rest)
  | text => readDigits? text

/-- The fraction of a numeral, if there is one. -/
def readFraction? : List Char → Option (Option (List Char) × List Char)
  | '.' :: rest => (readDigits? rest).map fun (digits, rest) => (some digits, rest)
  | text => some (none, text)

/-- The exponent of a numeral, if there is one. -/
def readExponent? : List Char → Option (Option (Bool × List Char) × List Char)
  | c :: rest =>
      if c = 'e' ∨ c = 'E' then
        let (negative, rest) := Decimal.splitSign rest
        (readDigits? rest).map fun (digits, rest) => (some (negative, digits), rest)
      else some (none, c :: rest)
  | [] => some (none, [])

/-- A numeral at the front of a text, and the rest. -/
def readNumeral? (text : List Char) : Option (Numeral × List Char) := do
  let (negative, text) :=
    match text with
    | '-' :: rest => (true, rest)
    | text => (false, text)
  let (whole, text) ← readWhole? text
  let (fraction, text) ← readFraction? text
  let (exponent, text) ← readExponent? text
  some (⟨negative, whole, fraction, exponent⟩, text)

/-- A part of a text that has been read, and the rest. -/
abbrev Reader (α : Type) := List Char → Option (α × List Char)

/-- The items of an array after its opening bracket, which is known not to be followed by the
closing one.  `limit` bounds the number of items. -/
def readItems? (item : Reader Draft) : (limit : Nat) → Reader (List Draft)
  | 0, _ => none
  | limit + 1, text => do
      let (value, text) ← item (skipSpace text)
      match skipSpace text with
      | ',' :: rest =>
          let (more, rest) ← readItems? item limit rest
          some (value :: more, rest)
      | ']' :: rest => some ([value], rest)
      | _ => none

/-- The members of an object after its opening brace, which is known not to be followed by the
closing one.  `limit` bounds the number of members. -/
def readMembers? (item : Reader Draft) :
    (limit : Nat) → Reader (List (List StringPart × Draft))
  | 0, _ => none
  | limit + 1, text => do
      match skipSpace text with
      | '"' :: text =>
          let (name, text) ← readString? text
          match skipSpace text with
          | ':' :: text =>
              let (value, text) ← item (skipSpace text)
              match skipSpace text with
              | ',' :: rest =>
                  let (more, rest) ← readMembers? item limit rest
                  some ((name, value) :: more, rest)
              | '}' :: rest => some ([(name, value)], rest)
              | _ => none
          | _ => none
      | _ => none

/-- A value at the front of a text of at most `limit` characters. -/
def readDraft? : (limit : Nat) → Reader Draft
  | 0, _ => none
  | limit + 1, text =>
      match text with
      | 'n' :: 'u' :: 'l' :: 'l' :: rest => some (.null, rest)
      | 't' :: 'r' :: 'u' :: 'e' :: rest => some (.bool true, rest)
      | 'f' :: 'a' :: 'l' :: 's' :: 'e' :: rest => some (.bool false, rest)
      | '"' :: rest => (readString? rest).map fun (parts, rest) => (.string parts, rest)
      | '[' :: rest =>
          match skipSpace rest with
          | ']' :: rest => some (.array [], rest)
          | rest => (readItems? (readDraft? limit) limit rest).map fun (items, rest) =>
              (.array items, rest)
      | '{' :: rest =>
          match skipSpace rest with
          | '}' :: rest => some (.object [], rest)
          | rest => (readMembers? (readDraft? limit) limit rest).map fun (members, rest) =>
              (.object members, rest)
      | text => (readNumeral? text).map fun (numeral, rest) => (.number numeral, rest)

/-- Reads a whole text: one value with white space around it. -/
def Draft.ofText? (text : List Char) : Option Draft := do
  let text := skipSpace text
  let (draft, rest) ← readDraft? text.length text
  if skipSpace rest = [] then some draft else none

/-- What stands for malformed bytes.  It has the right shape in strings only, not behind a backslash
and not inside an escape, and no string with this text has a meaning. -/
def meaningless : List Char := ['x', '\\', 'u', 'd', '8', '0', '0', 'x']

/-- Reads the UTF-8 encoding of a whole text.  Strings may hold malformed bytes as long as nobody
asks for them. -/
def Draft.ofBytes? (bytes : List UInt8) : Option Draft :=
  Draft.ofText? ((Utf8.scan none bytes).flatMap fun c => (c.map ([·])).getD meaningless)

end CompletionGateway.Json
