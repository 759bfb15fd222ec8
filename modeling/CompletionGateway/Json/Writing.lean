import CompletionGateway.Json.Basic
import CompletionGateway.Number.Shortest
import CompletionGateway.Text.Hex

/-!
# The compact text of a JSON value

No space is written anywhere.  In strings only the quote, the backslash and the characters below
U+0020 are escaped.  Whole numbers are written with their digits; a binary64 number is written with
the fewest digits that read back, positionally with at least one digit after the point while its
first digit stands for a power from `10 ^ -5` to `10 ^ 15`, and with a signed exponent otherwise.
-/

namespace CompletionGateway.Json

/-- The layout of binary64 numbers in JSON texts. -/
def realLayout : Binary64.Layout where
  leastPositional := -5
  greatestPositional := 15
  positiveExponent := ['+']

/-- The text of a binary64 number; there is none but `null` for what is not finite. -/
def writeReal : Binary64 → List Char
  | .finite negative rank =>
      let sign := if negative then ['-'] else []
      if rank.val = 0 then sign ++ ['0', '.', '0']
      else
        let (digits, leading) := Binary64.significantDigits (Binary64.shortestDecimal rank.val)
        sign ++ realLayout.write digits leading
  | _ => ['n', 'u', 'l', 'l']

/-- The text of a number. -/
def writeNumber : JsonNumber → List Char
  | .natural n => Decimal.writeNat n
  | .negative n => '-' :: Decimal.writeNat n
  | .real x => writeReal x

/-- One character inside a string. -/
def writeChar (c : Char) : List Char :=
  if c = '"' then ['\\', '"']
  else if c = '\\' then ['\\', '\\']
  else if c = '\x08' then ['\\', 'b']
  else if c = '\x0c' then ['\\', 'f']
  else if c = '\n' then ['\\', 'n']
  else if c = '\r' then ['\\', 'r']
  else if c = '\t' then ['\\', 't']
  else if c.toNat < 0x20 then
    ['\\', 'u', '0', '0', Text.hexDigit (c.toNat / 16), Text.hexDigit (c.toNat % 16)]
  else [c]

/-- A string with its quotes. -/
def writeString (s : String) : List Char :=
  '"' :: s.toList.flatMap writeChar ++ ['"']

mutual

/-- The text of a value. -/
def write : Json → List Char
  | null => ['n', 'u', 'l', 'l']
  | bool true => ['t', 'r', 'u', 'e']
  | bool false => ['f', 'a', 'l', 's', 'e']
  | number value => writeNumber value
  | string s => writeString s
  | array items => '[' :: writeItems items ++ [']']
  | object members => '{' :: writeMembers members ++ ['}']

/-- The items of an array, separated by commas. -/
def writeItems : List Json → List Char
  | [] => []
  | [item] => write item
  | item :: rest => write item ++ ',' :: writeItems rest

/-- The members of an object, separated by commas. -/
def writeMembers : List (String × Json) → List Char
  | [] => []
  | [(name, value)] => writeString name ++ ':' :: write value
  | (name, value) :: rest => writeString name ++ ':' :: write value ++ ',' :: writeMembers rest

end

/-- The compact text of a value. -/
def text (value : Json) : String := String.ofList value.write

end CompletionGateway.Json
