import CompletionGateway.Text.Hex
import CompletionGateway.Text.Utf8

/-!
# Percent escapes

A percent escape stands for one byte: a percent sign and two hexadecimal digits.  A percent sign
without two such digits behind it is an ordinary character.
-/

namespace CompletionGateway.Url

/-- The byte that two hexadecimal digits stand for. -/
def escapedByte? (high low : Char) : Option UInt8 := do
  some (UInt8.ofNat ((← Text.hexValue? high) * 16 + (← Text.hexValue? low)))

/-- The bytes of a text, with the escapes decoded that stand for bytes in `isDecoded`. -/
def percentDecode (isDecoded : UInt8 → Bool) : List Char → List UInt8
  | [] => []
  | '%' :: high :: low :: rest =>
      match (escapedByte? high low).filter isDecoded with
      | some byte => byte :: percentDecode isDecoded rest
      | none => Utf8.encode ['%'] ++ percentDecode isDecoded (high :: low :: rest)
  | c :: rest => Utf8.encode [c] ++ percentDecode isDecoded rest

/-- The escape of a byte. -/
def escape (byte : UInt8) : List Char :=
  ['%', (Text.hexDigit (byte.toNat / 16)).toUpper, (Text.hexDigit (byte.toNat % 16)).toUpper]

/-- A text with all characters in `isEscaped` escaped, byte by byte. -/
def percentEncode (isEscaped : Char → Bool) (text : List Char) : List Char :=
  text.flatMap fun c => if isEscaped c then (Utf8.encode [c]).flatMap escape else [c]

/-- The characters that are escaped everywhere: controls, and what is not ASCII. -/
def isControl (c : Char) : Bool := c.toNat < 0x20 || 0x7F ≤ c.toNat

end CompletionGateway.Url
