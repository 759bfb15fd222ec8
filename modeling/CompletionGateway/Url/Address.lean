import CompletionGateway.Number.Decimal
import CompletionGateway.Text.Hex
import CompletionGateway.Text.Split

/-!
# Numeric addresses of hosts

An IPv4 address is one to four numbers; the last one fills the bytes that are left.  Each number is
decimal, octal after a zero, or hexadecimal after `0x`.  An IPv6 address is eight groups of four
hexadecimal digits; one run of zero groups may be left out, and the last two groups may be written
as an IPv4 address.
-/

namespace CompletionGateway.Url

/-- A number below `2 ^ 32` in a given base, or `none` for what is no number or too large. -/
def readNumber? (base : Nat) (digits : List Char) : Option Nat :=
  if digits.all fun c => (((Text.hexValue? c).map (decide <| · < base)).getD false) then
    let value := digits.foldl (fun value c => value * base + (Text.hexValue? c).getD 0) 0
    if value < Nat.pow 2 32 then some value else none
  else none

/-- The base and the digits of a part of an IPv4 address. -/
def baseAndDigits (part : List Char) : Nat × List Char :=
  match part with
  | '0' :: 'x' :: rest => (16, rest)
  | '0' :: 'X' :: rest => (16, rest)
  | '0' :: d :: rest => (8, d :: rest)
  | part => (10, part)

/-- A part of an IPv4 address. -/
def readPart? (part : List Char) : Option Nat :=
  if part.isEmpty then none
  else
    let (base, digits) := baseAndDigits part
    readNumber? base digits

/-- The parts of a name between dots, without an empty last one. -/
def dottedParts (name : List Char) : List (List Char) :=
  let parts := Text.split (· = '.') name
  if parts.length ≠ 1 ∧ parts.getLast? = some [] then parts.dropLast else parts

/-- Whether a name can only be an IPv4 address, because its last part is a number. -/
def endsInNumber (name : List Char) : Bool :=
  match (dottedParts name).getLast? with
  | none => false
  | some part =>
      !part.isEmpty &&
        (part.all Decimal.isDigit ||
          (let (base, digits) := baseAndDigits part
           digits.all fun c => ((Text.hexValue? c).map (decide <| · < base)).getD false))

/-- The number that an IPv4 address is. -/
def readIpv4? (name : List Char) : Option Nat := do
  let numbers ← (dottedParts name).mapM readPart?
  match numbers.reverse with
  | [] => none
  | last :: front =>
      let left := 4 - front.length
      if 3 < front.length ∨ front.any (255 < ·) ∨ Nat.pow 256 left ≤ last then none
      else some (front.reverse.foldl (fun value n => value * 256 + n) 0 * Nat.pow 256 left + last)

/-- The text of an IPv4 address. -/
def writeIpv4 (address : Nat) : List Char :=
  let byte := fun (place : Nat) => Decimal.writeNat (address / Nat.pow 256 place % 256)
  ['.'].intercalate [byte 3, byte 2, byte 1, byte 0]

/-- A group of an IPv6 address. -/
def readGroup? (digits : List Char) : Option Nat :=
  if digits.isEmpty ∨ 4 < digits.length ∨ !digits.all Text.isHexDigit then none
  else some (Text.readHex digits)

/-- A number of an IPv4 address inside an IPv6 address: decimal, without leading zeros. -/
def readByte? (digits : List Char) : Option Nat :=
  let value := Decimal.readDigits 0 digits
  if digits.isEmpty ∨ !digits.all Decimal.isDigit ∨ (digits.head? = some '0' ∧ digits ≠ ['0']) ∨
      255 < value then none
  else some value

/-- The two groups that an IPv4 address stands for. -/
def readTail? (text : List Char) : Option (List Nat) := do
  match ← (Text.split (· = '.') text).mapM readByte? with
  | [a, b, c, d] => some [a * 256 + b, c * 256 + d]
  | _ => none

/-- Groups between colons.  Only the last one may be written as an IPv4 address. -/
def readGroups? : List (List Char) → Option (List Nat)
  | [] => some []
  | [last] =>
      match readGroup? last with
      | some group => some [group]
      | none => readTail? last
  | first :: rest => do
      let group ← readGroup? first
      let groups ← readGroups? rest
      some (group :: groups)

/-- The parts of a text before and after its first pair of colons. -/
def splitGap? : List Char → Option (List Char × List Char)
  | [] => none
  | ':' :: ':' :: rest => some ([], rest)
  | c :: rest => (splitGap? rest).map fun (front, back) => (c :: front, back)

/-- Groups on one side of the gap of an IPv6 address. -/
def readSide? (text : List Char) : Option (List Nat) :=
  if text.isEmpty then some [] else readGroups? (Text.split (· = ':') text)

/-- The eight groups of an IPv6 address. -/
def readIpv6? (text : List Char) : Option (List Nat) :=
  match splitGap? text with
  | none => (readSide? text).filter (·.length = 8)
  | some (front, back) => do
      if '.' ∈ front then none
      else
        let front ← readSide? front
        let back ← readSide? back
        if front.length + back.length < 8 then
          some (front ++ List.replicate (8 - front.length - back.length) 0 ++ back)
        else none

/-- The number of zeros at the front. -/
def leadingZeros (groups : List Nat) : Nat := (groups.takeWhile (· = 0)).length

/-- The place and the length of the first longest run of zeros. -/
def longestGap : List Nat → Nat × Nat
  | [] => (0, 0)
  | group :: rest =>
      let here := leadingZeros (group :: rest)
      let (place, length) := longestGap rest
      if length ≤ here then (0, here) else (place + 1, length)

/-- Groups with colons between them. -/
def writeGroups (groups : List Nat) : List Char := [':'].intercalate (groups.map (Nat.toDigits 16))

/-- The text of an IPv6 address.  The first longest run of zero groups is left out, if it has at
least two. -/
def writeIpv6 (groups : List Nat) : List Char :=
  let (place, length) := longestGap groups
  if length < 2 then writeGroups groups
  else writeGroups (groups.take place) ++ ':' :: ':' :: writeGroups (groups.drop (place + length))

end CompletionGateway.Url
