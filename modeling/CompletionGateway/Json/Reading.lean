import CompletionGateway.Json.Draft

/-!
# What a JSON text means

The limits of the values are applied here: numbers have a range, surrogate escapes come in pairs,
and containers nest at most 127 deep.  A numeral with a fraction or an exponent keeps as many
leading digits as fit sixty-four bits; that significand is rounded to binary64 and then multiplied
or divided by the rounded power of ten.  The result may differ in its last bit from the number
nearest to the numeral.
-/

namespace CompletionGateway.Json

/-- The numbers below this one fit sixty-four bits. -/
def wordBound : Nat := Nat.pow 2 64

/-- Exponents from this one on are out of range, whatever the significand. -/
def exponentBound : Int := 2147483648

/-- Appends digits to a significand as long as it fits sixty-four bits; also the digits left. -/
def absorbDigits (significand : Nat) : List Char → Nat × List Char
  | [] => (significand, [])
  | c :: rest =>
      let next := significand * 10 + Decimal.digitValue c
      if next < wordBound then absorbDigits next rest else (significand, c :: rest)

/-- The rank of the magnitude nearest to a natural number. -/
def rankOfNat (n : Nat) : Nat := Binary64.rankNearest (n * Binary64.quantaPerOne) 1

/-- The rank of a significand scaled by a power of ten, or `none` if it is out of range. -/
def scaledRank? (significand : Nat) (exponent : Int) : Option Nat :=
  let rank := rankOfNat significand
  if significand = 0 then some 0
  else if 308 < exponent then none
  else if 0 ≤ exponent then
    let scaled := Binary64.rankOfProduct rank (rankOfNat (Nat.pow 10 exponent.toNat))
    if scaled < Binary64.finiteRanks then some scaled else none
  else
    let places := (-exponent).toNat
    if places ≤ 308 then some (Binary64.rankOfQuotient rank (rankOfNat (Nat.pow 10 places)))
    else if places ≤ 616 then
      let lowered := Binary64.rankOfQuotient rank (rankOfNat (Nat.pow 10 308))
      some (Binary64.rankOfQuotient lowered (rankOfNat (Nat.pow 10 (places - 308))))
    else some 0

namespace Numeral

/-- The numeral as a binary64 number, if it is in range. -/
def toReal? (numeral : Numeral) : Option Binary64 :=
  let fraction := numeral.fraction.getD []
  let (significand, skipped) := absorbDigits 0 numeral.whole
  let (significand, ignored) := absorbDigits significand fraction
  let places : Int := (skipped.length : Int) - (fraction.length - ignored.length : Nat)
  let written : Int :=
    match numeral.exponent with
    | none => 0
    | some (true, digits) => -(Decimal.readDigits 0 digits : Int)
    | some (false, digits) => Decimal.readDigits 0 digits
  if exponentBound ≤ written ∧ significand ≠ 0 then none
  else if written ≤ -exponentBound then some (.zero numeral.negative)
  else (scaledRank? significand (places + written)).map (Binary64.ofRank numeral.negative)

/-- The number that a numeral stands for, if it is in range. -/
def toNumber? (numeral : Numeral) : Option JsonNumber :=
  let whole := Decimal.readDigits 0 numeral.whole
  if numeral.fraction = none ∧ numeral.exponent = none ∧ !numeral.negative ∧ whole < wordBound then
    some (.natural whole)
  else if numeral.fraction = none ∧ numeral.exponent = none ∧ numeral.negative ∧ whole ≠ 0 ∧
      2 * whole ≤ wordBound then
    some (.negative whole)
  else numeral.toReal?.map .real

end Numeral

/-- Whether a code unit is the first half of a surrogate pair. -/
def isHighSurrogate (unit : Nat) : Bool := 0xD800 ≤ unit && unit ≤ 0xDBFF

/-- Whether a code unit is the second half of a surrogate pair. -/
def isLowSurrogate (unit : Nat) : Bool := 0xDC00 ≤ unit && unit ≤ 0xDFFF

/-- The characters that the elements of a string stand for, unless a surrogate stands alone. -/
def readParts? : List StringPart → Option (List Char)
  | [] => some []
  | .char c :: rest => (readParts? rest).map (c :: ·)
  | .unit high :: .unit low :: rest =>
      if isHighSurrogate high then
        if isLowSurrogate low then
          let code := 0x10000 + (high - 0xD800) * 0x400 + (low - 0xDC00)
          (readParts? rest).map (Char.ofNat code :: ·)
        else none
      else if isLowSurrogate high then none
      else (readParts? (.unit low :: rest)).map (Char.ofNat high :: ·)
  | .unit unit :: rest =>
      if isHighSurrogate unit || isLowSurrogate unit then none
      else (readParts? rest).map (Char.ofNat unit :: ·)

/-- The string that a sequence of elements stands for. -/
def stringOfParts? (parts : List StringPart) : Option String :=
  (readParts? parts).map String.ofList

namespace Draft

mutual

/-- The value of a draft with at most `room` nested containers. -/
def toJson? (room : Nat) : Draft → Option Json
  | null => some .null
  | bool value => some (.bool value)
  | number numeral => numeral.toNumber?.map .number
  | string parts => (stringOfParts? parts).map .string
  | array items =>
      match room with
      | 0 => none
      | room + 1 => (toItems? room items).map .array
  | object members =>
      match room with
      | 0 => none
      | room + 1 => (toMembers? room members).map fun entries => .object (Dict.ofList entries)

/-- The values of the items of an array. -/
def toItems? (room : Nat) : List Draft → Option (List Json)
  | [] => some []
  | item :: rest => do
      let value ← toJson? room item
      let values ← toItems? room rest
      some (value :: values)

/-- The members of an object as they were written. -/
def toMembers? (room : Nat) : List (List StringPart × Draft) → Option (List (String × Json))
  | [] => some []
  | (name, item) :: rest => do
      let name ← stringOfParts? name
      let value ← toJson? room item
      let members ← toMembers? room rest
      some ((name, value) :: members)

end

end Draft

/-- How deep arrays and objects may nest. -/
def deepestNesting : Nat := 127

/-- Reads a whole text as a value. -/
def ofText? (text : List Char) : Option Json :=
  (Draft.ofText? text).bind (Draft.toJson? deepestNesting)

/-- Reads the UTF-8 encoding of a text as a value. -/
def ofBytes? (bytes : List UInt8) : Option Json :=
  (Utf8.decode? bytes).bind ofText?

end CompletionGateway.Json
