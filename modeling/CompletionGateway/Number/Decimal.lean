import CompletionGateway.Number.Binary64

/-!
# Decimal numerals

A decimal is `± coefficient * 10 ^ exponent`.  This module reads the numerals of the query language
and of general decimal text, and rounds a decimal to the nearest binary64 number.
-/

namespace CompletionGateway

/-- The number `± coefficient * 10 ^ exponent`. -/
structure Decimal where
  negative : Bool
  coefficient : Nat
  exponent : Int
deriving DecidableEq

namespace Decimal

/-- Whether a character is one of the ten ASCII digits. -/
def isDigit (c : Char) : Bool := '0' ≤ c && c ≤ '9'

/-- The value of an ASCII digit. -/
def digitValue (c : Char) : Nat := c.toNat - '0'.toNat

/-- The value of a run of digits, continuing from the value of the digits before it. -/
def readDigits (before : Nat) (digits : List Char) : Nat :=
  digits.foldl (fun value c => value * 10 + digitValue c) before

/-- The value of a non-empty run of decimal digits. -/
def readNat? (digits : List Char) : Option Nat :=
  if digits.isEmpty ∨ !digits.all isDigit then none else some (readDigits 0 digits)

/-- A natural number below `2 ^ 64`, perhaps with a plus sign. -/
def readWord? (text : List Char) : Option Nat :=
  let value :=
    match text with
    | '+' :: digits => readNat? digits
    | digits => readNat? digits
  value.filter (· < Nat.pow 2 64)

/-- The digits of a natural number, at least one. -/
def writeNat (n : Nat) : List Char := Nat.toDigits 10 n

/-- The nearest binary64 number.  Decimals far outside the range are settled by the place of their
first digit, before any power is taken. -/
def toBinary64 (d : Decimal) : Binary64 :=
  if d.coefficient = 0 then .zero d.negative
  else
    let magnitude := (writeNat d.coefficient).length + d.exponent
    if 310 < magnitude then .infinite d.negative
    else if magnitude < -330 then .zero d.negative
    else if 0 ≤ d.exponent then
      .ofNat d.negative (d.coefficient * Nat.pow 10 d.exponent.toNat)
    else
      .ofQuotient d.negative d.coefficient (Nat.pow 10 (-d.exponent).toNat)

/-- Why a text is not a number. -/
inductive ReadError where
  | empty
  | malformed
deriving DecidableEq

/-- The wording of a reading error. -/
def ReadError.message : ReadError → String
  | empty => "cannot parse float from empty string"
  | malformed => "invalid float literal"

/-- A sign in front, if there is one: whether it is a minus, and what follows. -/
def splitSign : List Char → Bool × List Char
  | '-' :: rest => (true, rest)
  | '+' :: rest => (false, rest)
  | text => (false, text)

/-- The exponent part of a numeral: nothing at all, or `e`, an optional sign and digits. -/
def readExponent? : List Char → Option Int
  | [] => some 0
  | c :: rest =>
      let (negative, digits) := splitSign rest
      if (c = 'e' ∨ c = 'E') ∧ digits ≠ [] ∧ digits.all isDigit then
        let value : Int := readDigits 0 digits
        some (if negative then -value else value)
      else none

/-- An unsigned numeral: digits with an optional point, at least one digit, and an optional
exponent. -/
def readUnsigned? (negative : Bool) (text : List Char) : Option Decimal :=
  let whole := text.takeWhile isDigit
  let afterWhole := text.dropWhile isDigit
  let (fraction, afterFraction) :=
    match afterWhole with
    | '.' :: rest => (rest.takeWhile isDigit, rest.dropWhile isDigit)
    | rest => ([], rest)
  if whole = [] ∧ fraction = [] then none
  else
    (readExponent? afterFraction).map fun exponent =>
      ⟨negative, readDigits (readDigits 0 whole) fraction, exponent - fraction.length⟩

/-- The ASCII letters in lower case, other characters as they are. -/
def lowerCase (text : List Char) : List Char := text.map Char.toLower

/-- Reads a whole text as a number: a signed numeral, or `inf`, `infinity` or `nan` in any case. -/
def readNumber (text : List Char) : Except ReadError Binary64 :=
  if text = [] then .error .empty
  else
    let (negative, unsigned) := splitSign text
    match readUnsigned? negative unsigned with
    | some decimal => .ok decimal.toBinary64
    | none =>
        let word := lowerCase unsigned
        if word = "inf".toList ∨ word = "infinity".toList then .ok (.infinite negative)
        else if word = "nan".toList then .ok .nan
        else .error .malformed

@[simp]
theorem readDigits_nil (before : Nat) : readDigits before [] = before := rfl

theorem readDigits_append (before : Nat) (front back : List Char) :
    readDigits before (front ++ back) = readDigits (readDigits before front) back := by
  simp [readDigits, List.foldl_append]

end Decimal

end CompletionGateway
