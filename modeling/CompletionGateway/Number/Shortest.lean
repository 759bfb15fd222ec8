import CompletionGateway.Number.Decimal

/-!
# The shortest decimal text of a binary64 number

The reals that round to a given magnitude form an interval, which contains its two ends if the rank
is even.  For one digit, two digits and so on up to seventeen, the two decimals next to the
magnitude on that grid are tried.  The first grid with a hit gives the digits; of two hits the
nearer one, and the even one if both are equally near.  If any decimal of some length lies in the
interval, then one of these two does, so nothing shorter reads back.
-/

namespace CompletionGateway.Binary64

/-- Everything that rounds to one magnitude, in half quanta. -/
structure RoundingInterval where
  low : Nat
  middle : Nat
  high : Nat
  closed : Bool

/-- The rounding interval of a positive rank. -/
def RoundingInterval.ofRank (rank : Nat) : RoundingInterval where
  low := quantaOfRank (rank - 1) + quantaOfRank rank
  middle := 2 * quantaOfRank rank
  high := quantaOfRank rank + quantaOfRank (rank + 1)
  closed := rank % 2 == 0

/-- Half quanta in one. -/
def halfQuantaPerOne : Nat := 2 * quantaPerOne

/-- The numerator and denominator of `10 ^ exponent`. -/
def powerOfTen (exponent : Int) : Nat × Nat :=
  if 0 ≤ exponent then (Nat.pow 10 exponent.toNat, 1) else (1, Nat.pow 10 (-exponent).toNat)

/-- Whether `num / den` half quanta lie in the interval. -/
def RoundingInterval.contains (interval : RoundingInterval) (num den : Nat) : Bool :=
  if interval.closed then interval.low * den ≤ num && num ≤ interval.high * den
  else interval.low * den < num && num < interval.high * den

/-- The better of the two neighbours of the magnitude on the grid of step `10 ^ exponent`, if one
of them lies in the interval. -/
def gridHit? (interval : RoundingInterval) (exponent : Int) : Option Nat :=
  let (num, den) := powerOfTen exponent
  let step := num * halfQuantaPerOne
  let below := interval.middle * den / step
  let above := below + 1
  match interval.contains (below * step) den, interval.contains (above * step) den with
  | true, true =>
      let toBelow := interval.middle * den - below * step
      let toAbove := above * step - interval.middle * den
      if toBelow < toAbove then some below
      else if toAbove < toBelow then some above
      else some (if below % 2 = 0 then below else above)
  | true, false => some below
  | false, true => some above
  | false, false => none

/-- The exponent of the first digit of a positive magnitude. -/
def leadingExponent (rank : Nat) : Int :=
  (Decimal.writeNat (quantaOfRank rank * Nat.pow 10 340 / quantaPerOne)).length - 341

/-- Tries grids from `length` digits on, `more` of them after the first. -/
def searchGrids (interval : RoundingInterval) (leading : Int) : (more length : Nat) → Decimal
  | 0, length =>
      let exponent := leading - length + 1
      ⟨false, (gridHit? interval exponent).getD 0, exponent⟩
  | more + 1, length =>
      let exponent := leading - length + 1
      match gridHit? interval exponent with
      | some coefficient => ⟨false, coefficient, exponent⟩
      | none => searchGrids interval leading more (length + 1)

/-- The shortest decimal that reads back as the magnitude of a positive rank. -/
def shortestDecimal (rank : Nat) : Decimal :=
  searchGrids (.ofRank rank) (leadingExponent rank) 16 1

/-- The digits of a decimal without zeros at the end, and the exponent of the first digit. -/
def significantDigits (d : Decimal) : List Char × Int :=
  let digits := Decimal.writeNat d.coefficient
  let kept := (digits.reverse.dropWhile (· = '0')).reverse
  (kept, d.exponent + digits.length - 1)

/-- How a number with a fraction or a large exponent is laid out. -/
structure Layout where
  /-- The least exponent of the first digit that is written without an exponent part. -/
  leastPositional : Int
  /-- The greatest such exponent. -/
  greatestPositional : Int
  /-- The sign that a positive exponent carries. -/
  positiveExponent : List Char

/-- The text of a positive magnitude with given digits and exponent of the first digit. -/
def Layout.write (layout : Layout) (digits : List Char) (leading : Int) : List Char :=
  if leading < layout.leastPositional ∨ layout.greatestPositional < leading then
    let mantissa :=
      match digits with
      | [] => []
      | [d] => [d]
      | d :: more => d :: '.' :: more
    let exponent := Decimal.writeNat leading.natAbs
    if 0 ≤ leading then mantissa ++ 'e' :: layout.positiveExponent ++ exponent
    else mantissa ++ 'e' :: '-' :: exponent
  else if 0 ≤ leading then
    let places := leading.toNat + 1
    if digits.length ≤ places then
      digits ++ List.replicate (places - digits.length) '0' ++ ['.', '0']
    else digits.take places ++ '.' :: digits.drop places
  else
    '0' :: '.' :: List.replicate (leading.natAbs - 1) '0' ++ digits

end CompletionGateway.Binary64
