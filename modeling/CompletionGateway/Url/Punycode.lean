/-!
# Punycode

Punycode writes a sequence of code points with ASCII characters: first those that are ASCII, then,
in the order of their values, the others, each as a count of the possible insertions that are
skipped.  The counts are written in base thirty-six with thresholds that adapt to their size.
Reading keeps all numbers below `2 ^ 32`.
-/

namespace CompletionGateway.Url.Punycode

/-- The character for a digit below thirty-six. -/
def digit (n : Nat) : Char := if n < 26 then Char.ofNat (0x61 + n) else Char.ofNat (0x30 + n - 26)

/-- The threshold of the digit in a given place. -/
def threshold (place bias : Nat) : Nat :=
  if place ≤ bias then 1 else if bias + 26 ≤ place then 26 else place - bias

/-- A count in digits, with at most `limit` of them. -/
def writeCount (bias : Nat) : (limit : Nat) → (place count : Nat) → List Char
  | 0, _, _ => []
  | limit + 1, place, count =>
      let t := threshold place bias
      if count < t then [digit count]
      else
        digit (t + (count - t) % (36 - t)) ::
          writeCount bias limit (place + 36) ((count - t) / (36 - t))

/-- Divides a count by thirty-five until it is small; the bias that follows from that. -/
def settle : (limit : Nat) → (steps count : Nat) → Nat
  | 0, steps, _ => steps
  | limit + 1, steps, count =>
      if 455 < count then settle limit (steps + 36) (count / 35)
      else steps + 36 * count / (count + 38)

/-- The bias after a count has been written, with `points` code points written so far. -/
def adapt (count points : Nat) (isFirst : Bool) : Nat :=
  let count := if isFirst then count / 700 else count / 2
  settle count 0 (count + count / points)

/-- What is carried from one code point to the next. -/
structure Progress where
  count : Nat
  bias : Nat
  written : Nat
  output : List Char

/-- Passes once over all code points and writes those equal to `value`. -/
def pass (value ascii : Nat) (points : List Nat) (progress : Progress) : Progress :=
  points.foldl (fun progress point =>
    if point < value then { progress with count := progress.count + 1 }
    else if point = value then
      { count := 0
        bias := adapt progress.count (progress.written + 1) (progress.written == ascii)
        written := progress.written + 1
        output := progress.output ++
          writeCount progress.bias (progress.count + 1) 36 progress.count }
    else progress) progress

/-- Writes the code points from `value` on, of which there are at most `limit` different ones. -/
def writeFrom (ascii : Nat) (points : List Nat) : (limit value : Nat) → Progress → Progress
  | 0, _, progress => progress
  | limit + 1, value, progress =>
      match (points.filter (value ≤ ·)).min? with
      | none => progress
      | some next =>
          let skipped := (next - value) * (progress.written + 1)
          let progress := pass next ascii points { progress with count := progress.count + skipped }
          writeFrom ascii points limit (next + 1) { progress with count := progress.count + 1 }

/-- The Punycode of a text. -/
def encode (text : List Char) : List Char :=
  let ascii := text.filter fun c => c.toNat < 0x80
  let front := if ascii.isEmpty then [] else ascii ++ ['-']
  (writeFrom ascii.length (text.map Char.toNat) text.length 0x80
    ⟨0, 72, ascii.length, front⟩).output

/-! ### Reading -/

/-- The value of a digit. -/
def digitValue? (c : Char) : Option Nat :=
  if c.isDigit then some (c.toNat - 0x30 + 26)
  else if c.isAlpha then some (c.toLower.toNat - 0x61)
  else none

/-- A number that is kept, if it is small enough. -/
def kept? (n : Nat) : Option Nat := if n < Nat.pow 2 32 then some n else none

/-- Adds the count at the front of a text to `sum`, and what follows it.  A digit in this place
counts `weight` times. -/
def readCount? (bias : Nat) : (sum place weight : Nat) → List Char → Option (Nat × List Char)
  | _, _, _, [] => none
  | sum, place, weight, c :: rest => do
      let value ← digitValue? c
      let sum ← kept? (sum + value * weight)
      let t := threshold place bias
      if value < t then some (sum, rest)
      else
        let weight ← kept? (weight * (36 - t))
        readCount? bias sum (place + 36) weight rest

/-- The character for a code point. -/
def character? (point : Nat) : Option Char :=
  if point.isValidChar then some (Char.ofNat point) else none

/-- Inserts the characters that at most `limit` counts stand for into `output`.  The last one had
the code point `point`, and the next count begins at `place`. -/
def insertAll? (bias point place : Nat) (output : List Char) :
    (limit : Nat) → List Char → Option (List Char)
  | _, [] => some output
  | 0, _ => none
  | limit + 1, text => do
      let (sum, rest) ← readCount? bias place 36 1 text
      let size := output.length + 1
      let point := point + sum / size
      let c ← character? point
      insertAll? (adapt (sum - place) size (place == 0)) point (sum % size + 1)
        (output.insertIdx (sum % size) c) limit rest

/-- The text that some Punycode stands for. -/
def decode? (code : List Char) : Option (List Char) :=
  let digits := (code.reverse.takeWhile (· ≠ '-')).reverse
  let front := code.take (code.length - digits.length - 1)
  let digits := if front.isEmpty then code else digits
  insertAll? 72 0x80 0 front digits.length digits

end CompletionGateway.Url.Punycode
