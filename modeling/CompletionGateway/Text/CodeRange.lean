import CompletionGateway.Text.Hex
import CompletionGateway.Text.Split

/-!
# Ranges of code points

A property of characters is a list of ranges of code points.  Such lists are kept as texts: a range
is its first and its last code point in hexadecimal with a hyphen between, or its only code point,
and blanks separate the ranges.
-/

namespace CompletionGateway.Text

/-- The parts of a text between blanks and line ends. -/
def words (text : String) : List (List Char) :=
  (split (fun c => c = ' ' || c = '\n') text.toList).filter (!·.isEmpty)

/-- The code points from `first` to `last`. -/
structure CodeRange where
  first : Nat
  last : Nat
deriving DecidableEq

namespace CodeRange

/-- Whether a character is in a range. -/
def has (range : CodeRange) (c : Char) : Bool := range.first ≤ c.toNat && c.toNat ≤ range.last

/-- Reads a range. -/
def read (word : List Char) : CodeRange :=
  match split (· = '-') word with
  | [first, last] => ⟨readHex first, readHex last⟩
  | _ => ⟨readHex word, readHex word⟩

/-- Reads ranges. -/
def readList (text : String) : List CodeRange := (words text).map read

end CodeRange

/-- Whether a character is in one of some ranges. -/
def isIn (ranges : List CodeRange) (c : Char) : Bool := ranges.any (·.has c)

end CompletionGateway.Text
