/-!
# Bits

A compressed stream is read bit by bit.  The bits of a byte come from the lowest to the highest, and
so do the bits of a number.
-/

namespace CompletionGateway.Compression

/-- Why a stream cannot be read to its end. -/
inductive Fault where
  /-- The stream ends too early. -/
  | truncated
  /-- The stream says something impossible. -/
  | corrupt
deriving DecidableEq

/-- The bits of a byte. -/
def bitsOfByte (byte : UInt8) : List Bool := (List.range 8).map byte.toNat.testBit

/-- The bits of bytes. -/
def bitsOf (bytes : List UInt8) : List Bool := bytes.flatMap bitsOfByte

/-- Reads a number of `count` bits. -/
def readNumber : (count : Nat) → List Bool → Except Fault (Nat × List Bool)
  | 0, bits => .ok (0, bits)
  | _ + 1, [] => .error .truncated
  | count + 1, bit :: bits => do
      let (value, bits) ← readNumber count bits
      .ok (bit.toNat + 2 * value, bits)

/-- Reads as many numbers of `width` bits as `count` says. -/
def readNumbers (width : Nat) : (count : Nat) → List Bool → Except Fault (List Nat × List Bool)
  | 0, bits => .ok ([], bits)
  | count + 1, bits => do
      let (value, bits) ← readNumber width bits
      let (values, bits) ← readNumbers width count bits
      .ok (value :: values, bits)

/-- Drops the bits that are left of a byte. -/
def toByteBoundary (bits : List Bool) : List Bool := bits.drop (bits.length % 8)

end CompletionGateway.Compression
