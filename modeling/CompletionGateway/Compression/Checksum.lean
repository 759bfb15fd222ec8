/-!
# Checksums

Two numbers that tell whether bytes are still what they were: the remainder of a division of
polynomials over bits, and a pair of sums.
-/

namespace CompletionGateway.Compression

/-- Divides the lowest bit of a remainder away. -/
def cyclicStep (remainder : UInt32) : UInt32 :=
  if remainder &&& 1 = 1 then (remainder >>> 1) ^^^ 0xEDB88320 else remainder >>> 1

/-- Divides a byte away. -/
def cyclicByte (remainder : UInt32) (byte : UInt8) : UInt32 :=
  (List.range 8).foldl (fun remainder _ => cyclicStep remainder) (remainder ^^^ byte.toUInt32)

/-- The cyclic checksum of bytes. -/
def cyclicChecksum (bytes : List UInt8) : Nat :=
  (bytes.foldl cyclicByte 0xFFFFFFFF ^^^ 0xFFFFFFFF).toNat

/-- The sum of bytes and the sum of these sums, as one number. -/
def sumChecksum (bytes : List UInt8) : Nat :=
  let (sum, sums) := bytes.foldl (fun (sum, sums) byte =>
    let sum := (sum + byte.toNat) % 65521
    (sum, (sums + sum) % 65521)) (1, 0)
  sums * 65536 + sum

/-- The number that bytes are, with the lowest byte first. -/
def numberOf : List UInt8 → Nat
  | [] => 0
  | byte :: rest => byte.toNat + 256 * numberOf rest

end CompletionGateway.Compression
