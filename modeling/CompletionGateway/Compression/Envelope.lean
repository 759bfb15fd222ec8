import CompletionGateway.Compression.Checksum
import CompletionGateway.Compression.Deflate

/-!
# Deflated streams in envelopes

A deflated stream travels with a header before it and a checksum behind it.  There are two such
envelopes; nothing may follow them.
-/

namespace CompletionGateway.Compression

/-- Why an envelope cannot be opened. -/
inductive EnvelopeFault where
  /-- It does not begin as it should. -/
  | header
  /-- The stream cannot be read to its end. -/
  | stream (fault : Fault)
  /-- The checksum is missing or another one. -/
  | checksum
  /-- Something follows. -/
  | trailing
deriving DecidableEq

/-- The end of what there is. -/
def endsEarly {α : Type} : Except EnvelopeFault α := .error (.stream .truncated)

/-- Reads as many bytes as `count` says. -/
def readBytes (count : Nat) (bytes : List UInt8) : Except EnvelopeFault (List UInt8 × List UInt8) :=
  if bytes.length < count then endsEarly else .ok (bytes.take count, bytes.drop count)

/-- Skips a text up to the zero at its end. -/
def skipText (bytes : List UInt8) : Except EnvelopeFault (List UInt8) :=
  match bytes.dropWhile (· ≠ 0) with
  | [] => endsEarly
  | _ :: rest => .ok rest

/-- Reads the deflated stream in an envelope. -/
def readStream (bytes : List UInt8) : Except EnvelopeFault (List UInt8 × List UInt8) :=
  match inflate bytes with
  | .ok result => .ok result
  | .error fault => .error (.stream fault)

/-- Opens an envelope with a sum of bytes. -/
def openSummed (bytes : List UInt8) : Except EnvelopeFault (List UInt8) := do
  let (header, rest) ← readBytes 2 bytes
  let number := numberOf header.reverse
  let window := number / 4096
  if number % 31 ≠ 0 ∨ number.testBit 5 ∨ number / 256 % 16 ≠ 8 ∨ 7 < window then
    .error (.stream .corrupt)
  else
    let (content, rest) ← readStream rest
    let (checksum, rest) ← readBytes 4 rest
    if numberOf checksum.reverse ≠ sumChecksum content then .error (.stream .corrupt)
    else if !rest.isEmpty then .error .trailing
    else .ok content

/-- Skips the header of an envelope with a cyclic checksum.  Its flags say what follows the first
ten bytes: fields of any length, two texts, and a checksum of the header. -/
def skipHeader (bytes : List UInt8) : Except EnvelopeFault (List UInt8) := do
  let (front, rest) ← readBytes 10 bytes
  match front with
  | 0x1F :: 0x8B :: 0x08 :: flags :: _ => do
      let has := fun place => flags.toNat.testBit place
      if 31 < flags.toNat then .error .header
      else
        let rest ←
          if has 2 then do
            let (length, rest) ← readBytes 2 rest
            let (_, rest) ← readBytes (numberOf length) rest
            .ok rest
          else .ok rest
        let rest ← if has 3 then skipText rest else .ok rest
        let rest ← if has 4 then skipText rest else .ok rest
        if has 1 then do
          let (checksum, behind) ← readBytes 2 rest
          let header := bytes.take (bytes.length - rest.length)
          if numberOf checksum = cyclicChecksum header % 65536 then .ok behind
          else .error .checksum
        else .ok rest
  | _ => .error .header

/-- Opens an envelope with a cyclic checksum. -/
def openCyclic (bytes : List UInt8) : Except EnvelopeFault (List UInt8) := do
  let (content, rest) ← readStream (← skipHeader bytes)
  let trailer := rest.take 8
  if 8 < rest.length then .error .trailing
  else if rest.length = 8 ∧ numberOf (trailer.take 4) = cyclicChecksum content ∧
      numberOf (trailer.drop 4) = content.length % Nat.pow 2 32 then .ok content
  else .error .checksum

end CompletionGateway.Compression
