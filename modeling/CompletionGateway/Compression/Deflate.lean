import CompletionGateway.Compression.Code

/-!
# Deflated streams

A deflated stream is a sequence of blocks.  A block is stored as it is, or it is a sequence of
literal bytes and of copies of what came before, written in a fixed prefix code or in one of its
own.
-/

namespace CompletionGateway.Compression

/-- The codes of a block: for literals and lengths, and for distances. -/
structure BlockCodes where
  literals : Code
  distances : Code

namespace BlockCodes

/-- The codes with given lengths. -/
def ofLengths (literals distances : List Nat) : Except Fault BlockCodes := do
  .ok ⟨← Code.ofLengths literals, ← Code.ofLengths distances⟩

/-- The fixed codes. -/
def fixed : Except Fault BlockCodes :=
  ofLengths (List.replicate 144 8 ++ List.replicate 112 9 ++ List.replicate 24 7 ++
    List.replicate 8 8) (List.replicate 32 5)

/-- The order in which the lengths of the code for lengths are given. -/
def lengthOrder : List Nat :=
  [16, 17, 18, 0, 8, 7, 9, 6, 10, 5, 11, 4, 12, 3, 13, 2, 14, 1, 15]

/-- The lengths that are given in another order. -/
def inOrder (given : List Nat) : List Nat :=
  (List.range 19).map fun symbol => (((lengthOrder.zip given).lookup symbol)).getD 0

/-- Reads lengths until there are `count`.  The symbols from sixteen on repeat the length before or
zero.  `done` is in reverse. -/
def readLengths (code : Code) (count : Nat) :
    (limit : Nat) → (done : List Nat) → List Bool → Except Fault (List Nat × List Bool)
  | 0, _, _ => .error .corrupt
  | limit + 1, done, bits =>
      if count < done.length then .error .corrupt
      else if count = done.length then .ok (done.reverse, bits)
      else do
        let (symbol, bits) ← code.read bits
        if symbol < 16 then readLengths code count limit (symbol :: done) bits
        else
          let (width, least) :=
            if symbol = 16 then (2, 3) else if symbol = 17 then (3, 3) else (7, 11)
          let (more, bits) ← readNumber width bits
          let repeated ← if symbol = 16 then (done.head?.elim (.error .corrupt) .ok) else .ok 0
          readLengths code count limit (List.replicate (least + more) repeated ++ done) bits

/-- Reads the codes of a block. -/
def read (bits : List Bool) : Except Fault (BlockCodes × List Bool) := do
  let (literalCount, bits) ← readNumber 5 bits
  let (distanceCount, bits) ← readNumber 5 bits
  let (lengthCount, bits) ← readNumber 4 bits
  let (given, bits) ← readNumbers 3 (lengthCount + 4) bits
  let code ← Code.ofLengths (inOrder given)
  let count := literalCount + 257 + (distanceCount + 1)
  let (lengths, bits) ← readLengths code count (count + 1) [] bits
  let codes ← ofLengths (lengths.take (literalCount + 257)) (lengths.drop (literalCount + 257))
  .ok (codes, bits)

end BlockCodes

/-- The least length of a copy for a symbol after the literals, and how many bits add to it. -/
def copyLength? (symbol : Nat) : Option (Nat × Nat) :=
  let place := symbol - 257
  if symbol < 257 ∨ 285 < symbol then none
  else if symbol = 285 then some (258, 0)
  else if place < 8 then some (place + 3, 0)
  else
    let width := place / 4 - 1
    some ((place % 4 + 4) * Nat.pow 2 width + 3, width)

/-- The least distance for a symbol, and how many bits add to it. -/
def copyDistance? (symbol : Nat) : Option (Nat × Nat) :=
  if 29 < symbol then none
  else if symbol < 4 then some (symbol + 1, 0)
  else
    let width := symbol / 2 - 1
    some ((symbol % 2 + 2) * Nat.pow 2 width + 1, width)

/-- Reads the number that a symbol stands for. -/
def readAmount (amount? : Nat → Option (Nat × Nat)) (symbol : Nat) (bits : List Bool) :
    Except Fault (Nat × List Bool) :=
  match amount? symbol with
  | none => .error .corrupt
  | some (least, width) => do
      let (more, bits) ← readNumber width bits
      .ok (least + more, bits)

/-- Appends `length` bytes, each the same as the one `distance` bytes before. -/
def copyBack (distance : Nat) : (length : Nat) → Array UInt8 → Array UInt8
  | 0, output => output
  | length + 1, output =>
      copyBack distance length (output.push (output[output.size - distance]?.getD 0))

/-- Reads at most `limit` literals and copies, up to the end of a block. -/
def readSymbols (codes : BlockCodes) :
    (limit : Nat) → Array UInt8 → List Bool → Except Fault (Array UInt8 × List Bool)
  | 0, _, _ => .error .corrupt
  | limit + 1, output, bits => do
      let (symbol, bits) ← codes.literals.read bits
      if symbol < 256 then readSymbols codes limit (output.push (UInt8.ofNat symbol)) bits
      else if symbol = 256 then .ok (output, bits)
      else
        let (length, bits) ← readAmount copyLength? symbol bits
        let (symbol, bits) ← codes.distances.read bits
        let (distance, bits) ← readAmount copyDistance? symbol bits
        if output.size < distance then .error .corrupt
        else readSymbols codes limit (copyBack distance length output) bits

/-- Reads a block that is stored as it is. -/
def readStored (output : Array UInt8) (bits : List Bool) : Except Fault (Array UInt8 × List Bool) := do
  let (length, bits) ← readNumber 16 (toByteBoundary bits)
  let (complement, bits) ← readNumber 16 bits
  if length + complement ≠ 65535 then .error .corrupt
  else
    let (bytes, bits) ← readNumbers 8 length bits
    .ok (output ++ (bytes.map UInt8.ofNat).toArray, bits)

/-- Reads at most `limit` blocks, up to the last one. -/
def readBlocks : (limit : Nat) → Array UInt8 → List Bool → Except Fault (Array UInt8 × List Bool)
  | 0, _, _ => .error .corrupt
  | limit + 1, output, bits => do
      let (isLast, bits) ← readNumber 1 bits
      let (kind, bits) ← readNumber 2 bits
      let (output, bits) ←
        match kind with
        | 0 => readStored output bits
        | 1 => do readSymbols (← BlockCodes.fixed) (bits.length + 1) output bits
        | 2 => do
            let (codes, bits) ← BlockCodes.read bits
            readSymbols codes (bits.length + 1) output bits
        | _ => .error .corrupt
      if isLast = 1 then .ok (output, bits) else readBlocks limit output bits

/-- What a deflated stream stands for, and the bytes behind it. -/
def inflate (bytes : List UInt8) : Except Fault (List UInt8 × List UInt8) := do
  let bits := bitsOf bytes
  let (output, rest) ← readBlocks (bits.length + 1) #[] bits
  .ok (output.toList, bytes.drop (bytes.length - rest.length / 8))

end CompletionGateway.Compression
