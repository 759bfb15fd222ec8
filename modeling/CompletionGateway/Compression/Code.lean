import CompletionGateway.Compression.Bits

/-!
# Prefix codes

A prefix code gives each symbol a sequence of bits, such that none begins with another one.  The
lengths of the sequences determine the code: shorter ones come first, and those of one length are in
the order of their symbols.
-/

namespace CompletionGateway.Compression

/-- A prefix code as a tree: a bit says where to go on. -/
inductive Code where
  | unused
  | symbol (value : Nat)
  | branch (zero one : Code)

namespace Code

/-- Reads a symbol. -/
def read : Code → List Bool → Except Fault (Nat × List Bool)
  | unused, _ => .error .corrupt
  | symbol value, bits => .ok (value, bits)
  | branch _ _, [] => .error .truncated
  | branch zero one, bit :: bits => if bit then one.read bits else zero.read bits

/-- The greatest length of a sequence of bits. -/
def longest : Nat := 15

/-- The code of the first symbols of a list that is sorted by length, and the symbols that are left.
The code begins `depth` bits below the root and has at most `height` bits. -/
def ofSorted (depth : Nat) : (height : Nat) → List (Nat × Nat) → Code × List (Nat × Nat)
  | _, [] => (unused, [])
  | height, (length, value) :: rest =>
      if length ≤ depth then (symbol value, rest)
      else
        match height with
        | 0 => (unused, (length, value) :: rest)
        | height + 1 =>
            let (zero, rest) := ofSorted (depth + 1) height ((length, value) :: rest)
            let (one, rest) := ofSorted (depth + 1) height rest
            (branch zero one, rest)

/-- Whether the lengths leave no sequence of bits without a symbol, and none with two.  A single
symbol may have any length. -/
def areLengths (lengths : List Nat) : Bool :=
  let used := lengths.filter (· ≠ 0)
  used.length ≤ 1 ||
    used.foldl (fun sum length => sum + Nat.pow 2 (longest - length)) 0 = Nat.pow 2 longest

/-- The code with given lengths, one for each symbol; the length is zero for a symbol that is not
used. -/
def ofLengths (lengths : List Nat) : Except Fault Code :=
  if areLengths lengths then
    let used := lengths.zipIdx.filter (·.1 ≠ 0)
    .ok (ofSorted 0 longest (used.mergeSort fun a b => a.1 ≤ b.1)).1
  else .error .corrupt

end Code

end CompletionGateway.Compression
