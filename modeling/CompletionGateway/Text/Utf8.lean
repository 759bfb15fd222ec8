/-!
# UTF-8

Decoding is a scan with a small state: either no character has been begun, or some of its bytes have
been read and the state says which bytes may come next.  The table of first bytes excludes overlong
forms, surrogates and values beyond the last code point, so each completed value is a character.
Whatever cannot be completed is reported once, as far as it was well formed, and reading goes on
with the byte that did not fit.
-/

namespace CompletionGateway.Utf8

/-- A character whose first bytes have been read. -/
structure Pending where
  /-- The bits of the code point read so far. -/
  value : Nat
  /-- How many bytes are still missing, less one. -/
  further : Nat
  /-- The least next byte. -/
  low : Nat
  /-- The greatest next byte. -/
  high : Nat
deriving DecidableEq

/-- What one byte contributes: finished characters, `none` standing for malformed bytes, and the
state after it. -/
structure Step where
  output : List (Option Char)
  state : Option Pending

/-- Reads a byte where a character begins. -/
def first (byte : UInt8) : Step :=
  let n := byte.toNat
  if n < 0x80 then ⟨[some (Char.ofNat n)], none⟩
  else if n < 0xC2 then ⟨[none], none⟩
  else if n < 0xE0 then ⟨[], some ⟨n - 0xC0, 0, 0x80, 0xBF⟩⟩
  else if n = 0xE0 then ⟨[], some ⟨0, 1, 0xA0, 0xBF⟩⟩
  else if n = 0xED then ⟨[], some ⟨0xD, 1, 0x80, 0x9F⟩⟩
  else if n < 0xF0 then ⟨[], some ⟨n - 0xE0, 1, 0x80, 0xBF⟩⟩
  else if n = 0xF0 then ⟨[], some ⟨0, 2, 0x90, 0xBF⟩⟩
  else if n < 0xF4 then ⟨[], some ⟨n - 0xF0, 2, 0x80, 0xBF⟩⟩
  else if n = 0xF4 then ⟨[], some ⟨4, 2, 0x80, 0x8F⟩⟩
  else ⟨[none], none⟩

/-- Reads a byte in any state. -/
def step (state : Option Pending) (byte : UInt8) : Step :=
  match state with
  | none => first byte
  | some pending =>
      if pending.low ≤ byte.toNat ∧ byte.toNat ≤ pending.high then
        let value := pending.value * 64 + (byte.toNat - 0x80)
        match pending.further with
        | 0 => ⟨[some (Char.ofNat value)], none⟩
        | further + 1 => ⟨[], some ⟨value, further, 0x80, 0xBF⟩⟩
      else
        let next := first byte
        ⟨none :: next.output, next.state⟩

/-- The characters of `bytes` from a given state on, `none` for each malformed stretch. -/
def scan (state : Option Pending) : List UInt8 → List (Option Char)
  | [] => if state.isSome then [none] else []
  | byte :: rest =>
      let next := step state byte
      next.output ++ scan next.state rest

/-- Decodes well-formed UTF-8 and refuses everything else. -/
def decode? (bytes : List UInt8) : Option (List Char) :=
  (scan none bytes).mapM id

/-- Decodes with the replacement character for each malformed stretch. -/
def decodeLossy (bytes : List UInt8) : List Char :=
  (scan none bytes).map (·.getD '\uFFFD')

/-- The UTF-8 encoding of a text. -/
def encode (text : List Char) : List UInt8 :=
  text.flatMap String.utf8EncodeChar

end CompletionGateway.Utf8
