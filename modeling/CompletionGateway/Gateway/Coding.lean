import CompletionGateway.Compression.Envelope
import CompletionGateway.Gateway.Http
import CompletionGateway.Text.Blank

/-!
# Codings of bodies

A request may say that its body is coded, that is, compressed.  Two codings can be undone.  Two
others are known, but no body can be read in them unless it is empty.
-/

namespace CompletionGateway.Http

/-- A coding of bodies that is known. -/
inductive Coding where
  | gzip
  | deflate
  | brotli
  | zstandard
deriving DecidableEq

/-- Why a body cannot be decoded. -/
inductive CodingFault where
  | envelope (fault : Compression.EnvelopeFault)
  /-- The coding cannot be undone. -/
  | unreadable (coding : Coding)
deriving DecidableEq

/-- The wording of a fault. -/
def CodingFault.message : CodingFault → String
  | envelope .header => "invalid gzip header"
  | envelope (.stream .truncated) => "deflate decompression error"
  | envelope (.stream .corrupt) => "corrupt deflate stream"
  | envelope .checksum => "corrupt gzip stream does not have a matching checksum"
  | envelope .trailing => "failed to write whole buffer"
  | unreadable .zstandard => "Unknown frame descriptor"
  | unreadable _ => "Invalid Data"

namespace Coding

/-- The coding with a name. -/
def ofName? (name : String) : Option Coding :=
  match name with
  | "gzip" => some gzip
  | "deflate" => some deflate
  | "br" => some brotli
  | "zstd" => some zstandard
  | _ => none

/-- Undoes a coding. -/
def decode (coding : Coding) (bytes : List UInt8) : Except CodingFault (List UInt8) :=
  match coding with
  | gzip => (Compression.openCyclic bytes).mapError .envelope
  | deflate => (Compression.openSummed bytes).mapError .envelope
  | coding => if bytes.isEmpty then .ok [] else .error (.unreadable coding)

end Coding

/-- The coding of the body, if it is a known one. -/
def Request.coding? (request : Request) : Option Coding := do
  let value := (← request.header? "content-encoding").toList
  if isPlainValue value then Coding.ofName? (lowerCase (String.ofList (Text.trim value))) else none

/-- The body without its coding. -/
def Request.decodedBody (request : Request) : Except CodingFault (List UInt8) :=
  match request.coding? with
  | none => .ok request.body
  | some coding => coding.decode request.body

end CompletionGateway.Http
