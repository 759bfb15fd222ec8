import CompletionGateway.Number.Decimal
import CompletionGateway.Url.Host
import CompletionGateway.Url.Scheme

/-!
# Authorities

The authority of an address says where the resource is and, maybe, in whose name it is asked for:
a name and a password before an at sign, a host, and the number of an endpoint behind a colon.
-/

namespace CompletionGateway.Url

/-- A name and a password, as an address has them. -/
structure Credentials where
  name : List Char
  password : List Char
deriving DecidableEq

namespace Credentials

/-- Neither a name nor a password. -/
def absent : Credentials := ⟨[], []⟩

/-- Reads a name and a password, with the first colon between. -/
def read (text : List Char) : Credentials :=
  let (name, password) := splitBefore (· = ':') text
  let encode := percentEncode isEscapedInCredentials
  ⟨encode name, encode (password.drop 1)⟩

/-- The text of a name and a password, with the at sign. -/
def write (credentials : Credentials) : List Char :=
  if credentials = absent then []
  else
    let password := credentials.password
    credentials.name ++ (if password.isEmpty then [] else ':' :: password) ++ ['@']

/-- Whether the escapes of a text stand for characters. -/
def isReadable (text : List Char) : Bool :=
  (Utf8.decode? (percentDecode (fun _ => true) text)).isSome

/-- Whether a name and a password can be told to a server.  A password that stands for no text does
not count. -/
def isUsable (credentials : Credentials) : Bool :=
  isReadable credentials.name &&
    (!credentials.name.isEmpty ||
      (!credentials.password.isEmpty && isReadable credentials.password))

end Credentials

/-- Who asks, and where. -/
structure Authority where
  credentials : Credentials
  /-- The host, empty if the address only has the slashes before one. -/
  host : List Char
  /-- The number of the TCP endpoint, unless it is the usual one. -/
  endpoint : Option Nat
deriving DecidableEq

namespace Authority

/-- A host and nothing else. -/
def ofHost (host : List Char) : Authority := ⟨.absent, host, none⟩

/-- The text before the last at sign, if there is one, and the text behind it. -/
def splitCredentials (text : List Char) : Option (List Char) × List Char :=
  let place := (text.reverse.takeWhile (· ≠ '@')).reverse
  if place.length = text.length then (none, text)
  else (some (text.take (text.length - place.length - 1)), place)

/-- A host and what stands behind it from a colon on.  Colons in brackets belong to the host. -/
def splitEndpoint : (inBrackets : Bool) → List Char → List Char × List Char
  | _, [] => ([], [])
  | inBrackets, c :: rest =>
      if c = ':' ∧ !inBrackets then ([], c :: rest)
      else
        let inBrackets := if c = '[' then true else if c = ']' then false else inBrackets
        let (host, behind) := splitEndpoint inBrackets rest
        (c :: host, behind)

/-- The number of a TCP endpoint, nothing if no digits are given, and what is left.  Only what
begins with a backslash may be left. -/
def readEndpoint? (text : List Char) : Option (Option Nat × List Char) :=
  let (digits, rest) := splitBefore (!Decimal.isDigit ·) text
  let value := Decimal.readDigits 0 digits
  if !rest.isEmpty ∧ rest.head? ≠ some '\\' then none
  else if digits.isEmpty then some (none, rest)
  else if value < 65536 then some (some value, rest)
  else none

/-- The normal form of a host.  Only addresses of other kinds may have an empty one, and they only
with nothing beside it. -/
def readHost? (kind : Kind) (isAlone : Bool) (host : List Char) : Option (List Char) :=
  if kind ≠ .other then (if host.isEmpty then none else Url.readHost? host)
  else if host.isEmpty then (if isAlone then some [] else none)
  else readPlainHost? host

/-- Reads an authority; what is left belongs to the path.  An at sign alone is no authority if
something follows. -/
def read? (scheme text : List Char) (isFollowed : Bool) : Option (Authority × List Char) := do
  let (credentials, place) := splitCredentials text
  if credentials = some [] ∧ place.isEmpty ∧ isFollowed then none
  else
    let credentials := (credentials.map Credentials.read).getD .absent
    let (host, behind) := splitEndpoint false place
    let (endpoint, left) ← readEndpoint? (behind.drop 1)
    let isAlone := behind.isEmpty && credentials = .absent
    let host ← readHost? (.ofScheme scheme) isAlone host
    some (⟨credentials, host, endpoint.filter (usualEndpoint? scheme ≠ some ·)⟩, left)

/-- The text of an authority, with the slashes before it. -/
def write (authority : Authority) : List Char :=
  let endpoint := (authority.endpoint.map fun n => ':' :: Decimal.writeNat n).getD []
  '/' :: '/' :: authority.credentials.write ++ authority.host ++ endpoint

end Authority

end CompletionGateway.Url
