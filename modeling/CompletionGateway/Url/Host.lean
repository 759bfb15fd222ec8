import CompletionGateway.Url.Address
import CompletionGateway.Url.Name.Ascii
import CompletionGateway.Url.Percent

/-!
# Hosts

A host is an IPv6 address in brackets or a name.  Where hosts are looked up in the network, names
are written in lower case and in ASCII, and a name that ends in a number is an IPv4 address.
Elsewhere a name is any text without certain characters.
-/

namespace CompletionGateway.Url

/-- The characters that no host may hold. -/
def isForbiddenInHost (c : Char) : Bool :=
  c = '\x00' || c ∈ ['\t', '\n', '\r', ' ', '#', '/', ':', '<', '>', '?', '@', '[', '\\', ']',
    '^', '|']

/-- The characters that no looked-up name may hold. -/
def isForbiddenInName (c : Char) : Bool :=
  isForbiddenInHost c || c.toNat < 0x20 || c = '%' || c = '\x7f'

/-- An IPv6 address in brackets, after the opening one. -/
def readBracketed? (text : List Char) : Option (List Char) :=
  if text.getLast? = some ']' then
    (readIpv6? text.dropLast).map fun groups => '[' :: writeIpv6 groups ++ [']']
  else none

/-- The normal form of a host that is looked up. -/
def readHost? (text : List Char) : Option (List Char) :=
  match text with
  | '[' :: rest => readBracketed? rest
  | text => do
      let name ← Name.ofText? (← Utf8.decode? (percentDecode (fun _ => true) text))
      if name.isEmpty ∨ name.any isForbiddenInName then none
      else if endsInNumber name then (readIpv4? name).map writeIpv4
      else some name

/-- The normal form of a host that is not looked up. -/
def readPlainHost? (text : List Char) : Option (List Char) :=
  match text with
  | '[' :: rest => readBracketed? rest
  | text =>
      if text.any isForbiddenInHost then none else some (percentEncode isControl text)

end CompletionGateway.Url
