import CompletionGateway.Url.Authority
import CompletionGateway.Url.Path

/-!
# Addresses of resources

An address is read leniently and written in a normal form: the scheme and the host in lower case,
the path without dot segments, whatever needs an escape escaped.
-/

namespace CompletionGateway

/-- The address of a resource, in normal form. -/
structure Url where
  scheme : List Char
  authority : Option Url.Authority
  path : Url.Path
  query : Option (List Char)
  fragment : Option (List Char)
deriving DecidableEq

namespace Url

/-! ### Reading -/

/-- The fragment at the back of a text, and what stands before it. -/
def splitFragment (text : List Char) : List Char × Option (List Char) :=
  match splitBefore (· = '#') text with
  | (front, _ :: fragment) => (front, some (percentEncode isEscapedInFragment fragment))
  | (front, []) => (front, none)

/-- The query at the back of a text, and what stands before it. -/
def splitQuery (kind : Kind) (text : List Char) : List Char × Option (List Char) :=
  match splitBefore (· = '?') text with
  | (front, _ :: query) => (front, some (percentEncode (isEscapedInQuery kind) query))
  | (front, []) => (front, none)

/-- The address whose path is read from a text that may go on with a query and a fragment. -/
def withPath (scheme : List Char) (authority : Option Authority) (readPath : List Char → Path)
    (text : List Char) : Url :=
  let (text, fragment) := splitFragment text
  let (path, query) := splitQuery (.ofScheme scheme) text
  ⟨scheme, authority, readPath path, query, fragment⟩

/-- Reads what follows the slashes before an authority.  Only addresses of the web always have a
path. -/
def readPlace? (scheme text : List Char) : Option Url := do
  let kind := Kind.ofScheme scheme
  let (place, rest) := splitBefore (endsAuthority kind) text
  let (authority, left) ← Authority.read? scheme place !rest.isEmpty
  let rest := if left.isEmpty then rest else '/' :: left ++ rest
  some (withPath scheme authority
    (fun path => .segments (if kind = .other ∧ path = [] then [] else readSegments kind path)) rest)

/-- The host of this computer, by name. -/
def localHost : List Char := ['l', 'o', 'c', 'a', 'l', 'h', 'o', 's', 't']

/-- The host of a file, empty for this computer, and the path behind it.  A drive is no host. -/
def splitFileHost? : List Char → Option (List Char × List Char)
  | a :: b :: rest =>
      if isSlash .file a && isSlash .file b then
        let (place, path) := splitBefore (endsAuthority .file) rest
        if isDrive place then some ([], rest)
        else if place.isEmpty then some ([], path)
        else (readHost? place).map fun host => (if host = localHost then [] else host, path)
      else some ([], a :: b :: rest)
  | text => some ([], text)

/-- Reads the address of a file, after its scheme and colon.  Slashes at the front of the path count
as one, and a path that begins with a drive is on this computer. -/
def readFile? (text : List Char) : Option Url := do
  let (host, rest) ← splitFileHost? text
  let url := withPath fileScheme none (fun path => .segments (readSegments .file path)) rest
  match url.path with
  | .segments list =>
      let host := if (list.head?.map isDrive).getD false then [] else host
      let list := list.dropWhile (·.isEmpty)
      let path := .segments (if list.isEmpty then [[]] else list)
      some { url with authority := some (.ofHost host), path }
  | .plain _ => none

/-- Reads an address of another kind, after its scheme and colon. -/
def readOther? (scheme : List Char) : List Char → Option Url
  | '/' :: '/' :: rest => readPlace? scheme rest
  | '/' :: rest =>
      some (withPath scheme none (fun path => .segments (readSegments .other path)) ('/' :: rest))
  | text => some (withPath scheme none (fun path => .plain (percentEncode isControl path)) text)

/-- A text without spaces and controls at its ends, and without tabs and line ends. -/
def cleaned (text : List Char) : List Char :=
  let isOuter := fun (c : Char) => c.toNat ≤ 0x20
  let inner := ((text.dropWhile isOuter).reverse.dropWhile isOuter).reverse
  inner.filter fun c => c ≠ '\t' && c ≠ '\n' && c ≠ '\r'

/-- Reads an absolute address. -/
def ofText? (text : List Char) : Option Url := do
  let (scheme, rest) ← splitScheme? (cleaned text)
  match Kind.ofScheme scheme with
  | .web => readPlace? scheme (rest.dropWhile (isSlash .web))
  | .file => readFile? rest
  | .other => readOther? scheme rest

/-! ### Parts -/

/-- Whether the address has a host. -/
def hasHost (url : Url) : Bool := (url.authority.map (!·.host.isEmpty)).getD false

/-- The address without a name and a password that can be told to a server in another way. -/
def withoutCredentials (url : Url) : Url :=
  { url with authority := url.authority.map fun authority =>
      if authority.credentials.isUsable then { authority with credentials := .absent }
      else authority }

/-- The path and the query, as a request names what it wants. -/
def target (url : Url) : List Char :=
  url.path.write ++ (url.query.map ('?' :: ·)).getD []

/-- The text of an address.  A path that begins with two slashes is kept apart from an authority. -/
def write (url : Url) : List Char :=
  let place :=
    match url.authority, url.path with
    | some authority, _ => authority.write
    | none, .segments ([] :: _ :: _) => ['/', '.']
    | none, _ => []
  url.scheme ++ ':' :: place ++ url.target ++ (url.fragment.map ('#' :: ·)).getD []

/-- The text of an address, as a string. -/
def text (url : Url) : String := String.ofList url.write

/-- Whether the address is one of HTTP, plain or secured. -/
def isHttp (url : Url) : Bool :=
  url.scheme = ['h', 't', 't', 'p'] || url.scheme = ['h', 't', 't', 'p', 's']

/-- The greatest length of an address in a request. -/
def requestLimit : Nat := 65534

/-- Whether a host has a character that an address in a request may not have. -/
def hasUnrequestableHost (url : Url) : Bool :=
  (url.authority.map (·.host.any (· ∈ ['"', '`', '{', '}']))).getD false

/-- Whether a request over HTTP can be made for the address. -/
def isRequestable (url : Url) : Bool :=
  url.isHttp && !url.hasUnrequestableHost && url.write.length ≤ requestLimit

end Url

end CompletionGateway
