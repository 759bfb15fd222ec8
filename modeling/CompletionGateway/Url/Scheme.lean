import CompletionGateway.Url.Percent

/-!
# Schemes

The scheme of an address says how the rest is read.  The schemes of the web always have a host and a
path, files may have a host but no endpoint, and for both a backslash counts as a slash.
-/

namespace CompletionGateway.Url

/-- A text before and after its first character in `isMark`, which begins the second part. -/
def splitBefore (isMark : Char → Bool) (text : List Char) : List Char × List Char :=
  (text.takeWhile (!isMark ·), text.dropWhile (!isMark ·))

/-- How the rest of an address is read. -/
inductive Kind where
  | web
  | file
  | other
deriving DecidableEq

/-- The usual numbers of the TCP endpoints of the schemes of the web. -/
def webSchemes : List (List Char × Nat) :=
  [(['h', 't', 't', 'p'], 80), (['h', 't', 't', 'p', 's'], 443), (['w', 's'], 80),
    (['w', 's', 's'], 443), (['f', 't', 'p'], 21)]

/-- The scheme of files. -/
def fileScheme : List Char := ['f', 'i', 'l', 'e']

/-- The usual number of the TCP endpoint of a scheme. -/
def usualEndpoint? (scheme : List Char) : Option Nat :=
  (webSchemes.find? fun entry => entry.1 == scheme).map Prod.snd

/-- The kind of the addresses with a scheme. -/
def Kind.ofScheme (scheme : List Char) : Kind :=
  if scheme = fileScheme then .file
  else if (usualEndpoint? scheme).isSome then .web
  else .other

/-- The scheme at the front of a text, in lower case, and what follows its colon. -/
def splitScheme? (text : List Char) : Option (List Char × List Char) :=
  let (scheme, rest) :=
    splitBefore (fun c => !(c.isAlphanum || c = '+' || c = '-' || c = '.')) text
  match rest with
  | ':' :: rest =>
      if (scheme.head?.map Char.isAlpha).getD false then some (scheme.map Char.toLower, rest)
      else none
  | _ => none

/-- Whether a character separates segments. -/
def isSlash (kind : Kind) (c : Char) : Bool := c = '/' || (kind ≠ .other && c = '\\')

/-- Whether a character ends the host and what belongs to it. -/
def endsAuthority (kind : Kind) (c : Char) : Bool := isSlash kind c || c = '?' || c = '#'

/-! ### Characters that are escaped -/

/-- The characters that are escaped in a fragment. -/
def isEscapedInFragment (c : Char) : Bool := isControl c || c ∈ [' ', '"', '<', '>', '`']

/-- The characters that are escaped in a path. -/
def isEscapedInPath (c : Char) : Bool := isEscapedInFragment c || c ∈ ['#', '?', '{', '}']

/-- The characters that are escaped in names and passwords. -/
def isEscapedInCredentials (c : Char) : Bool :=
  isEscapedInPath c || c ∈ ['/', ':', ';', '=', '@', '[', '\\', ']', '^', '|']

/-- The characters that are escaped in a query. -/
def isEscapedInQuery (kind : Kind) (c : Char) : Bool :=
  isControl c || c ∈ [' ', '"', '#', '<', '>'] || (kind ≠ .other && c = '\'')

end CompletionGateway.Url
