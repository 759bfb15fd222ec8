import CompletionGateway.Number.Decimal
import CompletionGateway.Url.Percent

/-!
# HTTP messages

Only what the gateway looks at: of a request its method, target, headers and body, of an answer its
status, headers and body.  The names of headers are the same in any mixture of ASCII cases.
-/

namespace CompletionGateway.Http

/-- A request. -/
structure Request where
  method : String
  target : String
  headers : List (String × String)
  body : List UInt8

/-- An answer. -/
structure Answer where
  status : Nat
  headers : List (String × String)
  body : String

/-- A text in lower case, as far as it is ASCII. -/
def lowerCase (text : String) : String := String.ofList (text.toList.map Char.toLower)

/-- The first value of a header, by its name in lower case. -/
def Request.header? (request : Request) (name : String) : Option String :=
  (request.headers.find? fun header => lowerCase header.1 == name).map Prod.snd

/-- The characters of tokens: those of names of methods, headers and media types. -/
def isTokenChar (c : Char) : Bool :=
  c.isAlphanum || c ∈ ['!', '#', '$', '%', '&', '\'', '*', '+', '-', '.', '^', '_', '`', '|', '~']

/-- Whether a text is a token. -/
def isToken (text : List Char) : Bool := !text.isEmpty && text.all isTokenChar

/-- Whether a header value holds only visible ASCII characters, spaces and tabs. -/
def isPlainValue (text : List Char) : Bool :=
  text.all fun c => c = '\t' || (' ' ≤ c && c ≤ '~')

/-- The number of bytes of the body that a request announces. -/
def Request.announcedLength? (request : Request) : Option Nat :=
  (request.header? "content-length").bind fun value => Decimal.readWord? value.toList

/-- The escapes of a path that are not decoded, because the characters have a meaning of their own
there: `%`, `+` and `/`. -/
def isKeptByte (byte : UInt8) : Bool := byte = 0x25 || byte = 0x2B || byte = 0x2F

/-- The bytes of a path with its percent escapes decoded, but for those that are kept. -/
def decodePath (path : List Char) : List UInt8 :=
  Url.percentDecode (!isKeptByte ·) path

/-- The part of a target before its query and its fragment. -/
def beforeQuery (target : List Char) : List Char := target.takeWhile fun c => c ≠ '?' && c ≠ '#'

/-- The path of a target.  A target may also be a whole address, whose path is a slash if it is
empty, or just a place, which has no path. -/
def rawPath (target : List Char) : List Char :=
  if target.head? = some '/' ∨ target = ['*'] then beforeQuery target
  else
    match target.dropWhile (· ≠ ':') with
    | ':' :: '/' :: '/' :: rest =>
        let path := (beforeQuery rest).dropWhile (· ≠ '/')
        if path.isEmpty then ['/'] else path
    | _ => []

/-- The decoded path of a request. -/
def Request.path (request : Request) : String :=
  String.ofList (Utf8.decodeLossy (decodePath (rawPath request.target.toList)))

end CompletionGateway.Http
