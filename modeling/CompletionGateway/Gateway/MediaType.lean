import CompletionGateway.Gateway.Http

/-!
# Media types

A media type names a type and a subtype, the subtype perhaps with a suffix after its last plus sign.
Parameters may follow; they must be well formed, but what they say does not matter.
-/

namespace CompletionGateway.Http

/-- The characters of the names in a media type. -/
def isMediaChar (c : Char) : Bool := isTokenChar c && c ≠ '*'

/-- A media type without its parameters, in lower case. -/
structure MediaType where
  main : List Char
  /-- The subtype without its suffix. -/
  subtype : List Char
  /-- What follows the last plus sign of the subtype, if it has one behind its first character. -/
  suffix : Option (List Char)
deriving DecidableEq

namespace MediaType

/-- Whether what follows a quoted value may stand there: spaces, and then the end or a semicolon.
The result is what follows the semicolon. -/
def afterQuoted? : List Char → Option (List Char)
  | [] => some []
  | ' ' :: rest => afterQuoted? rest
  | ';' :: rest => some rest
  | _ => none

/-- What follows the value of a parameter and the semicolon behind it, if the value is well formed.
A quoted value is not empty. -/
def afterValue? : List Char → Option (List Char)
  | '"' :: c :: rest =>
      let isQuotedChar := fun (c : Char) => ' ' ≤ c && c ≠ '\x7f'
      match rest.dropWhile (· ≠ '"') with
      | [] => none
      | _ :: behind =>
          if (c :: rest.takeWhile (· ≠ '"')).all isQuotedChar then afterQuoted? behind else none
  | text =>
      match text.dropWhile isMediaChar with
      | [] => some []
      | ';' :: rest => if (text.takeWhile isMediaChar).isEmpty then none else some rest
      | _ => none

/-- Whether a text of at most `limit` characters is a list of parameters. -/
def areParameters : (limit : Nat) → List Char → Bool
  | 0, text => text.isEmpty
  | limit + 1, text =>
      match text with
      | [] => true
      | ' ' :: rest => areParameters limit rest
      | text =>
          match text.dropWhile isMediaChar with
          | '=' :: rest =>
              if (text.takeWhile isMediaChar).isEmpty then false
              else
                match afterValue? rest with
                | none => false
                | some rest => areParameters limit rest
          | _ => false

/-- The parts of a subtype before and after its last plus sign.  A plus sign at the very front is
part of the name. -/
def splitSubtype (name : List Char) : List Char × Option (List Char) :=
  let suffix := (name.reverse.takeWhile (· ≠ '+')).reverse
  let front := name.take (name.length - suffix.length - 1)
  if front.isEmpty then (name, none) else (front, some suffix)

/-- The media type that a header value names. -/
def ofText? (text : List Char) : Option MediaType :=
  let text := text.map Char.toLower
  let main := text.takeWhile isMediaChar
  match text.dropWhile isMediaChar with
  | '/' :: rest =>
      let name := rest.takeWhile isMediaChar
      let (subtype, suffix) := splitSubtype name
      let found := some ⟨main, subtype, suffix⟩
      match rest.dropWhile isMediaChar with
      | [] => if main.isEmpty then none else found
      | ';' :: parameters =>
          if main.isEmpty || name.isEmpty || !areParameters parameters.length parameters then none
          else found
      | _ => none
  | _ => none

/-- The name of JSON among subtypes and suffixes. -/
def json : List Char := ['j', 's', 'o', 'n']

/-- Whether documents of this type are JSON. -/
def isJson (type : MediaType) : Bool := type.subtype == json || type.suffix == some json

end MediaType

/-- Whether a request says that its body is JSON. -/
def Request.declaresJson (request : Request) : Bool :=
  match request.header? "content-type" with
  | none => false
  | some value =>
      let text := value.toList
      isPlainValue text && ((MediaType.ofText? text).map (·.isJson)).getD false

end CompletionGateway.Http
