import CompletionGateway.Token.Basic

/-!
# Streams of tokens

A stream can be asked about tokens ahead at any distance; only taking a token changes it.
-/

namespace CompletionGateway

/-- The tokens that have not been taken yet. -/
structure TokenStream where
  unread : List Token

namespace TokenStream

/-- The token `ahead` places after the next one. -/
def peek (stream : TokenStream) (ahead : Nat) : Option Token := stream.unread[ahead]?

/-- Whether there is no token left, or only the end of the text. -/
def atEnd (stream : TokenStream) : Bool :=
  match stream.peek 0 with
  | none => true
  | some token => token.kind == .finish

/-- Takes the next token. -/
def take (stream : TokenStream) : Option Token × TokenStream :=
  match stream.unread with
  | [] => (none, stream)
  | token :: rest => (some token, ⟨rest⟩)

/-- What can be asked of a stream. -/
inductive Request where
  | peek (ahead : Nat)
  | atEnd
  | take
deriving DecidableEq

/-- What a stream answers. -/
inductive Answer where
  | token (token : Option Token)
  | flag (value : Bool)
deriving DecidableEq

/-- The answer to one request, and the stream after it. -/
def answer (stream : TokenStream) : Request → Answer × TokenStream
  | .peek ahead => (.token (stream.peek ahead), stream)
  | .atEnd => (.flag stream.atEnd, stream)
  | .take => (.token stream.take.1, stream.take.2)

/-- The answers to requests that are made one after the other. -/
def answers (stream : TokenStream) : List Request → List Answer
  | [] => []
  | request :: rest =>
      let (first, stream) := stream.answer request
      first :: answers stream rest

end TokenStream

end CompletionGateway
