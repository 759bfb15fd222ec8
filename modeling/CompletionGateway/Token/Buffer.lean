import CompletionGateway.Token.Stream

/-!
# Reading ahead from a source of tokens

A source hands out its tokens one after the other, each of them once.  Tokens that are looked at
before they are taken wait in a buffer, which is filled no further than the request at hand needs.
-/

namespace CompletionGateway

/-- A source of tokens, and the tokens that have been read from it and not been taken yet. -/
structure TokenBuffer (σ : Type) where
  /-- The oldest token comes first. -/
  waiting : List Token
  source : σ

namespace TokenBuffer

variable {σ : Type} [Std.Stream σ Token]

/-- A source from which nothing has been read. -/
def ofSource (source : σ) : TokenBuffer σ := ⟨[], source⟩

/-- Reads `missing` more tokens, or as many as the source still has. -/
def fetch : (missing : Nat) → TokenBuffer σ → TokenBuffer σ
  | 0, buffer => buffer
  | missing + 1, buffer =>
      match Std.Stream.next? buffer.source with
      | none => buffer
      | some (token, source) => fetch missing ⟨buffer.waiting ++ [token], source⟩

/-- Reads until `count` tokens wait or the source is exhausted. -/
def fill (buffer : TokenBuffer σ) (count : Nat) : TokenBuffer σ :=
  buffer.fetch (count - buffer.waiting.length)

/-- The token `ahead` places after the next one. -/
def peek (buffer : TokenBuffer σ) (ahead : Nat) : Option Token × TokenBuffer σ :=
  let filled := buffer.fill (ahead + 1)
  (filled.waiting[ahead]?, filled)

/-- Whether there is no token left, or the end of the text comes next. -/
def atEnd (buffer : TokenBuffer σ) : Bool × TokenBuffer σ :=
  match buffer.peek 0 with
  | (none, filled) => (true, filled)
  | (some token, filled) => (token.kind == .finish, filled)

/-- Takes the next token. -/
def take (buffer : TokenBuffer σ) : Option Token × TokenBuffer σ :=
  let filled := buffer.fill 1
  match filled.waiting with
  | [] => (none, filled)
  | token :: rest => (some token, { filled with waiting := rest })

/-- The answer to one request, and the buffer after it. -/
def answer (buffer : TokenBuffer σ) : TokenStream.Request → TokenStream.Answer × TokenBuffer σ
  | .peek ahead => (buffer.peek ahead).map .token id
  | .atEnd => buffer.atEnd.map .flag id
  | .take => buffer.take.map .token id

/-- The answers to requests that are made one after the other, and the buffer after the last. -/
def run (buffer : TokenBuffer σ) :
    List TokenStream.Request → List TokenStream.Answer × TokenBuffer σ
  | [] => ([], buffer)
  | request :: rest =>
      let (first, buffer) := buffer.answer request
      (buffer.run rest).map (first :: ·) id

end TokenBuffer

end CompletionGateway
