import CompletionGateway.Diagnostic.Note

/-!
# Tokens of the query language

Literals keep the text that was written, quotes included; their values are computed on demand.
White space, commas and comments make no tokens.
-/

namespace CompletionGateway

/-- The punctuation marks. -/
inductive Punctuator where
  | at
  | bang
  | colon
  | closeBrace
  | openBrace
  | dollar
  | ellipsis
  | equals
  | closeParen
  | openParen
  | closeBracket
  | openBracket
deriving DecidableEq

namespace Punctuator

/-- How the mark is written. -/
def spelling : Punctuator → String
  | «at» => "@"
  | bang => "!"
  | colon => ":"
  | closeBrace => "\x7d"
  | openBrace => "\x7b"
  | dollar => "$"
  | ellipsis => "..."
  | equals => "="
  | closeParen => ")"
  | openParen => "("
  | closeBracket => "]"
  | openBracket => "["

/-- Whether the mark opens a bracketed group. -/
def isOpening : Punctuator → Bool
  | openBrace | openParen | openBracket => true
  | _ => false

/-- Whether the mark closes a bracketed group. -/
def isClosing : Punctuator → Bool
  | closeBrace | closeParen | closeBracket => true
  | _ => false

end Punctuator

/-- What a token is. -/
inductive TokenKind where
  | punctuator (mark : Punctuator)
  | name (text : String)
  /-- A number without fraction and exponent. -/
  | int (text : String)
  /-- A number with a fraction or an exponent. -/
  | float (text : String)
  /-- A string with its quotes and escapes. -/
  | string (text : String)
  | bool (value : Bool)
  | null
  /-- The end of the text. -/
  | finish
  /-- Text that is no token. -/
  | error (message : String) (notes : List Note)
deriving DecidableEq

namespace TokenKind

/-- Whether the token opens a bracketed group. -/
def isOpening : TokenKind → Bool
  | punctuator mark => mark.isOpening
  | _ => false

/-- Whether the token closes a bracketed group. -/
def isClosing : TokenKind → Bool
  | punctuator mark => mark.isClosing
  | _ => false

/-- Whether the token stands for text that is no token. -/
def isError : TokenKind → Bool
  | error _ _ => true
  | _ => false

/-- The name that the token can serve as.  The three value words are names as well. -/
def asName? : TokenKind → Option String
  | name text => some text
  | bool true => some "true"
  | bool false => some "false"
  | null => some "null"
  | _ => none

/-- How error messages call the token. -/
def shown : TokenKind → String
  | punctuator mark => mark.spelling
  | name text => text
  | int text => text
  | float text => text
  | string _ => "string"
  | bool true => "true"
  | bool false => "false"
  | null => "null"
  | finish => "end of input"
  | error message _ => s!"tokenization error: {message}"

end TokenKind

/-- A token and the text that it covers. -/
structure Token where
  kind : TokenKind
  span : Span
deriving DecidableEq

/-- Whether a token begins exactly where the text at `previous` ends. -/
def Token.follows (token : Token) (previous : Span) : Bool :=
  token.span.start.offset == previous.stop.offset

end CompletionGateway
