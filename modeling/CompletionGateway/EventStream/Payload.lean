import CompletionGateway.Json.Reading
import CompletionGateway.Text.Blank
import CompletionGateway.Text.Split
import CompletionGateway.Text.Utf8

/-!
# The payload of a frame

The payload is gathered from the lines of a frame that begin with `data:`.  Each is trimmed, and a
line feed stands between two of them.  Any other line is a comment or a field that does not matter.
-/

namespace CompletionGateway.EventStream

/-- The lines of a frame.  Every carriage return and every line feed ends one, so there are empty
lines between a carriage return and its line feed; they do not matter here. -/
def frameLines (frame : List Char) : List (List Char) :=
  Text.split (fun c => c = '\r' || c = '\n') frame

/-- How a line with data begins. -/
def dataField : List Char := ['d', 'a', 't', 'a', ':']

/-- The data on a line, if it has any. -/
def lineData? (line : List Char) : Option (List Char) :=
  if dataField.isPrefixOf line then some (Text.trim (line.drop dataField.length)) else none

/-- The data of a frame: that of its lines, a line feed between each two. -/
def frameData (frame : List Char) : List Char :=
  ['\n'].intercalate ((frameLines frame).filterMap lineData?)

/-- What a frame says. -/
inductive Payload where
  /-- Nothing. -/
  | nothing
  /-- That the stream is over. -/
  | finish
  /-- A value. -/
  | value (value : Json)
  /-- Something that is not JSON. -/
  | undecodable (message : String)

/-- The data that ends a stream. -/
def finishMark : List Char := ['[', 'D', 'O', 'N', 'E', ']']

/-- What the data of a frame mean.  What is said of data that are not JSON is up to the reader of
JSON. -/
def Payload.ofData (refusal : List Char → String) (data : List Char) : Payload :=
  if data = [] then nothing
  else if data = finishMark then finish
  else
    match Json.ofText? data with
    | some json => value json
    | none => undecodable (refusal data)

/-- What a frame says, given its bytes. -/
def Payload.ofFrame (refusal : List Char → String) (frame : List UInt8) : Payload :=
  ofData refusal (frameData (Utf8.decodeLossy frame))

end CompletionGateway.EventStream
