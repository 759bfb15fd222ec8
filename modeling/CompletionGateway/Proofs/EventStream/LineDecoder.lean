import CompletionGateway.EventStream.Relay

/-!
# Decoding a stream by its lines

A second account of what a streamed body means, in the words of the format: the bytes are split into
lines, a blank line ends a frame, and a frame says what its lines with data say.  Nothing here looks
at chunks or keeps a buffer, and nothing is taken over from the relay: the bytes of a line end, the
name of the field, the white space around its text and the mark that ends a stream are written out
once more.  What is left behind the last blank line counts as a frame only if the body comes to its
regular end.
-/

namespace CompletionGateway.EventStream

/-! ### Lines and frames -/

/-- A sequence in parts: those that have ended, and what stands behind the last of them. -/
structure Parts (α : Type) where
  ended : List (List α)
  left : List α

namespace Parts

variable {α : Type}

/-- One more element at the front of the first part. -/
def add (a : α) (parts : Parts α) : Parts α :=
  match parts.ended with
  | [] => ⟨[], a :: parts.left⟩
  | part :: more => ⟨(a :: part) :: more, parts.left⟩

/-- An empty part in front. -/
def close (parts : Parts α) : Parts α := ⟨[] :: parts.ended, parts.left⟩

/-- All parts, the one that has not ended included. -/
def all (parts : Parts α) : List (List α) := parts.ended ++ [parts.left]

end Parts

/-- The lines of the bytes received so far.  A line ends with a line feed (10), a carriage return
(13), or both.  A carriage return that is the last byte ends no line yet, because the line feed that
belongs to it may follow. -/
def linesOf : List UInt8 → Parts UInt8
  | [] => ⟨[], []⟩
  | b :: rest =>
      if b = 10 then (linesOf rest).close
      else if b = 13 then
        match rest with
        | [] => ⟨[], [b]⟩
        | c :: more => if c = 10 then (linesOf more).close else (linesOf (c :: more)).close
      else (linesOf rest).add b

/-- The frames of lines that have ended: each frame ends with a blank line, which is no part of
it. -/
def framesOf : List (List UInt8) → Parts (List UInt8)
  | [] => ⟨[], []⟩
  | line :: rest => if line = [] then (framesOf rest).close else (framesOf rest).add line

/-! ### What a frame says -/

/-- The code points of white space. -/
def whiteSpace : List Nat :=
  [0x09, 0x0A, 0x0B, 0x0C, 0x0D, 0x20, 0x85, 0xA0, 0x1680, 0x2000, 0x2001, 0x2002, 0x2003, 0x2004,
    0x2005, 0x2006, 0x2007, 0x2008, 0x2009, 0x200A, 0x2028, 0x2029, 0x202F, 0x205F, 0x3000]

/-- A text without the white space in front of it. -/
def stripped : List Char → List Char
  | [] => []
  | c :: rest => if c.toNat ∈ whiteSpace then stripped rest else c :: rest

/-- A text without the white space around it. -/
def strippedAround (text : List Char) : List Char := (stripped (stripped text).reverse).reverse

/-- The text behind `data:` on a line that starts so. -/
def fieldText? : List Char → Option (List Char)
  | 'd' :: 'a' :: 't' :: 'a' :: ':' :: text => some (strippedAround text)
  | _ => none

/-- The texts of the fields on some lines, each line decoded by itself. -/
def fieldTexts (lines : List (List UInt8)) : List (List Char) :=
  lines.filterMap fun line => fieldText? (Utf8.decodeLossy line)

-- what the reader of JSON says of a text that it refuses
variable (refusal : List Char → String)

/-- What a text says that stands in the fields of a frame. -/
def Payload.ofText : List Char → Payload
  | [] => nothing
  | ['[', 'D', 'O', 'N', 'E', ']'] => finish
  | text =>
      match Json.ofText? text with
      | some json => value json
      | none => undecodable (refusal text)

/-- What the lines of a frame say. -/
def Payload.ofLines (lines : List (List UInt8)) : Payload :=
  ofText refusal (['\n'].intercalate (fieldTexts lines))

/-- All that has arrived of a body, and the fault that ended it, if there is one.  What would arrive
behind a fault does not count. -/
def received : List Arrival → List UInt8 × Option ProviderFault
  | [] => ([], none)
  | .error fault :: _ => ([], some fault)
  | .ok chunk :: rest => (chunk ++ (received rest).1, (received rest).2)

/-- What the frames of a body say, in order.  What is left behind the last blank line is one more
frame if the body has come to its regular end. -/
def payloadsOf (bytes : List UInt8) (fault : Option ProviderFault) : List Payload :=
  let frames := framesOf (linesOf bytes).ended
  let last := match fault with
    | none => [Payload.ofLines refusal (frames.left ++ [(linesOf bytes).left])]
    | some _ => []
  frames.ended.map (Payload.ofLines refusal) ++ last

/-! ### Values and how they end -/

/-- How a stream ends. -/
inductive Ending where
  /-- It is complete. -/
  | complete
  /-- It has failed. -/
  | failed (message : String)

/-- How a stream ends whose payloads do not end it. -/
def endingOf : Option ProviderFault → Ending
  | none => .complete
  | some fault => .failed fault.message

/-- What a stream delivers: values, and then its end. -/
structure Delivery where
  values : List Json
  ending : Ending

/-- What some payloads deliver: a value for each that has one, up to the first that ends the
stream. -/
def Delivery.of (ending : Ending) : List Payload → Delivery
  | [] => ⟨[], ending⟩
  | .nothing :: rest => .of ending rest
  | .value value :: rest => ⟨value :: (of ending rest).values, (of ending rest).ending⟩
  | .finish :: _ => ⟨[], .complete⟩
  | .undecodable message :: _ => ⟨[], .failed ("Invalid upstream response: " ++ message)⟩

/-- What a whole body delivers, decoded by its lines. -/
def decodeByLines (arrivals : List Arrival) : Delivery :=
  let (bytes, fault) := received arrivals
  .of (endingOf fault) (payloadsOf refusal bytes fault)

/-- The event that tells how a stream ends. -/
def Ending.event : Ending → Event
  | complete => .complete
  | failed message => .failure message .internalError

/-- The events that tell of a delivery: one for each value, and then exactly one that ends the
stream. -/
def Delivery.events (delivery : Delivery) : List Event :=
  delivery.values.map .data ++ [delivery.ending.event]

/-- A frame with a name and a JSON value. -/
def frameText (name : String) (json : Json) : String :=
  "event: " ++ name ++ "\ndata: " ++ json.text ++ "\n\n"

/-- The frame that tells how a stream ends. -/
def Ending.frame : Ending → String
  | complete => frameText "complete" (.object [("type", .string "complete")])
  | failed message =>
      frameText "error" (.object [("message", .string message), ("code", .string "INTERNAL_ERROR")])

/-- The frames that tell of a delivery. -/
def Delivery.frames (delivery : Delivery) : List String :=
  delivery.values.map (frameText "data") ++ [delivery.ending.frame]

end CompletionGateway.EventStream
