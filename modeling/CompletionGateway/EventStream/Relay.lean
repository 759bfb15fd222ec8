import CompletionGateway.EventStream.Event
import CompletionGateway.EventStream.Frame
import CompletionGateway.EventStream.Payload
import CompletionGateway.Provider.Basic

/-!
# Relaying a stream

The provider streams frames whose payloads are JSON values and whose last payload marks the end.
The relay sends each value on as an event.  The first fault ends the relay with an event that
reports it; the mark, or the end of the body, ends it regularly.  The body may end without a blank
line: what is left then counts as one more frame.
-/

namespace CompletionGateway.EventStream

/-- The event that reports a fault of the provider. -/
def failureOf (fault : ProviderFault) : Event := .failure fault.message .internalError

/-- What relaying one frame gives: the events to send, and whether the last of them ends the
stream. -/
structure Relayed where
  events : List Event
  ended : Bool

-- what the reader of JSON says of data that it refuses
variable (refusal : List Char → String)

/-- Relays one frame. -/
def relayFrame (frame : List UInt8) : Relayed :=
  match Payload.ofFrame refusal frame with
  | .nothing => ⟨[], false⟩
  | .finish => ⟨[.complete], true⟩
  | .value value => ⟨[.data value], false⟩
  | .undecodable message => ⟨[failureOf (.undecodable message)], true⟩

/-- Relays frames up to the one that ends the stream. -/
def relayFrames : List (List UInt8) → Relayed
  | [] => ⟨[], false⟩
  | frame :: rest =>
      let first := relayFrame refusal frame
      if first.ended then first
      else
        let more := relayFrames rest
        ⟨first.events ++ more.events, more.ended⟩

/-- Relays what is left in the buffer when the body ends. -/
def relayEnd (buffer : List UInt8) : List Event :=
  let last := if buffer = [] then ⟨[], false⟩ else relayFrame refusal buffer
  if last.ended then last.events else last.events ++ [.complete]

/-- Relays what arrives, with bytes already in the buffer. -/
def relayFrom (buffer : List UInt8) : List Arrival → List Event
  | [] => relayEnd refusal buffer
  | .error fault :: _ => [failureOf fault]
  | .ok chunk :: rest =>
      let (frames, buffer) := takeFrames (buffer ++ chunk)
      let relayed := relayFrames refusal frames
      if relayed.ended then relayed.events else relayed.events ++ relayFrom buffer rest

/-- Relays a whole body. -/
def relay (arrivals : List Arrival) : List Event := relayFrom refusal [] arrivals

end CompletionGateway.EventStream
