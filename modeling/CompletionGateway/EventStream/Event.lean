import CompletionGateway.Execution.Response
import CompletionGateway.Json.Writing

/-!
# Events

A subscriber receives values, one event each, and then exactly one event that says how the stream
ended.  Every event is one frame: a line with its name, a line with its data in JSON, and a blank
line.  The compact text of a JSON value has no line break, so data cannot end its frame.
-/

namespace CompletionGateway.EventStream

/-- What is sent to a subscriber. -/
inductive Event where
  /-- The next value. -/
  | data (value : Json)
  /-- The stream has failed. -/
  | failure (message : String) (code : ErrorCode)
  /-- The stream has come to its regular end. -/
  | complete

namespace Event

/-- The name of the event. -/
def name : Event → String
  | data _ => "data"
  | failure _ _ => "error"
  | complete => "complete"

/-- What the event carries. -/
def payload : Event → Json
  | data value => value
  | failure message code =>
      .object [("message", .string message), ("code", .string code.name)]
  | complete => .object [("type", .string "complete")]

/-- The frame of the event. -/
def frame (event : Event) : String :=
  s!"event: {event.name}\ndata: {event.payload.text}\n\n"

end Event

end CompletionGateway.EventStream
