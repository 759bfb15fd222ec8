import CompletionGateway.Proofs.EventStream.Chunking
import CompletionGateway.Proofs.EventStream.FrameLines
import CompletionGateway.Proofs.Json.Compact
import CompletionGateway.Proofs.Text.Encoding

/-!
# What is sent is taken apart again

An event is written as a line with its name, a line with its data and a blank line.  Neither line has
a break in it, because in the compact text of a JSON value every line break is escaped.  So the
splitter cuts the stream where the events end, whatever their data say, and reads from each frame the
data that were written.  A relay that is given the events of a relay sends them on unchanged.
-/

namespace CompletionGateway.EventStream

/-! ### Cutting off a frame -/

/-- A line in front of a buffer belongs to the first frame. -/
theorem takeFrame?_append_line {line : List UInt8} (h : IsLine line) (rest : List UInt8) :
    takeFrame? (line ++ rest) =
      (takeFrame? rest).map fun (frame, behind) => (line ++ frame, behind) := by
  induction line with
  | nil => simp
  | cons b line ih =>
      have hline : IsLine line := fun c hc => h c (List.mem_cons_of_mem b hc)
      have habsent : lineEnd (b :: (line ++ rest)) = .absent := lineEnd_absent_iff.2 (h b (by simp))
      rw [List.cons_append, takeFrame?_cons, habsent, ih hline, Option.map_map]
      rfl

/-- Two lines and a blank line are a frame. -/
theorem takeFrame?_two_lines {first second : List UInt8} (hfirst : IsLine first)
    (hsecond : IsLine second) (hne : second ≠ []) (rest : List UInt8) :
    takeFrame? (first ++ lineFeed :: (second ++ lineFeed :: lineFeed :: rest)) =
      some (first ++ lineFeed :: (second ++ [lineFeed, lineFeed]), rest) := by
  have hblank : takeFrame? (lineFeed :: lineFeed :: rest) = some ([lineFeed, lineFeed], rest) := by
    rw [takeFrame?_cons]
    rfl
  obtain ⟨b, second, rfl⟩ := List.exists_cons_of_ne_nil hne
  have habsent (more : List UInt8) : lineEnd (b :: more) = .absent :=
    lineEnd_absent_iff.2 (hsecond b (by simp))
  have hpresent (more : List UInt8) :
      lineEnd (lineFeed :: more) = .present [lineFeed] more := rfl
  rw [takeFrame?_append_line hfirst, takeFrame?_cons, hpresent]
  simp only [List.cons_append, habsent]
  rw [← List.cons_append, takeFrame?_append_line hsecond, hblank]
  simp

/-! ### The frame of an event -/

namespace Event

variable (event : Event)

/-- The line with the name. -/
def nameLine : List Char := ['e', 'v', 'e', 'n', 't', ':', ' '] ++ event.name.toList

/-- The line with the data. -/
def dataLine : List Char := dataField ++ ' ' :: event.payload.write

theorem toList_frame : event.frame.toList =
    event.nameLine ++ '\n' :: (event.dataLine ++ ['\n', '\n']) := by
  simp [frame, toString, nameLine, dataLine, dataField, Json.text]

theorem unbroken_nameLine : Json.Unbroken event.nameLine := by
  have hnames : ∀ name ∈ ["data", "error", "complete"], Json.Unbroken name.toList := by decide
  have hname : event.name ∈ ["data", "error", "complete"] := by cases event <;> simp [name]
  exact .append (by decide) (hnames _ hname)

theorem unbroken_dataLine : Json.Unbroken event.dataLine :=
  .append (by decide)
    (.cons (by decide) (Json.oneLine_write event.payload).unbroken)

end Event

theorem isLine_encode {text : List Char} (h : Json.Unbroken text) : IsLine (Utf8.encode text) := by
  intro b hb
  constructor
  · rintro rfl
    obtain ⟨c, hc, hcode⟩ := Utf8.exists_of_mem_encode hb (by decide)
    exact (h c hc).1 (Char.toNat_inj.1 hcode)
  · rintro rfl
    obtain ⟨c, hc, hcode⟩ := Utf8.exists_of_mem_encode hb (by decide)
    exact (h c hc).2 (Char.toNat_inj.1 hcode)

/-- The frame of an event is cut off whatever is behind it. -/
theorem takeFrame?_encode_frame (event : Event) (rest : List UInt8) :
    takeFrame? (Utf8.encode event.frame.toList ++ rest) =
      some (Utf8.encode event.frame.toList, rest) := by
  have hfeed : Utf8.encode ['\n'] = [lineFeed] := rfl
  have hne : Utf8.encode event.dataLine ≠ [] := by simp [Event.dataLine, Utf8.encode]
  have hframe : Utf8.encode event.frame.toList = Utf8.encode event.nameLine ++
      lineFeed :: (Utf8.encode event.dataLine ++ [lineFeed, lineFeed]) := by
    rw [event.toList_frame, Utf8.encode_append, Utf8.encode_cons, Utf8.encode_append]
    rfl
  have htake := takeFrame?_two_lines (isLine_encode event.unbroken_nameLine)
    (isLine_encode event.unbroken_dataLine) hne rest
  rw [hframe]
  simpa using htake

/-- The frames of some events are cut off one by one, and nothing is left. -/
theorem takeFrames_encode_frames (events : List Event) :
    takeFrames (Utf8.encode (events.map (·.frame.toList)).flatten) =
      (events.map fun event => Utf8.encode event.frame.toList, []) := by
  induction events with
  | nil => exact takeFrames_of_none (by simp [Utf8.encode, takeFrame?])
  | cons event events ih =>
      rw [List.map_cons, List.flatten_cons, Utf8.encode_append,
        takeFrames_of_some (takeFrame?_encode_frame event _), ih, List.map_cons]

/-! ### The data of a frame -/

theorem lineData?_dataLine (event : Event) :
    lineData? event.dataLine = some event.payload.write := by
  have hfield : dataField.isPrefixOf event.dataLine = true :=
    List.isPrefixOf_iff_prefix.2 (List.prefix_append _ _)
  have htrim : Text.trim (' ' :: event.payload.write) = Text.trim event.payload.write := rfl
  rw [lineData?, if_pos hfield, Event.dataLine, List.drop_left, htrim,
    (Json.oneLine_write event.payload).trim_eq]

theorem lineData?_nameLine (event : Event) : lineData? event.nameLine = none := by
  rfl

/-- The data of an event's frame are the text of its payload. -/
theorem frameData_frame (event : Event) : frameData event.frame.toList = event.payload.write := by
  have hbreak : ('\n' = '\r' || '\n' = '\n' : Bool) = true := by decide
  have hline {text : List Char} (h : Json.Unbroken text) :
      Text.split (fun c => c = '\r' || c = '\n') text = [text] := by
    refine split_of_forall fun c hc => ?_
    simpa using ⟨(h c hc).2, (h c hc).1⟩
  have hend : Text.split (fun c => c = '\r' || c = '\n') ['\n'] = [[], []] := rfl
  have hlines : frameLines event.frame.toList = [event.nameLine, event.dataLine, [], []] := by
    rw [frameLines, event.toList_frame, split_append hbreak, split_append hbreak,
      hline event.unbroken_nameLine, hline event.unbroken_dataLine, hend]
    rfl
  have hempty : lineData? [] = none := rfl
  rw [frameData, hlines]
  simp [lineData?_nameLine, lineData?_dataLine, hempty]

/-! ### Relaying what was sent -/

-- what the reader of JSON says of data that it refuses
variable (refusal : List Char → String)

/-- A frame whose data are read back as a value says this value. -/
theorem ofFrame_frame (event : Event) {value : Json}
    (hread : Json.ofText? event.payload.write = some value) :
    Payload.ofFrame refusal (Utf8.encode event.frame.toList) = .value value := by
  have hne : event.payload.write ≠ [] := by
    intro hnil
    have hnone : Json.ofText? [] = none := rfl
    rw [hnil, hnone] at hread
    cases hread
  have hmark : event.payload.write ≠ finishMark := by
    intro hmark
    have hnone : Json.ofText? finishMark = none := rfl
    rw [hmark, hnone] at hread
    cases hread
  rw [Payload.ofFrame, Utf8.decodeLossy_encode, frameData_frame, Payload.ofData, if_neg hne,
    if_neg hmark, hread]

/-- The bytes of the events that carry some values. -/
def dataBytes (values : List Json) : List UInt8 :=
  Utf8.encode (values.map fun value => (Event.data value).frame.toList).flatten

/-- The frames of values are relayed as these values. -/
theorem relayFrames_data (values : List Json)
    (hread : ∀ value ∈ values, Json.ofText? value.write = some value) :
    relayFrames refusal (values.map fun value => Utf8.encode (Event.data value).frame.toList) =
      ⟨values.map .data, false⟩ := by
  induction values with
  | nil => rfl
  | cons value values ih =>
      have hfirst : relayFrame refusal (Utf8.encode (Event.data value).frame.toList) =
          ⟨[.data value], false⟩ := by
        rw [relayFrame, ofFrame_frame refusal (.data value) (hread value (by simp))]
      have hmore := ih fun other hother => hread other (List.mem_cons_of_mem _ hother)
      simp only [List.map_cons, relayFrames, hfirst, hmore, Bool.false_eq_true, if_false,
        List.singleton_append]

/-- Values that are sent as events are relayed as the same events, however the stream is cut, and
one event says that the stream is complete.  Each event is one frame, and its data are the text of
its payload. -/
theorem relay_dataBytes {values : List Json} {chunks : List (List UInt8)}
    (hread : ∀ value ∈ values, Json.ofText? value.text.toList = some value)
    (hchunks : chunks.flatten = dataBytes values) :
    relay refusal (chunks.map .ok) = values.map .data ++ [.complete] ∧
      (relay refusal (chunks.map .ok)).map Event.frame =
        values.map (fun value => (Event.data value).frame) ++ [Event.complete.frame] ∧
      ∀ event ∈ relay refusal (chunks.map .ok),
        takeFrames (Utf8.encode event.frame.toList) = ([Utf8.encode event.frame.toList], []) ∧
          frameData (Utf8.decodeLossy (Utf8.encode event.frame.toList)) =
            event.payload.text.toList := by
  have htext (value : Json) : value.text.toList = value.write := String.toList_ofList
  have hframes := takeFrames_encode_frames (values.map Event.data)
  rw [List.map_map, List.map_map] at hframes
  have hrelay : relay refusal (chunks.map .ok) = values.map .data ++ [.complete] := by
    have hwhole := relay_eq_of_flatten_eq refusal chunks [dataBytes values] [] (by simpa using hchunks)
    rw [List.append_nil, List.append_nil] at hwhole
    have hdata := relayFrames_data refusal values fun value hvalue => by
      rw [← htext, hread value hvalue]
    rw [hwhole, relay, List.map_singleton, relayFrom_ok, List.nil_append]
    have htake : takeFrames (dataBytes values) =
        (values.map fun value => Utf8.encode (Event.data value).frame.toList, []) := hframes
    rw [htake]
    simp only [hdata, Bool.false_eq_true, if_false]
    rfl
  refine ⟨hrelay, ?_, ?_⟩
  · rw [hrelay]
    simp
  · intro event _
    have hone := takeFrames_encode_frames [event]
    refine ⟨by simpa using hone, ?_⟩
    rw [Utf8.decodeLossy_encode, frameData_frame, htext]

/-- A string that looks like the end of a frame, like the end of a stream and like more data. -/
def deceptive : Json := .string "\r\n\ndata: [DONE]\n\ndata: 1"

/-- It is relayed as it is, although the stream is cut inside its frame. -/
theorem relay_deceptive :
    (∀ value ∈ [deceptive, .null], Json.ofText? value.text.toList = some value) ∧
      relay expectedValue
          ([(dataBytes [deceptive, .null]).take 30, (dataBytes [deceptive, .null]).drop 30].map
            .ok) = [.data deceptive, .data .null, .complete] := by
  have hdeceptive : Json.ofText? deceptive.text.toList = some deceptive := by
    simp [deceptive, Json.text, Json.write, Json.writeString, Json.writeChar]
    rfl
  have hread : ∀ value ∈ [deceptive, .null], Json.ofText? value.text.toList = some value := by
    simpa [hdeceptive] using (by rfl : Json.ofText? Json.null.text.toList = some .null)
  refine ⟨hread, (relay_dataBytes expectedValue hread ?_).1⟩
  rw [List.flatten_cons, List.flatten_singleton, List.take_append_drop]

end CompletionGateway.EventStream
