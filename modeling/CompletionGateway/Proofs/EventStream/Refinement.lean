import CompletionGateway.Proofs.EventStream.Chunking
import CompletionGateway.Proofs.EventStream.FrameLines

/-!
# Relaying is decoding by lines

The relay cuts frames at pairs of line ends.  A frame that is cut off has the lines up to the next
blank one, except that a blank line at its very front is no frame of its own.  Such a frame would
say nothing, so the payloads agree but for some that nobody hears of.  By induction on the frames
the relay sends the events that decoding by lines gives.
-/

namespace CompletionGateway.EventStream

/-! ### Frames -/

theorem all_add {parts : Parts UInt8} {head : List UInt8} {more : List (List UInt8)} (b : UInt8)
    (h : parts.all = head :: more) : (parts.add b).all = (b :: head) :: more := by
  unfold Parts.all at h
  unfold Parts.add Parts.all
  split
  · rename_i hended
    rw [hended, List.nil_append, List.cons.injEq] at h
    rw [List.nil_append, h.1, h.2]
  · rename_i part rest hended
    rw [hended, List.cons_append, List.cons.injEq] at h
    rw [List.cons_append, h.1, h.2]

theorem add_cons (b : UInt8) (part : List UInt8) (ended : List (List UInt8)) (left : List UInt8) :
    Parts.add b ⟨part :: ended, left⟩ = ⟨(b :: part) :: ended, left⟩ := rfl

/-- Two line ends, one right behind the other, are lines without data. -/
theorem all_of_marks {first second mark blank next rest : List UInt8}
    (hmark : lineEnd first = .present mark next) (hblank : lineEnd second = .present blank rest) :
    ∃ tail, (linesOf (mark ++ blank)).all = [] :: tail ∧ fieldTexts tail = [] := by
  rcases mark_of_lineEnd hmark with rfl | rfl | rfl <;>
    rcases mark_of_lineEnd hblank with rfl | rfl | rfl <;>
    exact ⟨_, rfl, by decide⟩

/-- A line end stays what it is when a byte follows that ends no line. -/
theorem lineEnd_append_cons {bytes mark next : List UInt8} {c : UInt8} (frame : List UInt8)
    (h : lineEnd bytes = .present mark next) (hc : c ≠ lineFeed) :
    lineEnd (mark ++ c :: frame) = .present mark (c :: frame) := by
  rcases mark_of_lineEnd h with rfl | rfl | rfl
  · rfl
  · rw [List.singleton_append, lineEnd, if_neg (by decide), if_pos rfl]
    simp only [if_neg hc]
  · rfl

/-- The lines of a buffer and of the frame cut off it.  The first line of the buffer may be blank;
all others up to the blank line that ends the frame are not. -/
theorem exists_lines_of_takeFrame? {buffer frame rest : List UInt8}
    (h : takeFrame? buffer = some (frame, rest)) :
    ∃ head body tail, (∀ line ∈ body, line ≠ []) ∧
      linesOf buffer = ⟨head :: body ++ [] :: (linesOf rest).ended, (linesOf rest).left⟩ ∧
      (linesOf frame).all = head :: body ++ tail ∧ fieldTexts tail = [] := by
  fun_induction takeFrame? buffer generalizing frame rest with
  | case1 => simp at h
  | case2 b bytes hline ih =>
      obtain ⟨⟨front, back⟩, htake, heq⟩ := Option.map_eq_some_iff.1 h
      cases heq
      obtain ⟨head, body, tail, hbody, hlines, hframe, htail⟩ := ih htake
      refine ⟨b :: head, body, tail, hbody, ?_, ?_, htail⟩
      · rw [linesOf_of_absent hline, hlines, List.cons_append, add_cons, List.cons_append]
      · rw [linesOf_of_absent (lineEnd_absent_iff.2 (lineEnd_absent_iff.1 hline))]
        exact all_add b hframe
  | case3 => simp at h
  | case4 b bytes mark next hmark blank rest' hblank =>
      cases h
      obtain ⟨tail, hall, htail⟩ := all_of_marks hmark hblank
      refine ⟨[], [], tail, by simp, ?_, hall, htail⟩
      rw [linesOf_of_present hmark, linesOf_of_present hblank]
      rfl
  | case5 => simp at h
  | case6 b bytes mark next hmark hnext ih =>
      obtain ⟨⟨front, back⟩, htake, heq⟩ := Option.map_eq_some_iff.1 h
      cases heq
      obtain ⟨head, body, tail, hbody, hlines, hframe, htail⟩ := ih htake
      obtain ⟨hsplit, hfront⟩ := takeFrame?_eq_some htake
      -- the byte behind the line end begins a line that is not blank
      obtain ⟨c, front, rfl⟩ := List.exists_cons_of_ne_nil hfront
      subst hsplit
      have hc := (lineEnd_absent_iff.1 hnext).1
      have hhead : head ≠ [] := by
        rintro rfl
        have hadd := linesOf_of_absent hnext
        rw [List.append_eq, ← List.cons_append, hlines, Parts.add] at hadd
        split at hadd <;> simp at hadd
      refine ⟨[], head :: body, tail, ?_, ?_, ?_, htail⟩
      · intro line hmem
        rcases List.mem_cons.1 hmem with rfl | hmem
        · exact hhead
        · exact hbody line hmem
      · rw [linesOf_of_present hmark, hlines]
        rfl
      · rw [linesOf_of_present (lineEnd_append_cons front hmark hc)]
        show [] :: (linesOf (c :: front)).all = _
        rw [hframe]
        rfl

/-- Where no frame can be cut off, no line but the first is blank. -/
theorem forall_ne_nil_of_takeFrame? {buffer : List UInt8} (h : takeFrame? buffer = none) :
    ∀ line ∈ (linesOf buffer).ended.tail, line ≠ [] := by
  fun_induction takeFrame? buffer with
  | case1 => simp [linesOf]
  | case2 b bytes hline ih =>
      have hrest := ih (by simpa using h)
      rw [linesOf_of_absent hline, Parts.add]
      split
      · simp
      · rename_i part more hended
        rw [hended] at hrest
        exact hrest
  | case3 b bytes hline =>
      rw [lineEnd_undecided hline, linesOf_return]
      simp
  | case4 => simp at h
  | case5 b bytes mark next hmark hnext =>
      rw [linesOf_of_present hmark, lineEnd_undecided hnext, linesOf_return]
      simp [Parts.close]
  | case6 b bytes mark next hmark hnext ih =>
      have hrest := ih (by simpa using h)
      rw [linesOf_of_present hmark]
      show ∀ line ∈ (linesOf next).ended, line ≠ []
      cases next with
      | nil => simp [linesOf]
      -- the byte `c` makes the line behind the mark longer, so that it is not blank either
      | cons c next =>
          rw [linesOf_of_absent hnext, Parts.add] at hrest ⊢
          split at hrest
          · simp
          · intro line hmem
            rcases List.mem_cons.1 hmem with rfl | hmem
            · exact List.cons_ne_nil _ _
            · exact hrest line hmem

theorem framesOf_append_blank {body : List (List UInt8)} (h : ∀ line ∈ body, line ≠ [])
    (more : List (List UInt8)) :
    framesOf (body ++ [] :: more) = ⟨body :: (framesOf more).ended, (framesOf more).left⟩ := by
  induction body with
  | nil => rfl
  | cons line body ih =>
      have hline : line ≠ [] := h line (by simp)
      rw [List.cons_append, framesOf, if_neg hline, ih fun other hmem => h other (by simp [hmem])]
      rfl

theorem framesOf_of_forall {body : List (List UInt8)} (h : ∀ line ∈ body, line ≠ []) :
    framesOf body = ⟨[], body⟩ := by
  induction body with
  | nil => rfl
  | cons line body ih =>
      have hline : line ≠ [] := h line (by simp)
      rw [framesOf, if_neg hline, ih fun other hmem => h other (by simp [hmem])]
      rfl

/-! ### Events -/

-- what the reader of JSON says of data that it refuses
variable (refusal : List Char → String)

/-- The events for what some payloads deliver. -/
def emit (ending : Ending) (payloads : List Payload) : List Event :=
  (Delivery.of ending payloads).events

theorem emit_nil (ending : Ending) : emit ending [] = [ending.event] := rfl

theorem emit_nothing (ending : Ending) (rest : List Payload) :
    emit ending (.nothing :: rest) = emit ending rest := rfl

theorem emit_value (ending : Ending) (json : Json) (rest : List Payload) :
    emit ending (.value json :: rest) = .data json :: emit ending rest := rfl

theorem emit_congr {ending : Ending} (payload : Payload) {rest rest' : List Payload}
    (h : emit ending rest = emit ending rest') :
    emit ending (payload :: rest) = emit ending (payload :: rest') := by
  cases payload with
  | nothing => exact h
  | value json => rw [emit_value, emit_value, h]
  | finish => rfl
  | undecodable message => rfl

/-- Relaying frames sends the events for what they say. -/
theorem emit_frames (ending : Ending) (frames : List (List UInt8)) (rest : List Payload) :
    emit ending (frames.map (Payload.ofFrame refusal) ++ rest) =
      if (relayFrames refusal frames).ended then (relayFrames refusal frames).events
      else (relayFrames refusal frames).events ++ emit ending rest := by
  induction frames with
  | nil => simp [relayFrames]
  | cons frame frames ih =>
      rw [List.map_cons, List.cons_append, relayFrames, relayFrame]
      cases Payload.ofFrame refusal frame with
      | nothing =>
          rw [emit_nothing, ih]
          simp
      | value value =>
          rw [emit_value, ih]
          by_cases hended : (relayFrames refusal frames).ended = true <;> simp [hended]
      | finish => rfl
      | undecodable message => rfl

theorem relayEnd_eq (buffer : List UInt8) :
    relayEnd refusal buffer = emit .complete [Payload.ofFrame refusal buffer] := by
  by_cases hempty : buffer = []
  · subst hempty
    rfl
  · rw [relayEnd, if_neg hempty, relayFrame]
    cases Payload.ofFrame refusal buffer <;> rfl

/-- The last payload, taken from what is left in the buffer. -/
def lastPayload (buffer : List UInt8) : Option ProviderFault → List Payload
  | none => [Payload.ofFrame refusal buffer]
  | some _ => []

/-- Where no frame can be cut off, all that the lines say is the last payload. -/
theorem emit_payloadsOf_of_none {buffer : List UInt8} (ending : Ending)
    (fault : Option ProviderFault) (h : takeFrame? buffer = none) :
    emit ending (payloadsOf refusal buffer fault) =
      emit ending (lastPayload refusal buffer fault) := by
  have hbody := forall_ne_nil_of_takeFrame? h
  have hlast := Payload.ofFrame_eq refusal buffer
  unfold payloadsOf lastPayload
  unfold Parts.all at hlast
  cases hended : (linesOf buffer).ended with
  | nil =>
      rw [hended] at hlast
      cases fault <;> simp [framesOf, hlast]
  | cons head body =>
      rw [hended] at hbody hlast
      rw [List.tail_cons] at hbody
      rw [framesOf, framesOf_of_forall hbody]
      by_cases hhead : head = []
      · -- a blank first line ends a frame that says nothing
        subst hhead
        cases fault with
        | none =>
            rw [hlast]
            rfl
        | some fault => rfl
      · rw [if_neg hhead]
        cases fault with
        | none =>
            rw [hlast]
            rfl
        | some fault => rfl

/-- Where a frame can be cut off, the lines say what it says, and then what the rest says. -/
theorem emit_payloadsOf_of_some {buffer frame rest : List UInt8} (ending : Ending)
    (fault : Option ProviderFault) (h : takeFrame? buffer = some (frame, rest)) :
    emit ending (payloadsOf refusal buffer fault) =
      emit ending (Payload.ofFrame refusal frame :: payloadsOf refusal rest fault) := by
  obtain ⟨head, body, tail, hbody, hlines, hframe, htail⟩ := exists_lines_of_takeFrame? h
  have hpayload : Payload.ofFrame refusal frame = Payload.ofLines refusal (head :: body) := by
    rw [Payload.ofFrame_eq, hframe, Payload.ofLines, Payload.ofLines, fieldTexts_append, htail,
      List.append_nil]
  rw [hpayload]
  unfold payloadsOf
  rw [hlines]
  simp only [List.cons_append]
  rw [framesOf]
  by_cases hhead : head = []
  · subst hhead
    rw [if_pos rfl, framesOf_append_blank hbody]
    rfl
  · rw [if_neg hhead, framesOf_append_blank hbody]
    rfl

/-- The events depend on what the lines say, and the frames taken off the bytes say the same. -/
theorem emit_payloadsOf (ending : Ending) (bytes : List UInt8) (fault : Option ProviderFault) :
    emit ending (payloadsOf refusal bytes fault) =
      emit ending ((takeFrames bytes).1.map (Payload.ofFrame refusal) ++
        lastPayload refusal (takeFrames bytes).2 fault) := by
  fun_induction takeFrames bytes with
  | case1 buffer h =>
      rw [List.map_nil, List.nil_append]
      exact emit_payloadsOf_of_none refusal ending fault h
  | case2 buffer frame rest h more ih =>
      rw [List.map_cons, List.cons_append, emit_payloadsOf_of_some refusal ending fault h]
      exact emit_congr _ ih

/-! ### Whole bodies -/

/-- What arrives is chunks, and then perhaps a fault. -/
theorem exists_chunks (arrivals : List Arrival) :
    ∃ (chunks : List (List UInt8)) (tail : List Arrival), arrivals = chunks.map .ok ++ tail ∧
      ((tail = [] ∧ received arrivals = (chunks.flatten, none)) ∨
        ∃ fault more, tail = .error fault :: more ∧
          received arrivals = (chunks.flatten, some fault)) := by
  induction arrivals with
  | nil => exact ⟨[], [], rfl, .inl ⟨rfl, rfl⟩⟩
  | cons arrival arrivals ih =>
      cases arrival with
      | error fault => exact ⟨[], _, rfl, .inr ⟨fault, arrivals, rfl, rfl⟩⟩
      | ok chunk =>
          obtain ⟨chunks, tail, rfl, hcase⟩ := ih
          refine ⟨chunk :: chunks, tail, rfl, ?_⟩
          rcases hcase with ⟨rfl, hreceived⟩ | ⟨fault, more, rfl, hreceived⟩
          · exact .inl ⟨rfl, by rw [received, hreceived]; rfl⟩
          · exact .inr ⟨fault, more, rfl, by rw [received, hreceived]; rfl⟩

theorem relay_eq_events (arrivals : List Arrival) :
    relay refusal arrivals = (decodeByLines refusal arrivals).events := by
  have hempty : takeFrame? [] = none := by simp [takeFrame?]
  obtain ⟨chunks, tail, rfl, hcase⟩ := exists_chunks arrivals
  unfold relay decodeByLines
  rw [relayFrom_chunks refusal chunks tail hempty, relayFrom_ok, List.nil_append]
  rcases hcase with ⟨rfl, hreceived⟩ | ⟨fault, more, rfl, hreceived⟩
  · rw [hreceived]
    show _ = emit .complete (payloadsOf refusal chunks.flatten none)
    rw [emit_payloadsOf, emit_frames]
    simp only [relayFrom, relayEnd_eq, lastPayload]
  · rw [hreceived]
    show _ = emit (.failed fault.message) (payloadsOf refusal chunks.flatten (some fault))
    rw [emit_payloadsOf, emit_frames]
    simp only [relayFrom, lastPayload, emit_nil]
    rfl

/-- The frames of the events for a delivery are the frames for it. -/
theorem map_frame_events (delivery : Delivery) :
    delivery.events.map Event.frame = delivery.frames := by
  have hending : delivery.ending.event.frame = delivery.ending.frame := by
    cases delivery.ending <;> rfl
  rw [Delivery.events, Delivery.frames, List.map_append, List.map_map, List.map_singleton, hending]
  rfl

/-- Whatever arrives, the relay sends what decoding by lines delivers: an event for each value, and
then exactly one event that says how the stream ended; and each event is sent as its frame. -/
theorem relay_eq_decodeByLines (arrivals : List Arrival) :
    relay refusal arrivals =
        (decodeByLines refusal arrivals).values.map .data ++
          [(decodeByLines refusal arrivals).ending.event] ∧
      (relay refusal arrivals).map Event.frame =
        (decodeByLines refusal arrivals).values.map (frameText "data") ++
          [(decodeByLines refusal arrivals).ending.frame] := by
  refine ⟨relay_eq_events refusal arrivals, ?_⟩
  rw [relay_eq_events]
  exact map_frame_events _

/-- A body in two chunks: a value, a comment, a value over two lines, the mark, and a value behind
it. -/
def markedBody : List Arrival :=
  ["data: null\r",
    "\n\r\n: ping\rdata:[\rdata: true ]\n\ndata: [DONE]\n\ndata: 2\n\n"].map fun chunk =>
      .ok (Utf8.encode chunk.toList)

/-- A body with a value, with data that are not JSON, and with a value behind them. -/
def garbledBody : List Arrival :=
  [.ok (Utf8.encode "data: \"[DONE]\"\n\ndata: oops\n\ndata: 2\n\n".toList)]

/-- The mark ends the one body, and data that are not JSON end the other. -/
theorem relay_markedBody_garbledBody :
    (relay expectedValue markedBody).map Event.frame =
        ["event: data\ndata: null\n\n", "event: data\ndata: [true]\n\n",
          "event: complete\ndata: \x7b\"type\":\"complete\"\x7d\n\n"] ∧
      (relay expectedValue garbledBody).map Event.frame =
        ["event: data\ndata: \"[DONE]\"\n\n",
          "event: error\ndata: \x7b\"message\":\"Invalid upstream response: " ++
            "expected value at line 1 column 1\",\"code\":\"INTERNAL_ERROR\"\x7d\n\n"] := by
  rw [(relay_eq_decodeByLines expectedValue markedBody).2,
    (relay_eq_decodeByLines expectedValue garbledBody).2]
  decide +kernel

end CompletionGateway.EventStream
