import CompletionGateway.EventStream.Relay

/-!
# Relaying does not depend on the chunks

A decision that the splitter takes on the bytes received so far stays right whatever bytes follow:
a line end that is present stays present with the same bytes, and a frame that is cut off a buffer
is cut off every longer buffer as well.  So taking all frames of a buffer and then all frames of the
rest with more bytes behind it is the same as taking all frames of the longer buffer, and by
induction on the chunks a body relayed piece by piece gives the events of the body relayed at once.
-/

namespace CompletionGateway.EventStream

/-- A line end that is present is present with the same bytes in every longer buffer. -/
theorem lineEnd_append_of_present {bytes mark rest : List UInt8} (more : List UInt8)
    (h : lineEnd bytes = .present mark rest) :
    lineEnd (bytes ++ more) = .present mark (rest ++ more) := by
  cases bytes with
  | nil => simp [lineEnd] at h
  | cons b bytes =>
      by_cases hfeed : b = lineFeed
      · simp only [lineEnd, if_pos hfeed] at h
        cases h
        simp [lineEnd, hfeed]
      · by_cases hreturn : b = carriageReturn
        · subst hreturn
          cases bytes with
          | nil => simp [lineEnd, hfeed] at h
          | cons c bytes =>
              by_cases hc : c = lineFeed
              · simp only [lineEnd, if_neg hfeed, if_pos, if_pos hc] at h
                cases h
                simp [lineEnd, hfeed, hc]
              · simp only [lineEnd, if_neg hfeed, if_pos, if_neg hc] at h
                cases h
                simp [lineEnd, hfeed, hc]
        · simp [lineEnd, hfeed, hreturn] at h

/-- Where no line ends, none ends in a longer buffer either, unless the buffer is empty. -/
theorem lineEnd_append_of_absent {b : UInt8} {bytes : List UInt8} (more : List UInt8)
    (h : lineEnd (b :: bytes) = .absent) : lineEnd (b :: bytes ++ more) = .absent := by
  by_cases hfeed : b = lineFeed
  · simp [lineEnd, hfeed] at h
  · by_cases hreturn : b = carriageReturn
    · subst hreturn
      cases bytes with
      | nil => simp [lineEnd, hfeed] at h
      | cons c bytes => by_cases hc : c = lineFeed <;> simp [lineEnd, hfeed, hc] at h
    · simp [lineEnd, hfeed, hreturn]

/-- Cutting by what stands at the front of the buffer. -/
theorem takeFrame?_cons (b : UInt8) (bytes : List UInt8) :
    takeFrame? (b :: bytes) =
      match lineEnd (b :: bytes) with
      | .absent => (takeFrame? bytes).map fun (frame, rest) => (b :: frame, rest)
      | .undecided => none
      | .present mark next =>
          match lineEnd next with
          | .present blank rest => some (mark ++ blank, rest)
          | .undecided => none
          | .absent => (takeFrame? next).map fun (frame, rest) => (mark ++ frame, rest) := by
  rw [takeFrame?]
  split
  · simp_all
  · simp_all
  · rename_i mark next hline
    cases hnext : lineEnd next <;> simp only [hline, hnext]

/-- A frame that is cut off a buffer is cut off every longer buffer. -/
theorem takeFrame?_append {buffer frame rest : List UInt8} (more : List UInt8)
    (h : takeFrame? buffer = some (frame, rest)) :
    takeFrame? (buffer ++ more) = some (frame, rest ++ more) := by
  fun_induction takeFrame? buffer generalizing frame rest with
  | case1 => simp at h
  | case2 b bytes hline ih =>
      obtain ⟨⟨front, back⟩, htake, heq⟩ := Option.map_eq_some_iff.1 h
      cases heq
      have hlonger := lineEnd_append_of_absent more hline
      rw [List.cons_append] at hlonger ⊢
      simp only [takeFrame?_cons, hlonger, ih htake, Option.map_some]
  | case3 => simp at h
  | case4 b bytes mark next hmark blank rest' hblank =>
      cases h
      have hlonger := lineEnd_append_of_present more hmark
      have hsecond := lineEnd_append_of_present more hblank
      rw [List.cons_append] at hlonger ⊢
      simp only [takeFrame?_cons, hlonger, hsecond]
  | case5 => simp at h
  | case6 b bytes mark next hmark hnext ih =>
      obtain ⟨⟨front, back⟩, htake, heq⟩ := Option.map_eq_some_iff.1 h
      cases heq
      have hlonger := lineEnd_append_of_present more hmark
      rw [List.cons_append] at hlonger ⊢
      -- behind the line end there is a byte, since the rest holds a frame
      cases next with
      | nil => simp [takeFrame?] at htake
      | cons c next =>
          have hsecond := lineEnd_append_of_absent more hnext
          simp only [takeFrame?_cons b, hlonger, hsecond, ih htake, Option.map_some]

theorem takeFrames_of_none {buffer : List UInt8} (h : takeFrame? buffer = none) :
    takeFrames buffer = ([], buffer) := by
  rw [takeFrames]
  split
  · rfl
  · simp_all

theorem takeFrames_of_some {buffer frame rest : List UInt8}
    (h : takeFrame? buffer = some (frame, rest)) :
    takeFrames buffer = (frame :: (takeFrames rest).1, (takeFrames rest).2) := by
  rw [takeFrames]
  split
  · simp_all
  · simp_all

/-- What is left after all frames have been taken holds no complete frame. -/
theorem takeFrame?_takeFrames_snd (buffer : List UInt8) :
    takeFrame? (takeFrames buffer).2 = none := by
  fun_induction takeFrames buffer with
  | case1 buffer h => exact h
  | case2 buffer frame rest h more ih => exact ih

/-- Bytes that arrive later only add frames behind those taken before. -/
theorem takeFrames_append (buffer more : List UInt8) :
    takeFrames (buffer ++ more) =
      ((takeFrames buffer).1 ++ (takeFrames ((takeFrames buffer).2 ++ more)).1,
        (takeFrames ((takeFrames buffer).2 ++ more)).2) := by
  fun_induction takeFrames buffer with
  | case1 buffer h => simp
  | case2 buffer frame rest h later ih =>
      rw [takeFrames_of_some (takeFrame?_append more h), ih]
      simp [later]

-- what the reader of JSON says of data that it refuses
variable (refusal : List Char → String)

/-- Frames behind those that end the stream are not relayed. -/
theorem relayFrames_append (front back : List (List UInt8)) :
    relayFrames refusal (front ++ back) =
      if (relayFrames refusal front).ended then relayFrames refusal front
      else ⟨(relayFrames refusal front).events ++ (relayFrames refusal back).events,
        (relayFrames refusal back).ended⟩ := by
  induction front with
  | nil => simp [relayFrames]
  | cons frame front ih =>
      by_cases hframe : (relayFrame refusal frame).ended = true
      · simp [relayFrames, hframe]
      · simp only [List.cons_append, relayFrames, if_neg hframe, ih]
        by_cases hfront : (relayFrames refusal front).ended = true
        · simp [hfront]
        · simp [hfront, List.append_assoc]

theorem relayFrom_ok (buffer chunk : List UInt8) (rest : List Arrival) :
    relayFrom refusal buffer (.ok chunk :: rest) =
      let relayed := relayFrames refusal (takeFrames (buffer ++ chunk)).1
      if relayed.ended then relayed.events
      else relayed.events ++ relayFrom refusal (takeFrames (buffer ++ chunk)).2 rest := by
  rfl

/-- Chunks that arrive one after the other are relayed like one chunk, if no complete frame is
waiting in the buffer. -/
theorem relayFrom_chunks {buffer : List UInt8} (chunks : List (List UInt8)) (tail : List Arrival)
    (h : takeFrame? buffer = none) :
    relayFrom refusal buffer (chunks.map .ok ++ tail) =
      relayFrom refusal buffer (.ok chunks.flatten :: tail) := by
  induction chunks generalizing buffer with
  | nil =>
      rw [List.flatten_nil, relayFrom_ok, List.append_nil, takeFrames_of_none h]
      simp [relayFrames]
  | cons chunk chunks ih =>
      have hrest := ih (takeFrame?_takeFrames_snd (buffer ++ chunk))
      have hsplit := takeFrames_append (buffer ++ chunk) chunks.flatten
      rw [List.append_assoc] at hsplit
      -- the joined chunks give the frames of the first chunk, and then those of the others
      rw [List.map_cons, List.cons_append, relayFrom_ok, relayFrom_ok, List.flatten_cons,
        hsplit, hrest, relayFrom_ok, relayFrames_append]
      by_cases hended : (relayFrames refusal (takeFrames (buffer ++ chunk)).1).ended = true
      · simp [hended]
      · simp only [if_neg hended]
        split <;> simp [List.append_assoc]

/-- The events that a body is relayed as depend on its bytes alone: however it is cut into chunks,
and whether the body then ends, fails or goes on. -/
theorem relay_eq_of_flatten_eq (chunks chunks' : List (List UInt8)) (tail : List Arrival)
    (h : chunks.flatten = chunks'.flatten) :
    relay refusal (chunks.map .ok ++ tail) = relay refusal (chunks'.map .ok ++ tail) := by
  have hempty : takeFrame? [] = none := by simp [takeFrame?]
  unfold relay
  rw [relayFrom_chunks refusal chunks tail hempty, relayFrom_chunks refusal chunks' tail hempty, h]

/-- The same is said of all data that are refused. -/
def expectedValue (_ : List Char) : String := "expected value at line 1 column 1"

/-- A body that is cut inside a character, inside a line end and inside a blank line. -/
theorem relay_cut_everywhere :
    [[100, 97, 116, 97, 58, 34, 195], [169, 34, 13], [], [10, 13], [10, 100]].flatten =
        [[100, 97, 116, 97, 58, 34, 195, 169, 34, 13, 10, 13, 10, 100]].flatten ∧
      relay expectedValue
          ([[100, 97, 116, 97, 58, 34, 195], [169, 34, 13], [], [10, 13], [10, 100]].map .ok ++
            [.error .missingKey]) =
        relay expectedValue
          ([[100, 97, 116, 97, 58, 34, 195, 169, 34, 13, 10, 13, 10, 100]].map .ok ++
            [.error .missingKey]) :=
  ⟨rfl, relay_eq_of_flatten_eq _ _ _ _ rfl⟩

end CompletionGateway.EventStream
