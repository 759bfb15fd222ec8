/-!
# Frames of an event stream

A frame ends with its first blank line.  Lines end with a carriage return, a line feed, or both.
The bytes of a stream arrive in chunks, so a carriage return that is the last byte so far is left
undecided: a line feed that belongs to it may follow.  What is cut off the front of a buffer is
therefore never changed by bytes that arrive later.
-/

namespace CompletionGateway.EventStream

/-- The byte of a line feed. -/
def lineFeed : UInt8 := 10

/-- The byte of a carriage return. -/
def carriageReturn : UInt8 := 13

/-- What stands at the front of a buffer, as far as line ends go. -/
inductive LineEnd where
  /-- No line ends here. -/
  | absent
  /-- A line ends here, but how long its end is depends on bytes still to come. -/
  | undecided
  /-- A line ends here with the bytes `mark`. -/
  | present (mark rest : List UInt8)

/-- Looks for a line end at the front of a buffer. -/
def lineEnd : List UInt8 → LineEnd
  | [] => .absent
  | b :: rest =>
      if b = lineFeed then .present [b] rest
      else if b = carriageReturn then
        match rest with
        | [] => .undecided
        | c :: more => if c = lineFeed then .present [b, c] more else .present [b] rest
      else .absent

theorem lineEnd_present {bytes mark rest : List UInt8} (h : lineEnd bytes = .present mark rest) :
    bytes = mark ++ rest ∧ mark ≠ [] := by
  unfold lineEnd at h
  split at h
  · cases h
  · split at h
    · cases h
      simp
    · split at h
      · split at h
        · cases h
        · split at h <;> cases h <;> simp
      · cases h

theorem length_lt_of_lineEnd_present {bytes mark rest : List UInt8}
    (h : lineEnd bytes = .present mark rest) : rest.length < bytes.length := by
  obtain ⟨rfl, hmark⟩ := lineEnd_present h
  have := List.length_pos_iff.2 hmark
  simp
  omega

/-- The first frame of a buffer with the blank line that ends it, and the bytes behind it; `none`
if no blank line has been received completely. -/
def takeFrame? (buffer : List UInt8) : Option (List UInt8 × List UInt8) :=
  match buffer with
  | [] => none
  | b :: bytes =>
      match _h : lineEnd (b :: bytes) with
      | .absent => (takeFrame? bytes).map fun (frame, rest) => (b :: frame, rest)
      | .undecided => none
      | .present mark next =>
          match lineEnd next with
          | .present blank rest => some (mark ++ blank, rest)
          | .undecided => none
          | .absent => (takeFrame? next).map fun (frame, rest) => (mark ++ frame, rest)
termination_by buffer.length
decreasing_by
  · simp
  · exact length_lt_of_lineEnd_present _h

theorem takeFrame?_eq_some {buffer frame rest : List UInt8}
    (h : takeFrame? buffer = some (frame, rest)) : buffer = frame ++ rest ∧ frame ≠ [] := by
  fun_induction takeFrame? buffer generalizing frame rest with
  | case1 => simp at h
  | case2 b bytes _ ih =>
      obtain ⟨⟨f, r⟩, hf, hr⟩ := Option.map_eq_some_iff.1 h
      cases hr
      simp [(ih hf).1]
  | case3 => simp at h
  | case4 b bytes mark next hmark blank rest' hblank =>
      cases h
      obtain ⟨hbytes, hne⟩ := lineEnd_present hmark
      obtain ⟨rfl, _⟩ := lineEnd_present hblank
      exact ⟨by simpa using hbytes, by simp [hne]⟩
  | case5 => simp at h
  | case6 b bytes mark next hmark _ ih =>
      obtain ⟨⟨f, r⟩, hf, hr⟩ := Option.map_eq_some_iff.1 h
      cases hr
      obtain ⟨hbytes, hne⟩ := lineEnd_present hmark
      obtain ⟨rfl, _⟩ := ih hf
      exact ⟨by simpa using hbytes, by simp [hne]⟩

/-- All complete frames of a buffer, and the bytes behind the last of them. -/
def takeFrames (buffer : List UInt8) : List (List UInt8) × List UInt8 :=
  match _h : takeFrame? buffer with
  | none => ([], buffer)
  | some (frame, rest) =>
      let more := takeFrames rest
      (frame :: more.1, more.2)
termination_by buffer.length
decreasing_by
  obtain ⟨rfl, hframe⟩ := takeFrame?_eq_some _h
  have := List.length_pos_iff.2 hframe
  simp
  omega

end CompletionGateway.EventStream
