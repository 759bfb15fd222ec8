import CompletionGateway.Proofs.EventStream.LineDecoder
import CompletionGateway.Proofs.Text.Decoding

/-!
# The lines of a frame

A frame is decoded as one text, and the text is split into lines.  Splitting the bytes first and
decoding line by line gives the same data: the bytes of a line end are characters by themselves, and
no other bytes are decoded to such a character.  The two ways differ in blank lines, and in a
carriage return that is the last byte so far; neither carries data.
-/

namespace CompletionGateway.EventStream

/-! ### Lines -/

theorem lineEnd_absent_iff {b : UInt8} {rest : List UInt8} :
    lineEnd (b :: rest) = .absent ↔ b ≠ lineFeed ∧ b ≠ carriageReturn := by
  unfold lineEnd
  by_cases hfeed : b = lineFeed
  · simp [hfeed]
  · by_cases hreturn : b = carriageReturn
    · subst hreturn
      cases rest with
      | nil => simp [hfeed]
      | cons c more =>
          by_cases hc : c = lineFeed <;> simp [hfeed, hc]
    · simp [hfeed, hreturn]

theorem lineEnd_undecided {bytes : List UInt8} (h : lineEnd bytes = .undecided) :
    bytes = [carriageReturn] := by
  unfold lineEnd at h
  split at h
  · cases h
  · split at h
    · cases h
    · split at h
      · rename_i hreturn
        split at h
        · rw [hreturn]
        · split at h <;> cases h
      · cases h

/-- Lines by what stands at the front of the bytes. -/
theorem linesOf_cons (b : UInt8) (rest : List UInt8) :
    linesOf (b :: rest) =
      match lineEnd (b :: rest) with
      | .absent => (linesOf rest).add b
      | .undecided => ⟨[], [b]⟩
      | .present _ next => (linesOf next).close := by
  rw [linesOf.eq_def]
  by_cases hfeed : b = 10
  · simp [lineEnd, lineFeed, hfeed]
  · by_cases hreturn : b = 13
    · cases rest with
      | nil => simp [lineEnd, lineFeed, carriageReturn, hreturn]
      | cons c more =>
          by_cases hc : c = 10 <;> simp [lineEnd, lineFeed, carriageReturn, hreturn, hc]
    · simp [lineEnd, lineFeed, carriageReturn, hfeed, hreturn]

theorem linesOf_of_absent {b : UInt8} {rest : List UInt8} (h : lineEnd (b :: rest) = .absent) :
    linesOf (b :: rest) = (linesOf rest).add b := by
  rw [linesOf_cons, h]

theorem linesOf_of_present {bytes mark next : List UInt8} (h : lineEnd bytes = .present mark next) :
    linesOf bytes = (linesOf next).close := by
  cases bytes with
  | nil => simp [lineEnd] at h
  | cons b rest => rw [linesOf_cons, h]

theorem linesOf_return : linesOf [carriageReturn] = ⟨[], [carriageReturn]⟩ := by
  rw [linesOf]
  simp [carriageReturn]

/-- No line ends in these bytes. -/
def IsLine (line : List UInt8) : Prop := ∀ b ∈ line, b ≠ lineFeed ∧ b ≠ carriageReturn

theorem linesOf_append {line : List UInt8} (h : IsLine line) (rest : List UInt8) :
    linesOf (line ++ rest) = line.foldr Parts.add (linesOf rest) := by
  induction line with
  | nil => rfl
  | cons b line ih =>
      have hline : IsLine line := fun c hc => h c (List.mem_cons_of_mem b hc)
      have habsent : lineEnd (b :: (line ++ rest)) = .absent := lineEnd_absent_iff.2 (h b (by simp))
      rw [List.cons_append, linesOf_of_absent habsent, ih hline]
      rfl

theorem foldr_add_left (line left : List UInt8) :
    line.foldr Parts.add ⟨[], left⟩ = ⟨[], line ++ left⟩ := by
  induction line with
  | nil => rfl
  | cons b line ih => rw [List.foldr_cons, ih]; rfl

theorem foldr_add_close (line : List UInt8) (parts : Parts UInt8) :
    line.foldr Parts.add parts.close = ⟨line :: parts.ended, parts.left⟩ := by
  induction line with
  | nil => rfl
  | cons b line ih => rw [List.foldr_cons, ih]; rfl

/-- Bytes are a line without its end, or a line, its end and more bytes.  The end may be undecided,
and then nothing follows it. -/
theorem exists_line (bytes : List UInt8) :
    IsLine bytes ∨ ∃ line rest, IsLine line ∧ bytes = line ++ rest ∧
      (rest = [carriageReturn] ∨ ∃ mark next, lineEnd rest = .present mark next) := by
  induction bytes with
  | nil => exact .inl (by simp [IsLine])
  | cons b rest ih =>
      cases hend : lineEnd (b :: rest) with
      | present mark next => exact .inr ⟨[], b :: rest, by simp [IsLine], rfl, .inr ⟨mark, next, hend⟩⟩
      | undecided =>
          exact .inr ⟨[], b :: rest, by simp [IsLine], rfl, .inl (lineEnd_undecided hend)⟩
      | absent =>
          have hb := lineEnd_absent_iff.1 hend
          rcases ih with hline | ⟨line, more, hline, rfl, hmore⟩
          · exact .inl (by simpa [IsLine] using ⟨hb, hline⟩)
          · exact .inr ⟨b :: line, more, by simpa [IsLine] using ⟨hb, hline⟩, rfl, hmore⟩

/-! ### Data -/

theorem isBlank_eq (c : Char) : Text.isBlank c = decide (c.toNat ∈ whiteSpace) := by
  rw [Bool.eq_iff_iff, decide_eq_true_iff]
  simp [Text.isBlank, whiteSpace]
  omega

theorem stripped_eq (text : List Char) : stripped text = text.dropWhile Text.isBlank := by
  induction text with
  | nil => rfl
  | cons c text ih =>
      rw [stripped, List.dropWhile_cons, isBlank_eq, ih]
      by_cases hspace : c.toNat ∈ whiteSpace <;> simp [hspace]

theorem strippedAround_eq (text : List Char) : strippedAround text = Text.trim text := by
  rw [strippedAround, stripped_eq, stripped_eq]
  rfl

theorem fieldText?_eq (line : List Char) : fieldText? line = lineData? line := by
  unfold fieldText?
  split
  · rw [strippedAround_eq]
    simp [lineData?, dataField]
  · next hother =>
      have hline : ¬ dataField <+: line := by
        rintro ⟨text, rfl⟩
        exact hother text rfl
      rw [lineData?, if_neg (by simpa using hline)]

theorem Payload.ofText_eq (refusal : List Char → String) (text : List Char) :
    Payload.ofText refusal text = Payload.ofData refusal text := by
  unfold Payload.ofText
  split
  · rfl
  · rfl
  · next hempty hmark =>
      have hfull : text ≠ [] := hempty
      have hother : text ≠ finishMark := hmark
      cases hread : Json.ofText? text <;> simp [Payload.ofData, hfull, hother, hread]

theorem fieldTexts_eq (lines : List (List UInt8)) :
    fieldTexts lines = lines.filterMap fun line => lineData? (Utf8.decodeLossy line) := by
  simp only [fieldTexts, fieldText?_eq]

@[simp]
theorem fieldTexts_append (front back : List (List UInt8)) :
    fieldTexts (front ++ back) = fieldTexts front ++ fieldTexts back := by
  simp [fieldTexts]

theorem split_append {isSeparator : Char → Bool} {c : Char} (hc : isSeparator c = true)
    (front back : List Char) :
    Text.split isSeparator (front ++ c :: back) =
      Text.split isSeparator front ++ Text.split isSeparator back := by
  induction front with
  | nil => simp [Text.split, hc]
  | cons d front ih =>
      rw [List.cons_append, Text.split, Text.split, ih]
      split
      · rfl
      · cases hfront : Text.split isSeparator front with
        | nil => exact absurd hfront (Text.split_ne_nil _ _)
        | cons part more => rfl

theorem split_of_forall {isSeparator : Char → Bool} {text : List Char}
    (h : ∀ c ∈ text, isSeparator c = false) : Text.split isSeparator text = [text] := by
  induction text with
  | nil => rfl
  | cons c text ih =>
      rw [Text.split, if_neg (by simp [h c (by simp)]), ih fun d hd => h d (by simp [hd])]

theorem frameLines_append_break (front back : List UInt8) {b : UInt8}
    (hb : b = lineFeed ∨ b = carriageReturn) :
    frameLines (Utf8.decodeLossy (front ++ b :: back)) =
      frameLines (Utf8.decodeLossy front) ++ frameLines (Utf8.decodeLossy back) := by
  have hascii : b.toNat < 0x80 := by rcases hb with rfl | rfl <;> decide
  have hbreak : (Char.ofNat b.toNat = '\r' || Char.ofNat b.toNat = '\n') = true := by
    rcases hb with rfl | rfl <;> decide
  rw [Utf8.decodeLossy_append_ascii hascii, frameLines, split_append hbreak]
  rfl

/-- A line is one line still when it has been decoded. -/
theorem frameLines_of_isLine {line : List UInt8} (h : IsLine line) :
    frameLines (Utf8.decodeLossy line) = [Utf8.decodeLossy line] := by
  refine split_of_forall fun c hc => ?_
  rw [Bool.or_eq_false_iff, decide_eq_false_iff_not, decide_eq_false_iff_not]
  constructor
  · rintro rfl
    obtain ⟨b, hmem, hb⟩ := Utf8.mem_of_mem_decodeLossy hc (by decide) (by decide)
    exact (h b hmem).2 (UInt8.toNat_inj.1 hb)
  · rintro rfl
    obtain ⟨b, hmem, hb⟩ := Utf8.mem_of_mem_decodeLossy hc (by decide) (by decide)
    exact (h b hmem).1 (UInt8.toNat_inj.1 hb)

/-! ### The data of a frame -/

/-- The data on the lines of a text. -/
def textData (text : List Char) : List (List Char) := (frameLines text).filterMap lineData?

theorem mark_of_lineEnd {bytes mark rest : List UInt8} (h : lineEnd bytes = .present mark rest) :
    mark = [lineFeed] ∨ mark = [carriageReturn] ∨ mark = [carriageReturn, lineFeed] := by
  unfold lineEnd at h
  split at h
  · cases h
  · rename_i b more
    split at h
    · rename_i hfeed
      cases h
      exact .inl (by rw [hfeed])
    · split at h
      · rename_i hreturn
        split at h
        · cases h
        · split at h
          · rename_i hsecond
            cases h
            exact .inr (.inr (by rw [hreturn, hsecond]))
          · cases h
            exact .inr (.inl (by rw [hreturn]))
      · cases h

/-- A line end divides the data of the text around it. -/
theorem textData_append_mark {bytes mark rest : List UInt8} (front : List UInt8)
    (h : lineEnd bytes = .present mark rest) :
    textData (Utf8.decodeLossy (front ++ bytes)) =
      textData (Utf8.decodeLossy front) ++ textData (Utf8.decodeLossy rest) := by
  obtain ⟨rfl, -⟩ := lineEnd_present h
  unfold textData
  rcases mark_of_lineEnd h with rfl | rfl | rfl
  · rw [List.singleton_append, frameLines_append_break front rest (.inl rfl), List.filterMap_append]
  · rw [List.singleton_append, frameLines_append_break front rest (.inr rfl), List.filterMap_append]
  · -- between a carriage return and its line feed the text has an empty line
    have hinner := frameLines_append_break [] rest (.inl rfl)
    rw [List.nil_append] at hinner
    rw [List.cons_append, List.singleton_append, frameLines_append_break front _ (.inr rfl), hinner,
      List.filterMap_append, List.filterMap_append]
    rfl

/-- A carriage return behind a line is trimmed off its data. -/
theorem lineData?_append_return (text : List Char) :
    lineData? (text ++ ['\r']) = lineData? text := by
  have hblank : Text.isBlank '\r' = true := by decide
  have htrim : ∀ front : List Char, Text.trim (front ++ ['\r']) = Text.trim front := by
    intro front
    simp only [Text.trim, Text.trimStart, Text.trimEnd, List.dropWhile_append]
    split
    · rename_i hempty
      rw [List.isEmpty_iff.1 hempty]
      simp [hblank]
    · simp [hblank]
  unfold lineData?
  match text with
  | [] => rfl
  | [a] | [a, b] | [a, b, c] => simp [dataField]
  | [a, b, c, d] => simp [dataField]
  | a :: b :: c :: d :: e :: rest => simp [dataField, htrim]

/-- Decoding a whole frame and splitting the text gives the data of its lines. -/
theorem textData_eq (bytes : List UInt8) :
    textData (Utf8.decodeLossy bytes) = fieldTexts (linesOf bytes).all := by
  rcases exists_line bytes with hline | ⟨line, rest, hline, hbytes, rfl | ⟨mark, next, hmark⟩⟩
  · have hlines := linesOf_append hline []
    rw [List.append_nil, linesOf, foldr_add_left, List.append_nil] at hlines
    rw [hlines, textData, frameLines_of_isLine hline, fieldTexts_eq]
    rfl
  · rw [hbytes, linesOf_append hline, linesOf_return, foldr_add_left, textData,
      frameLines_append_break line [] (.inr rfl), frameLines_of_isLine hline]
    have hdecode : Utf8.decodeLossy (line ++ [carriageReturn]) = Utf8.decodeLossy line ++ ['\r'] := by
      rw [Utf8.decodeLossy_append_ascii (by decide)]
      rfl
    simp only [Parts.all, fieldTexts_eq, List.nil_append, List.filterMap_cons, List.filterMap_nil,
      hdecode, lineData?_append_return]
    rfl
  · have hshorter : next.length < bytes.length := by
      have hnext := length_lt_of_lineEnd_present hmark
      rw [hbytes, List.length_append]
      omega
    have ih := textData_eq next
    rw [hbytes, textData_append_mark line hmark, ih, linesOf_append hline, linesOf_of_present hmark,
      foldr_add_close, textData, frameLines_of_isLine hline]
    simp only [Parts.all, List.cons_append, fieldTexts_eq, List.filterMap_cons, List.filterMap_nil]
    cases lineData? (Utf8.decodeLossy line) <;> rfl
termination_by bytes.length

theorem Payload.ofFrame_eq (refusal : List Char → String) (frame : List UInt8) :
    Payload.ofFrame refusal frame = Payload.ofLines refusal (linesOf frame).all := by
  rw [Payload.ofFrame, frameData, Payload.ofLines, ← textData_eq, Payload.ofText_eq]
  rfl

end CompletionGateway.EventStream
