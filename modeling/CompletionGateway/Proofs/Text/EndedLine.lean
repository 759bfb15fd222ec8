import Mathlib.Data.List.TakeWhile
import CompletionGateway.Text.Line
import CompletionGateway.Proofs.Text.LineEnd

/-!
# Lines with their ends

A text is a sequence of lines, each with the line end behind it: a line feed, a carriage return, or a
return and a feed.  The last line is not ended.  These are the lines that a cursor counts.

Reports quote the lines that only feeds end.  As long as no line ends with a return alone, these are
the same lines, except that an empty line at the very end is none.
-/

namespace CompletionGateway

/-- A line and the line end behind it. -/
structure EndedLine where
  content : List Char
  ending : List Char
deriving DecidableEq

/-- One more character at the front of a line. -/
def EndedLine.add (c : Char) (line : EndedLine) : EndedLine := ⟨c :: line.content, line.ending⟩

namespace Text

/-- The lines of a text with their ends. -/
def endedLines : List Char → List EndedLine
  | [] => [⟨[], []⟩]
  | '\r' :: '\n' :: rest => ⟨[], ['\r', '\n']⟩ :: endedLines rest
  | c :: rest =>
      if c = '\n' ∨ c = '\r' then ⟨[], [c]⟩ :: endedLines rest
      else (endedLines rest).modifyHead (.add c)

/-- The part of a text before its first line end. -/
def untilLineEnd (text : List Char) : List Char :=
  text.takeWhile fun c => c != '\n' && c != '\r'

theorem endedLines_cons {c : Char} {rest : List Char} (h : Cuts [c] rest) :
    endedLines (c :: rest) =
      if c = '\n' ∨ c = '\r' then ⟨[], [c]⟩ :: endedLines rest
      else (endedLines rest).modifyHead (.add c) := by
  refine endedLines.eq_3 c rest fun more hc hrest => h ?_ ?_
  · rw [hc, List.getLast?_singleton]
  · rw [hrest, List.head?_cons]

theorem untilLineEnd_cons (c : Char) (rest : List Char) :
    untilLineEnd (c :: rest) = if c = '\n' ∨ c = '\r' then [] else c :: untilLineEnd rest := by
  by_cases hfeed : c = '\n'
  · simp [untilLineEnd, hfeed]
  · by_cases hreturn : c = '\r' <;> simp [untilLineEnd, hfeed, hreturn]

/-- A line end hides what stands behind it. -/
theorem untilLineEnd_append_of_lineEnd {front : List Char} (h : ∃ c ∈ front, c = '\n' ∨ c = '\r')
    (back : List Char) : untilLineEnd (front ++ back) = untilLineEnd front := by
  induction front with
  | nil => simp at h
  | cons c front ih =>
      rw [List.cons_append, untilLineEnd_cons, untilLineEnd_cons]
      split
      · rfl
      · rename_i hc
        obtain ⟨d, hd, hend⟩ := h
        have hmem : d ∈ front := (List.mem_cons.1 hd).resolve_left fun heq => hc (heq ▸ hend)
        rw [ih ⟨d, hmem, hend⟩]

theorem untilLineEnd_append_of_plain {front : List Char} (h : ∀ c ∈ front, ¬ (c = '\n' ∨ c = '\r'))
    (back : List Char) : untilLineEnd (front ++ back) = front ++ untilLineEnd back :=
  List.takeWhile_append_of_pos fun c hc => by simpa using h c hc

theorem untilLineEnd_of_plain {text : List Char} (h : ∀ c ∈ text, ¬ (c = '\n' ∨ c = '\r')) :
    untilLineEnd text = text := by
  simpa [untilLineEnd] using untilLineEnd_append_of_plain h []

/-- The first line is the text up to its first line end. -/
theorem exists_first (text : List Char) :
    ∃ ending more, endedLines text = ⟨untilLineEnd text, ending⟩ :: more := by
  fun_induction endedLines text with
  | case1 | case2 => exact ⟨_, _, rfl⟩
  | case3 c rest hpair hc ih =>
      rw [untilLineEnd_cons, if_pos hc]
      exact ⟨_, _, rfl⟩
  | case4 c rest hpair hc ih =>
      obtain ⟨ending, more, hlines⟩ := ih
      rw [untilLineEnd_cons, if_neg hc, hlines]
      exact ⟨_, _, rfl⟩

/-! ### The lines that reports quote -/

theorem getD_lines_cons {c : Char} {rest : List Char} (hc : ¬ (c = '\n' ∨ c = '\r')) (index : Nat) :
    (lines (c :: rest))[index]?.getD [] =
      if index = 0 then c :: (lines rest)[0]?.getD [] else (lines rest)[index]?.getD [] := by
  rw [not_or] at hc
  rw [lines.eq_4 c rest hc.1 fun more hreturn => absurd hreturn hc.2]
  cases lines rest with
  | nil => cases index <;> rfl
  | cons line more => cases index <;> rfl

/-- A line is quoted as it is, unless a line up to it ends with a return alone. -/
theorem getD_lines {text : List Char} {index : Nat} {line : EndedLine}
    (hline : (endedLines text)[index]? = some line)
    (hreturn : ∀ earlier ∈ (endedLines text).take (index + 1), earlier.ending ≠ ['\r']) :
    (lines text)[index]?.getD [] = line.content := by
  fun_induction endedLines text generalizing index line with
  | case1 =>
      cases index with
      | zero => rw [← Option.some.inj hline]; rfl
      | succ index => cases hline
  | case2 rest ih =>
      cases index with
      | zero => rw [← Option.some.inj hline]; rfl
      | succ index => exact ih hline fun earlier hmem => hreturn earlier (List.mem_cons_of_mem _ hmem)
  | case3 c rest hpair hc ih =>
      -- a line that ends with a return alone is excluded
      obtain rfl : c = '\n' := by
        rcases hc with hfeed | rfl
        · exact hfeed
        · exact absurd rfl (hreturn ⟨[], ['\r']⟩ List.mem_cons_self)
      cases index with
      | zero => rw [← Option.some.inj hline]; rfl
      | succ index => exact ih hline fun earlier hmem => hreturn earlier (List.mem_cons_of_mem _ hmem)
  | case4 c rest hpair hc ih =>
      obtain ⟨ending, more, hlines⟩ := exists_first rest
      rw [hlines] at hline hreturn ih
      have hends : ∀ earlier ∈ (⟨untilLineEnd rest, ending⟩ :: more).take (index + 1),
          earlier.ending ≠ ['\r'] := by simpa [EndedLine.add] using hreturn
      rw [getD_lines_cons hc]
      cases index with
      | zero =>
          rw [← Option.some.inj hline, if_pos rfl, ih rfl hends]
          rfl
      | succ index => exact ih hline hends

/-- A line that is not empty is the one that a report quotes, unless a line up to it ends with a
return alone. -/
theorem getElem?_lines {text : List Char} {index : Nat} {line : EndedLine}
    (hline : (endedLines text)[index]? = some line) (hne : line.content ≠ [])
    (hreturn : ∀ earlier ∈ (endedLines text).take (index + 1), earlier.ending ≠ ['\r']) :
    (lines text)[index]? = some line.content := by
  have hcontent := getD_lines hline hreturn
  cases hquoted : (lines text)[index]? with
  | none =>
      rw [hquoted] at hcontent
      exact absurd hcontent.symm hne
  | some quoted =>
      rw [hquoted] at hcontent
      exact congrArg some hcontent

end Text

namespace Cursor

/-! ### The line where a cursor stands -/

/-- Over the front of a text a cursor gets to the line `count` lines on.  There it stands behind
`lead`, which is the beginning of the line. -/
structure GetsTo (cursor : Cursor) (front back : List Char) (count : Nat) (lead : List Char)
    (ending : List Char) : Prop where
  line : (cursor.walk front).position.line = cursor.position.line + count
  column : (cursor.walk front).position.column =
    (if count = 0 then cursor.position.column else 0) + lead.length
  whole : (Text.endedLines (front ++ back))[count]? = some ⟨lead ++ Text.untilLineEnd back, ending⟩

section GetsTo

variable {cursor next : Cursor} {front back rest lead ending : List Char} {count : Nat}

/-- Behind a line end the columns are those of the next line. -/
theorem GetsTo.of_line {first : EndedLine} (h : next.GetsTo rest back count lead ending)
    (hwalk : cursor.walk front = next.walk rest)
    (hline : next.position.line = cursor.position.line + 1) (hcolumn : next.position.column = 0)
    (hlines : Text.endedLines (front ++ back) = first :: Text.endedLines (rest ++ back)) :
    cursor.GetsTo front back (count + 1) lead ending where
  line := by
    rw [hwalk, h.line, hline]
    omega
  column := by
    rw [hwalk, h.column, hcolumn]
    simp
  whole := by
    rw [hlines]
    exact h.whole

theorem GetsTo.of_plain {c : Char} (h : (cursor.step c).GetsTo rest back count lead ending)
    (hc : ¬ (c = '\n' ∨ c = '\r')) (hcuts : Text.Cuts [c] (rest ++ back)) :
    cursor.GetsTo (c :: rest) back count (if count = 0 then c :: lead else lead) ending where
  line := by
    rw [walk_cons, h.line, step_of_plain cursor hc]
  column := by
    rw [walk_cons, h.column, step_of_plain cursor hc]
    split
    · exact Nat.succ_add_eq_add_succ _ _
    · rfl
  whole := by
    rw [List.cons_append, Text.endedLines_cons hcuts, if_neg hc, List.getElem?_modifyHead, h.whole]
    split <;> rfl

/-- Wherever a cursor stops without cutting a line end, it stands in one of the lines. -/
theorem exists_getsTo (h : Text.Cuts front back)
    (hreturn : cursor.afterReturn = true → front.head? ≠ some '\n') :
    ∃ count lead ending, cursor.GetsTo front back count lead ending := by
  fun_induction Text.endedLines front generalizing cursor with
  | case1 =>
      obtain ⟨ending, more, hlines⟩ := Text.exists_first back
      refine ⟨0, [], ending, rfl, rfl, ?_⟩
      rw [List.nil_append, hlines]
      rfl
  | case2 rest ih =>
      obtain ⟨count, lead, ending, hmore⟩ :=
        @ih ((cursor.step '\r').step '\n') h.tail.tail (by simp [step])
      exact ⟨count + 1, lead, ending, hmore.of_line rfl rfl rfl rfl⟩
  | case3 c rest hpair hc ih =>
      have hstep := @step_of_lineEnd cursor c hc (by simpa using hreturn)
      obtain ⟨count, lead, ending, hmore⟩ := @ih (cursor.step c) h.tail fun hafter hhead => by
        obtain ⟨more, rfl⟩ := List.head?_eq_some_iff.1 hhead
        exact hpair more (by simpa [hstep] using hafter) rfl
      have hlines : Text.endedLines (c :: rest ++ back) =
          ⟨[], [c]⟩ :: Text.endedLines (rest ++ back) := by
        rw [List.cons_append, Text.endedLines_cons (h.first hpair), if_pos hc]
      exact ⟨count + 1, lead, ending, hmore.of_line rfl (by rw [hstep]) (by rw [hstep]) hlines⟩
  | case4 c rest hpair hc ih =>
      obtain ⟨count, lead, ending, hmore⟩ := @ih (cursor.step c) h.tail (by simp [step_of_plain _ hc])
      exact ⟨count, _, ending, hmore.of_plain hc (h.first hpair)⟩

end GetsTo

/-- The line where a cursor stops, in two parts. -/
theorem exists_line_walk {front back : List Char} (h : Text.Cuts front back) :
    ∃ lead ending, lead.length = (start.walk front).position.column ∧
      (Text.endedLines (front ++ back))[(start.walk front).position.line]? =
        some ⟨lead ++ Text.untilLineEnd back, ending⟩ := by
  obtain ⟨count, lead, ending, hgets⟩ := @exists_getsTo start _ _ h nofun
  have hline : (start.walk front).position.line = count := by
    rw [hgets.line]
    exact Nat.zero_add count
  refine ⟨lead, ending, ?_, by rw [hline, hgets.whole]⟩
  rw [hgets.column]
  simp [start, Position.origin]

/-! ### The part of a walk on the line where it begins -/

theorem walk_of_plain (cursor : Cursor) {text : List Char}
    (h : ∀ c ∈ text, ¬ (c = '\n' ∨ c = '\r')) :
    (cursor.walk text).position.line = cursor.position.line ∧
      (cursor.walk text).position.column = cursor.position.column + text.length := by
  induction text generalizing cursor with
  | nil => exact ⟨rfl, rfl⟩
  | cons c text ih =>
      obtain ⟨hline, hcolumn⟩ := ih (cursor.step c) fun d hd => h d (List.mem_cons_of_mem _ hd)
      have hstep := step_of_plain cursor (h c List.mem_cons_self)
      refine ⟨?_, ?_⟩
      · rw [walk_cons, hline, hstep]
      · rw [walk_cons, hcolumn, hstep]
        exact Nat.succ_add_eq_add_succ _ _

theorem line_le_step (cursor : Cursor) (c : Char) :
    cursor.position.line ≤ (cursor.step c).position.line := by
  unfold step
  split
  · split
    · exact Nat.le_refl _
    · exact Nat.le_succ _
  · split
    · exact Nat.le_succ _
    · exact Nat.le_refl _

theorem line_le_walk (cursor : Cursor) (text : List Char) :
    cursor.position.line ≤ (cursor.walk text).position.line := by
  induction text generalizing cursor with
  | nil => exact Nat.le_refl _
  | cons c text ih => exact (line_le_step cursor c).trans (ih _)

/-- A walk that passes a line end leaves its line. -/
theorem line_lt_walk {cursor : Cursor} {text : List Char}
    (hreturn : cursor.afterReturn = true → text.head? ≠ some '\n')
    (h : ∃ c ∈ text, c = '\n' ∨ c = '\r') :
    cursor.position.line < (cursor.walk text).position.line := by
  induction text generalizing cursor with
  | nil => simp at h
  | cons c text ih =>
      rw [walk_cons]
      by_cases hc : c = '\n' ∨ c = '\r'
      · have hle := line_le_walk (cursor.step c) text
        rw [step_of_lineEnd hc (by simpa using hreturn)] at hle ⊢
        exact hle
      · obtain ⟨d, hd, hend⟩ := h
        have hmem : d ∈ text := (List.mem_cons.1 hd).resolve_left fun heq => hc (heq ▸ hend)
        have hlt := @ih (cursor.step c) (by simp [step_of_plain _ hc]) ⟨d, hmem, hend⟩
        rw [step_of_plain _ hc] at hlt ⊢
        exact hlt

end Cursor

end CompletionGateway
