import CompletionGateway.Diagnostic.Report
import CompletionGateway.Proofs.Operation.Places
import CompletionGateway.Proofs.Text.EndedLine

/-!
# The line that a report quotes

A cursor and a report count lines in two ways, which differ at a carriage return without a line feed.
Unless there is such a return up to the line of an error, the report of the error quotes this line,
and the marks stand below the part of it that the error covers.  A report only breaks off at a line
so long that its marks would stand behind the widest padding.
-/

namespace CompletionGateway

/-- A quotation shows a line under its number.  Below it are marks from where the span begins up to
its end or to the end of the line, and one mark if the span covers nothing of the line. -/
def Span.Shows (span : Span) (text : List Char) (line : EndedLine) (mark : Char)
    (quotation : String) : Prop :=
  ∃ lead rest covered padding,
    line.content = lead ++ rest ∧ lead.length = span.start.column ∧
      span.textIn? text = some covered ∧ Text.untilLineEnd covered <+: rest ∧
        let number := repeated padding ' ' ++ toString (span.start.line + 1)
        let margin := repeated number.length ' '
        let indent := repeated lead.length ' '
        let marks := repeated (max 1 (Text.untilLineEnd covered).length) mark
        quotation = s!"{margin} |\n{number} | {String.ofList line.content}\n" ++
          s!"{margin} | {indent}{marks}\n"

@[simp]
theorem length_repeated (count : Nat) (c : Char) : (repeated count c).length = count := by
  simp [repeated]

theorem length_padLeft (width n : Nat) :
    (padLeft width n).length = max width (toString n).length := by
  rw [padLeft, String.length_append, length_repeated]
  omega

theorem indentTo_of_le {column : Nat} (h : column ≤ maxWidth) :
    indentTo column = .ok (repeated column ' ') := if_pos h

theorem indentTo_of_lt {column : Nat} (h : maxWidth < column) :
    indentTo column = .error ⟨column⟩ := if_neg (Nat.not_le.2 h)

namespace Span

/-- A span that begins within the widest padding is quoted, if its line is found. -/
theorem exists_quote? {span : Span} (h : span.start.column ≤ maxWidth) (mark : Char)
    (source : List Char) : ∃ quotation, span.quote? mark source = .ok quotation := by
  unfold quote?
  split
  · exact ⟨none, rfl⟩
  · rw [indentTo_of_le h]
    exact ⟨_, rfl⟩

variable {text : List Char} {span : Span} {line : EndedLine}

/-- The part of the line that a span covers. -/
theorem Walked.exists_parts (h : span.Walked text)
    (hline : (Text.endedLines text)[span.start.line]? = some line) :
    ∃ lead rest covered, line.content = lead ++ rest ∧ lead.length = span.start.column ∧
      span.textIn? text = some covered ∧ Text.untilLineEnd covered <+: rest ∧
        (if span.stop.line = span.start.line then span.stop.column else line.content.length) -
          span.start.column = (Text.untilLineEnd covered).length := by
  obtain ⟨front, covered, behind, rfl, hfront, -, rfl⟩ := h
  have hcovered := textIn?_walk front covered behind
  rw [List.append_assoc] at hline hcovered ⊢
  obtain ⟨lead, ending, hcolumn, hwhole⟩ := Cursor.exists_line_walk hfront
  obtain rfl : line = ⟨lead ++ Text.untilLineEnd (covered ++ behind), ending⟩ :=
    (Option.some.inj (hwhole.symm.trans hline)).symm
  simp only [Cursor.walk_append] at hcovered ⊢
  refine ⟨lead, _, covered, rfl, hcolumn, hcovered, ?_⟩
  by_cases hends : ∃ c ∈ covered, c = '\n' ∨ c = '\r'
  · -- the span leaves the line
    have hlt : (Cursor.start.walk front).position.line <
        ((Cursor.start.walk front).walk covered).position.line := by
      refine Cursor.line_lt_walk (fun hafter hhead => ?_) hends
      refine hfront ((Cursor.hasCounted_walk front).afterReturn.1 hafter) ?_
      rw [List.head?_append, hhead]
      rfl
    rw [Text.untilLineEnd_append_of_lineEnd hends, if_neg (Nat.ne_of_gt hlt), ← hcolumn,
      List.length_append, Nat.add_sub_cancel_left]
    exact ⟨List.prefix_refl _, rfl⟩
  · have hplain : ∀ c ∈ covered, ¬ (c = '\n' ∨ c = '\r') := fun c hc hend => hends ⟨c, hc, hend⟩
    obtain ⟨hline, hstop⟩ := Cursor.walk_of_plain (Cursor.start.walk front) hplain
    rw [Text.untilLineEnd_append_of_plain hplain, Text.untilLineEnd_of_plain hplain, if_pos hline,
      hstop, Nat.add_sub_cancel_left]
    exact ⟨List.prefix_append _ _, rfl⟩

/-- The quotation for a span. -/
theorem Walked.exists_quotation (h : span.Walked text)
    (hline : (Text.endedLines text)[span.start.line]? = some line) (hne : line.content ≠ [])
    (hreturn : ∀ earlier ∈ (Text.endedLines text).take (span.start.line + 1),
      earlier.ending ≠ ['\r']) (hcolumn : span.start.column ≤ maxWidth) (mark : Char) :
    ∃ quotation, span.quote? mark text = .ok (some quotation) ∧
      span.Shows text line mark quotation := by
  obtain ⟨lead, rest, covered, hcontent, hlead, hcovered, hprefix, hmarks⟩ := h.exists_parts hline
  have hquoted := Text.getElem?_lines hline hne hreturn
  refine ⟨_, by rw [quote?, hquoted, indentTo_of_le hcolumn]; rfl, lead, rest, covered,
    max 2 (toString (span.start.line + 1)).length - (toString (span.start.line + 1)).length, hcontent,
    hlead, hcovered, hprefix, ?_⟩
  have hnumber := length_padLeft (max 2 (toString (span.start.line + 1)).length) (span.start.line + 1)
  rw [padLeft, Nat.max_assoc, Nat.max_self] at hnumber
  simp only [padLeft, hmarks, hlead, hnumber]

end Span

/-- A note whose place lies within the widest padding is reported. -/
theorem Note.exists_report {note : Note} (h : ∀ span ∈ note.span, span.start.column ≤ maxWidth)
    (source : Option (List Char)) : ∃ report, note.report source = .ok report := by
  unfold report
  split
  · rename_i span source hspan
    obtain ⟨quotation, hquote⟩ := Span.exists_quote? (h span hspan) '-' source
    rw [hquote]
    exact ⟨_, rfl⟩
  · exact ⟨_, rfl⟩

theorem Note.exists_reports {notes : List Note}
    (h : ∀ note ∈ notes, ∀ span ∈ note.span, span.start.column ≤ maxWidth)
    (source : Option (List Char)) : ∃ reports, notes.mapM (·.report source) = .ok reports := by
  induction notes with
  | nil => exact ⟨[], rfl⟩
  | cons note notes ih =>
      obtain ⟨report, hreport⟩ := note.exists_report (h note List.mem_cons_self) source
      obtain ⟨reports, hreports⟩ := ih fun other hother => h other (List.mem_cons_of_mem note hother)
      rw [List.mapM_cons, hreport, hreports]
      exact ⟨report :: reports, rfl⟩

/-- The report of an error quotes the line where the error begins right below its place, if the line is
not empty, no line up to it ends with a carriage return alone, and no place of the error or its notes
lies behind the widest padding. -/
theorem Operation.detailed_shows {text : List Char} {error : Diagnostic} {line : EndedLine}
    (h : parse text = .error error)
    (hline : (Text.endedLines text)[error.span.start.line]? = some line) (hne : line.content ≠ [])
    (hreturn : ∀ earlier ∈ (Text.endedLines text).take (error.span.start.line + 1),
      earlier.ending ≠ ['\r'])
    (hcolumn : error.span.start.column ≤ maxWidth)
    (hnotes : ∀ note ∈ error.notes, ∀ span ∈ note.span, span.start.column ≤ maxWidth) :
    ∃ quotation reports, error.span.Shows text line '^' quotation ∧
      error.notes.mapM (·.report (some text)) = .ok reports ∧
        error.detailed (some text) =
          .ok (s!"error: {error.message}\n  --> <query>:{error.place}\n" ++ quotation ++
            String.join reports) := by
  obtain ⟨quotation, hquote, hshows⟩ :=
    (sited_of_parse h).walked.1.exists_quotation hline hne hreturn hcolumn '^'
  obtain ⟨reports, hreports⟩ := Note.exists_reports hnotes (some text)
  refine ⟨quotation, reports, hshows, hreports, ?_⟩
  simp only [Diagnostic.detailed, hquote, hreports]
  rfl

/-- A string that breaks off at a line end of two characters: the error covers the line end too, and
the marks end with the line. -/
theorem Operation.detailed_shows_brokenString :
    let text := ['{', '\r', '\n', 'f', '(', 'x', ':', '"', 'é', '\r', '\n', ')', '}']
    let line : EndedLine := ⟨['f', '(', 'x', ':', '"', 'é'], ['\r', '\n']⟩
    ∃ error quotation reports, parse text = .error error ∧ error.span = ⟨⟨1, 4, 7⟩, ⟨2, 0, 12⟩⟩ ∧
      error.span.Shows text line '^' quotation ∧
        error.notes.mapM (·.report (some text)) = .ok reports ∧
          error.detailed (some text) =
            .ok (s!"error: {error.message}\n  --> <query>:{error.place}\n" ++ quotation ++
              String.join reports) := by
  intro text line
  have hparse : parse text = .error (.lexical LexicalFault.brokenString.message
      (LexicalFault.brokenString.notes ⟨1, 4, 7⟩) ⟨⟨1, 4, 7⟩, ⟨2, 0, 12⟩⟩) :=
    Diagnostic.eq_error_of_reported? (by decide +kernel)
  obtain ⟨quotation, reports, hshows⟩ :=
    detailed_shows hparse (by rfl : _ = some line) (by decide) (by decide) (by decide) (by decide)
  exact ⟨_, quotation, reports, hparse, rfl, hshows⟩

/-- Behind a carriage return alone the report of an error quotes nothing, as if there were no
document. -/
theorem Operation.detailed_afterReturn :
    let text := ['{', ' ', 'a', '\r', ' ', 'b', ':', ' ', 'c', ' ', '}']
    ∃ error report, parse text = .error error ∧
      (Text.endedLines text)[error.span.start.line]? =
          some ⟨[' ', 'b', ':', ' ', 'c', ' ', '}'], []⟩ ∧
        error.detailed (some text) = .ok report ∧ error.detailed none = .ok report := by
  intro text
  have hparse : parse text = .error (.unsupported .fieldAliases ⟨⟨1, 1, 5⟩, ⟨1, 2, 6⟩⟩) :=
    Diagnostic.eq_error_of_reported? (by decide +kernel)
  exact ⟨_, _, hparse, rfl, rfl, rfl⟩

/-- The report of an error breaks off if the error begins behind the widest padding and there is a line
to quote. -/
theorem Diagnostic.detailed_of_lt {diagnostic : Diagnostic} {text line : List Char}
    (hline : (Text.lines text)[diagnostic.span.start.line]? = some line)
    (hcolumn : maxWidth < diagnostic.span.start.column) :
    diagnostic.detailed (some text) = .error ⟨diagnostic.span.start.column⟩ := by
  simp only [detailed, Span.quote?, hline, indentTo_of_lt hcolumn]
  rfl

end CompletionGateway
