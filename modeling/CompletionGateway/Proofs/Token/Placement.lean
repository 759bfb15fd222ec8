import CompletionGateway.Proofs.Text.LineEnd
import CompletionGateway.Proofs.Token.Lookahead

/-!
# Where tokens stand

The positions at both ends of a token count the lines and columns of the text before them.  A cursor
that walks over a text counts them right wherever it stops, except between a carriage return and a
line feed; and no token begins or ends there.  A token does not begin with a line feed, and a string
that breaks off at a carriage return takes the line feed behind it.
-/

namespace CompletionGateway

/-- A cursor that walks over the text passes both ends of the span, and neither cuts a line end. -/
def Span.Walked (text : List Char) (span : Span) : Prop :=
  ∃ front covered behind, text = front ++ covered ++ behind ∧ Text.Cuts front (covered ++ behind) ∧
    Text.Cuts (front ++ covered) behind ∧ span = ⟨(Cursor.start.walk front).position,
      (Cursor.start.walk (front ++ covered)).position⟩

theorem Span.Walked.counts {text : List Char} {span : Span} (h : span.Walked text) :
    span.start.Counts text ∧ span.stop.Counts text := by
  obtain ⟨front, covered, behind, rfl, hstart, hstop, rfl⟩ := h
  refine ⟨?_, Cursor.counts_walk hstop⟩
  rw [List.append_assoc]
  exact Cursor.counts_walk hstart

namespace Lexeme

/-! ### How a lexeme ends -/

/-- A piece of text that ends with a carriage return has no line feed behind it. -/
theorem cuts_cons {c : Char} {taken rest : List Char} (hc : c ≠ '\r')
    (h : Text.Cuts taken rest) : Text.Cuts (c :: taken) rest := by
  intro hlast
  refine h ?_
  cases taken with
  | nil =>
      obtain rfl : c = '\r' := by simpa using hlast
      exact absurd rfl hc
  | cons d taken => simpa [List.getLast?_cons] using hlast

theorem cuts_scanQuoted (quote : Char) (text : List Char) :
    Text.Cuts (scanQuoted quote text).taken (scanQuoted quote text).rest := by
  fun_induction scanQuoted quote text with
  | case1 | case2 | case3 | case5 => intro hlast; simp at hlast
  | case4 rest hfeed =>
      intro _ hhead
      obtain ⟨more, rfl⟩ := List.head?_eq_some_iff.1 hhead
      exact hfeed more rfl
  | case6 c rest hc ih => exact cuts_cons (by decide) ih
  | case7 c rest hc ih => exact cuts_cons (by decide) (cuts_cons (fun h => hc (.inr h)) ih)
  | case8 rest _ _ hreturn => exact cuts_cons hreturn (by simp [Text.Cuts])
  | case9 c rest _ _ hreturn _ _ _ ih => exact cuts_cons hreturn ih

/-- A block string ends with a quote, or with the text. -/
theorem cuts_scanBlock (text : List Char) :
    Text.Cuts (scanBlock text).taken (scanBlock text).rest := by
  fun_induction scanBlock text with
  | case1 | case3 => intro hlast; simp at hlast
  | case2 rest ih =>
      exact cuts_cons (by decide) (cuts_cons (by decide) (cuts_cons (by decide)
        (cuts_cons (by decide) ih)))
  | case4 c rest hhidden hclose ih =>
      -- the string ends as the rest of it does, unless the text is over
      by_cases hempty : rest = []
      · subst hempty
        intro _
        simp [scanBlock, StringEnd.after]
      · have hne : (scanBlock rest).taken ≠ [] := by
          have hcovers := congrArg List.length (scanBlock_covers rest)
          have hshort := length_rest_scanBlock_lt hempty
          rintro hnil
          rw [hnil, List.nil_append] at hcovers
          omega
        intro hlast
        refine ih ?_
        obtain ⟨d, more, htaken⟩ := List.exists_cons_of_ne_nil hne
        simpa [StringEnd.after, htaken, List.getLast?_cons] using hlast

theorem cuts_ofStringEnd {quotes : List Char} {tail : StringEnd} (hquotes : '\r' ∉ quotes)
    (h : Text.Cuts tail.taken tail.rest) :
    Text.Cuts (ofStringEnd quotes tail).taken (ofStringEnd quotes tail).rest := by
  rw [taken_ofStringEnd, rest_ofStringEnd]
  induction quotes with
  | nil => exact h
  | cons quote quotes ih =>
      simp only [List.mem_cons, not_or] at hquotes
      exact cuts_cons (Ne.symm hquotes.1) (ih hquotes.2)

/-- A lexeme that is no string holds no carriage return. -/
theorem return_notMem_of_plain {c : Char} (rest : List Char) (hdouble : c ≠ '"')
    (hsingle : c ≠ '\'') (hc : c ≠ '\r') : '\r' ∉ (scan c rest).taken := by
  intro hmem
  obtain ⟨tail, htaken, htail⟩ := exists_taken_eq_cons c rest
  rw [htaken, List.mem_cons, or_iff_right (Ne.symm hc)] at hmem
  have hrest : '\r' ∈ rest := htail ▸ List.mem_append_left _ hmem
  obtain ⟨front, back, hsplit, hfront⟩ := List.eq_append_cons_of_mem hrest
  -- the lexeme ends before the first return, because that is trivia
  have hgap : StartsGap ('\r' :: back) := ⟨'\r', back, rfl, by decide⟩
  have hscan := scan_append_gap_of_plain hgap hdouble hsingle front
  rw [← hsplit] at hscan
  obtain ⟨tail', htaken', htail'⟩ := exists_taken_eq_cons c front
  rw [hscan, followedBy, htaken'] at htaken
  obtain rfl : tail' = tail := (List.cons.inj htaken).2
  exact hfront (htail' ▸ List.mem_append_left _ hmem)

theorem cuts_scan {c : Char} (rest : List Char) (hc : c ≠ '\r') :
    Text.Cuts (scan c rest).taken (scan c rest).rest := by
  by_cases hdouble : c = '"'
  · subst hdouble
    by_cases hblock : ∃ more, rest = ['"', '"'] ++ more
    · obtain ⟨more, rfl⟩ := hblock
      exact cuts_ofStringEnd (by decide) (cuts_scanBlock more)
    · rw [scan_double fun more heq => hblock ⟨more, heq⟩]
      exact cuts_ofStringEnd (by decide) (cuts_scanQuoted '"' rest)
  by_cases hsingle : c = '\''
  · subst hsingle
    exact cuts_ofStringEnd (by decide) (cuts_scanQuoted '\'' rest)
  · intro hlast
    exact absurd (List.mem_of_getLast? hlast) (return_notMem_of_plain rest hdouble hsingle hc)

end Lexeme

namespace Token

/-! ### Both ends of a token -/

/-- The tokens behind the text that has been passed stand at places in the whole text. -/
theorem Lexed.walked {cursor : Cursor} {text passed : List Char} {tokens : List Token}
    (h : Lexed cursor text tokens) (hcursor : cursor = Cursor.start.walk passed) :
    ∀ token ∈ tokens, token.span.Walked (passed ++ text) := by
  induction h generalizing passed with
  | @finish cursor gap hgap =>
      intro token htoken
      obtain rfl := List.mem_singleton.1 htoken
      refine ⟨passed ++ gap, [], [], by simp, by simp [Text.Cuts], by simp [Text.Cuts], ?_⟩
      rw [List.append_nil, Cursor.walk_append, ← hcursor]
      rfl
  | @lexeme cursor start stop gap rest c tokens hgap hc hstart hstop hmore ih =>
      simp only [opensTrivia, isSeparator, Bool.or_eq_false_iff, beq_eq_false_iff_ne] at hc
      have hfeed : c ≠ '\n' := hc.1.1.1.1.2
      have hreturn : c ≠ '\r' := hc.1.1.1.2
      have hlexeme : passed ++ (gap ++ c :: rest) =
          passed ++ gap ++ (Lexeme.scan c rest).taken ++ (Lexeme.scan c rest).rest := by
        rw [List.append_assoc _ (Lexeme.scan c rest).taken, Lexeme.taken_append_rest, List.append_assoc]
      have hstart' : start = Cursor.start.walk (passed ++ gap) := by
        rw [hstart, hcursor, Cursor.walk_append]
      have hstop' : stop = Cursor.start.walk (passed ++ gap ++ (Lexeme.scan c rest).taken) := by
        rw [hstop, hstart', ← Cursor.walk_append]
      intro token htoken
      -- the other tokens stand behind a longer text that has been passed
      rcases List.mem_cons.1 htoken with rfl | hmem
      · refine ⟨passed ++ gap, (Lexeme.scan c rest).taken, (Lexeme.scan c rest).rest, hlexeme, ?_, ?_,
          by rw [← hstart', ← hstop']⟩
        · rw [Lexeme.taken_append_rest]
          exact fun _ => by simpa using hfeed
        · refine fun hlast => Lexeme.cuts_scan rest hreturn ?_
          rwa [List.getLast?_append_of_ne_nil _ (Lexeme.taken_scan_ne_nil c rest)] at hlast
      · rw [hlexeme]
        exact ih hstop' token hmem

/-- The tokens behind the text that has been passed begin and end at places in the whole text. -/
theorem Lexed.counts {cursor : Cursor} {text passed : List Char} {tokens : List Token}
    (h : Lexed cursor text tokens) (hcursor : cursor = Cursor.start.walk passed) :
    ∀ token ∈ tokens, token.span.start.Counts (passed ++ text) ∧
      token.span.stop.Counts (passed ++ text) :=
  fun token htoken => (h.walked hcursor token htoken).counts

theorem walked_of_mem {text : List Char} {token : Token} (h : token ∈ list text) :
    token.span.Walked text :=
  have hwalked : ∀ token ∈ list text, token.span.Walked ([] ++ text) := (lexed_list text).walked rfl
  hwalked token h

/-- The positions at both ends of every token are those of their offsets in the text. -/
theorem list_positions {text : List Char} {token : Token} (h : token ∈ list text) :
    token.span.start.Counts text ∧ token.span.stop.Counts text :=
  have hcounts : ∀ token ∈ list text, token.span.start.Counts ([] ++ text) ∧
      token.span.stop.Counts ([] ++ text) := (lexed_list text).counts rfl
  hcounts token h

/-- A block string over two lines, behind a string that breaks off at a line end of two characters
and a comment that a carriage return ends. -/
theorem list_positions_block :
    let text := ['\'', 'é', '\r', '\n', '#', '\r', '"', '"', '"', 'x', '\n', 'y', '"', '"', '"']
    let token : Token := ⟨.string "\"\"\"x\ny\"\"\"", ⟨2, 0, 7⟩, ⟨3, 4, 16⟩⟩
    token ∈ list text ∧ token.span.start.Counts text ∧ token.span.stop.Counts text := by
  intro text token
  have hmem : token ∈ list text := by decide +kernel
  exact ⟨hmem, list_positions hmem⟩

end Token

end CompletionGateway
