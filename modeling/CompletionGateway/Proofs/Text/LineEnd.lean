import CompletionGateway.Proofs.Text.Offset

/-!
# Line ends

The line ends of a text are listed by the offsets right behind them.  A position counts a text if
its line is the number of line ends up to its offset and its column the number of characters from
the last of them on.  A cursor counts lines and columns character by character; what it knows of the
text behind it is one flag, and each step keeps its counts right.
-/

namespace CompletionGateway

/-- The offsets right behind the line ends of a text whose first character is at `start`.  A line
feed right behind a carriage return belongs to the same line end. -/
def Text.lineEnds (start : Nat) : List Char → List Nat
  | [] => []
  | '\r' :: '\n' :: rest => (start + 2) :: lineEnds (start + 2) rest
  | c :: rest =>
      if c = '\n' ∨ c = '\r' then (start + 1) :: lineEnds (start + 1) rest
      else lineEnds (start + c.utf8Size) rest

/-- The line ends that are wholly before an offset. -/
def Text.lineEndsUpTo (text : List Char) (offset : Nat) : List Nat :=
  (lineEnds 0 text).filter (· ≤ offset)

/-- The line and the column are those of the place with this offset. -/
structure Position.Counts (text : List Char) (place : Position) : Prop where
  line : place.line = (Text.lineEndsUpTo text place.offset).length
  column : ∃ piece, Text.slice text ((Text.lineEndsUpTo text place.offset).getLast?.getD 0)
    place.offset = some piece ∧ place.column = piece.length

namespace Text

/-- Whether a text can be cut between two parts without parting a carriage return from a line
feed. -/
def Cuts (front back : List Char) : Prop :=
  front.getLast? = some '\r' → back.head? ≠ some '\n'

section Cuts

variable {c : Char} {rest back : List Char} (h : Cuts (c :: rest) back)

include h

theorem Cuts.tail : Cuts rest back := fun hlast => h (by simp [List.getLast?_cons, hlast])

theorem Cuts.first (hpair : ∀ more, c = '\r' → rest = '\n' :: more → False) :
    Cuts [c] (rest ++ back) := by
  intro hlast hhead
  cases rest with
  | nil => exact h hlast hhead
  | cons d more =>
      obtain rfl : d = '\n' := by simpa using hhead
      exact hpair more (by simpa using hlast) rfl

end Cuts

theorem lineEnds_cons {c : Char} {rest : List Char} (start : Nat) (h : Cuts [c] rest) :
    lineEnds start (c :: rest) =
      if c = '\n' ∨ c = '\r' then (start + 1) :: lineEnds (start + 1) rest
      else lineEnds (start + c.utf8Size) rest := by
  refine lineEnds.eq_3 start c rest fun more hc hrest => h ?_ ?_
  · rw [hc, List.getLast?_singleton]
  · rw [hrest, List.head?_cons]

theorem utf8Size_of_isLineEnd {c : Char} (h : c = '\n' ∨ c = '\r') : c.utf8Size = 1 := by
  rcases h with rfl | rfl <;> rfl

theorem byteLength_pair (rest : List Char) :
    byteLength ('\r' :: '\n' :: rest) = 2 + byteLength rest := by
  simp only [byteLength_cons, utf8Size_of_isLineEnd (.inl rfl), utf8Size_of_isLineEnd (.inr rfl)]
  omega

/-- The line ends of two parts, if the cut between them parts no line end. -/
theorem lineEnds_append {front back : List Char} (start : Nat) (h : Cuts front back) :
    lineEnds start (front ++ back) =
      lineEnds start front ++ lineEnds (start + byteLength front) back := by
  fun_induction lineEnds start front with
  | case1 => simp
  | case2 start rest ih =>
      rw [List.cons_append, List.cons_append, lineEnds, ih h.tail.tail, byteLength_pair,
        ← Nat.add_assoc, List.cons_append]
  | case3 start c rest hpair hc ih =>
      rw [List.cons_append, lineEnds_cons start (h.first hpair), if_pos hc, ih h.tail,
        byteLength_cons, utf8Size_of_isLineEnd hc, ← Nat.add_assoc, List.cons_append]
  | case4 start c rest hpair hc ih =>
      rw [List.cons_append, lineEnds_cons start (h.first hpair), if_neg hc, ih h.tail,
        byteLength_cons, ← Nat.add_assoc]

theorem lineEnds_concat {front : List Char} {c : Char} (h : Cuts front [c]) :
    lineEnds 0 (front ++ [c]) =
      lineEnds 0 front ++ if c = '\n' ∨ c = '\r' then [byteLength front + 1] else [] := by
  rw [lineEnds_append 0 h, lineEnds_cons _ (fun _ => by simp), Nat.zero_add]
  rfl

theorem lineEnds_concat_pair (front : List Char) :
    lineEnds 0 (front ++ ['\r', '\n']) = lineEnds 0 front ++ [byteLength front + 2] := by
  rw [lineEnds_append 0 fun _ => by simp, Nat.zero_add]
  rfl

/-- A line end lies within its text. -/
theorem lineEnds_bounds {start offset : Nat} {text : List Char}
    (h : offset ∈ lineEnds start text) : start < offset ∧ offset ≤ start + byteLength text := by
  fun_induction lineEnds start text with
  | case1 => cases h
  | case2 start rest ih =>
      rw [byteLength_pair]
      rcases List.mem_cons.1 h with rfl | hmem
      · omega
      · have hbounds := ih hmem
        omega
  | case3 start c rest hpair hc ih =>
      rw [byteLength_cons, utf8Size_of_isLineEnd hc]
      rcases List.mem_cons.1 h with rfl | hmem
      · omega
      · have hbounds := ih hmem
        omega
  | case4 start c rest hpair hc ih =>
      have hbounds := ih h
      rw [byteLength_cons]
      omega

/-- Up to a cut that parts no line end a text has the line ends of its front. -/
theorem lineEndsUpTo_append {front back : List Char} (h : Cuts front back) :
    lineEndsUpTo (front ++ back) (byteLength front) = lineEnds 0 front := by
  -- the line ends of the front lie within it, those of the back behind it
  have hfront : (lineEnds 0 front).filter (· ≤ byteLength front) = lineEnds 0 front := by
    refine List.filter_eq_self.2 fun offset hoffset => decide_eq_true ?_
    have hbounds := lineEnds_bounds hoffset
    omega
  have hback : (lineEnds (0 + byteLength front) back).filter (· ≤ byteLength front) = [] := by
    refine List.filter_eq_nil_iff.2 fun offset hoffset => ?_
    have hbounds := lineEnds_bounds hoffset
    rw [decide_eq_true_eq]
    omega
  rw [lineEndsUpTo, lineEnds_append 0 h, List.filter_append, hfront, hback, List.append_nil]

end Text

namespace Cursor

theorem step_of_plain (cursor : Cursor) {c : Char} (hc : ¬ (c = '\n' ∨ c = '\r')) :
    cursor.step c = ⟨⟨cursor.position.line, cursor.position.column + 1,
      cursor.position.offset + c.utf8Size⟩, false⟩ := by
  rw [not_or] at hc
  rw [step, if_neg hc.1, if_neg hc.2]

theorem step_of_lineEnd {cursor : Cursor} {c : Char} (hc : c = '\n' ∨ c = '\r')
    (hreturn : cursor.afterReturn = true → c ≠ '\n') :
    cursor.step c = ⟨⟨cursor.position.line + 1, 0, cursor.position.offset + c.utf8Size⟩,
      c == '\r'⟩ := by
  rcases hc with rfl | rfl
  · have hfalse : cursor.afterReturn = false := by simpa using hreturn
    simp [step, hfalse]
  · simp [step]

/-- The cursor has counted the lines and columns of what it has walked over. -/
structure HasCounted (passed : List Char) (cursor : Cursor) : Prop where
  offset : cursor.position.offset = Text.byteLength passed
  line : cursor.position.line = (Text.lineEnds 0 passed).length
  column : ∃ front piece, passed = front ++ piece ∧
    Text.byteLength front = (Text.lineEnds 0 passed).getLast?.getD 0 ∧
      cursor.position.column = piece.length
  afterReturn : cursor.afterReturn = true ↔ passed.getLast? = some '\r'

theorem hasCounted_start : HasCounted [] start where
  offset := rfl
  line := rfl
  column := ⟨[], [], rfl, rfl, rfl⟩
  afterReturn := by simp [start]

section Step

variable {passed : List Char} {cursor : Cursor} (h : cursor.HasCounted passed)

include h

theorem HasCounted.cuts {c : Char} (hpair : ¬ (c = '\n' ∧ cursor.afterReturn = true)) :
    Text.Cuts passed [c] := by
  intro hlast hhead
  exact hpair ⟨by simpa using hhead, h.afterReturn.2 hlast⟩

/-- A line feed behind a carriage return moves the last line end by one. -/
theorem HasCounted.step_pair (hreturn : cursor.afterReturn = true) :
    (cursor.step '\n').HasCounted (passed ++ ['\n']) := by
  obtain ⟨front, rfl⟩ := List.getLast?_eq_some_iff.1 (h.afterReturn.1 hreturn)
  have hends : Text.lineEnds 0 (front ++ ['\r']) =
      Text.lineEnds 0 front ++ [Text.byteLength front + 1] :=
    Text.lineEnds_concat fun _ => by simp
  have hends' : Text.lineEnds 0 (front ++ ['\r'] ++ ['\n']) =
      Text.lineEnds 0 front ++ [Text.byteLength front + 2] := by
    rw [List.append_assoc]
    exact Text.lineEnds_concat_pair front
  have hstep : cursor.step '\n' =
      ⟨{ cursor.position with offset := cursor.position.offset + 1 }, false⟩ := by
    simp only [Cursor.step, if_true, hreturn]
    rfl
  obtain ⟨before, piece, hpassed, hbefore, hcolumn⟩ := h.column
  have hreturnSize : Text.byteLength ['\r'] = 1 := rfl
  have hfeedSize : Text.byteLength ['\n'] = 1 := rfl
  -- nothing stands behind the return yet
  have hpiece : piece = [] := by
    have hlength := congrArg Text.byteLength hpassed
    rw [Text.byteLength_append, Text.byteLength_append, hbefore, hends, List.getLast?_concat,
      Option.getD_some, hreturnSize] at hlength
    exact Text.byteLength_eq_zero.1 (by omega)
  have hline := h.line
  rw [hends, List.length_append] at hline
  rw [hstep]
  refine ⟨?_, ?_, ⟨front ++ ['\r'] ++ ['\n'], [], by simp, ?_, ?_⟩, by simp⟩
  · rw [Text.byteLength_append, hfeedSize]
    exact congrArg (· + 1) h.offset
  · rw [hends', List.length_append]
    exact hline
  · rw [hends', List.getLast?_concat, Text.byteLength_append, Text.byteLength_append]
    rfl
  · rw [hpiece] at hcolumn
    exact hcolumn

/-- A line end that does not belong to one before it. -/
theorem HasCounted.step_lineEnd {c : Char} (hc : c = '\n' ∨ c = '\r')
    (hpair : ¬ (c = '\n' ∧ cursor.afterReturn = true)) :
    (cursor.step c).HasCounted (passed ++ [c]) := by
  have hends := Text.lineEnds_concat (h.cuts hpair)
  rw [if_pos hc] at hends
  have hsize := Text.utf8Size_of_isLineEnd hc
  rw [step_of_lineEnd hc fun hafter hfeed => hpair ⟨hfeed, hafter⟩, hsize]
  refine ⟨?_, ?_, ⟨passed ++ [c], [], by simp, ?_, rfl⟩, ?_⟩
  · rw [Text.byteLength_append, Text.byteLength_cons, hsize, h.offset]
    rfl
  · rw [hends, List.length_append, h.line]
    rfl
  · rw [hends, List.getLast?_concat, Text.byteLength_append, Text.byteLength_cons, hsize]
    rfl
  · rw [List.getLast?_concat, beq_iff_eq, Option.some.injEq]

/-- Any other character. -/
theorem HasCounted.step_plain {c : Char} (hc : ¬ (c = '\n' ∨ c = '\r')) :
    (cursor.step c).HasCounted (passed ++ [c]) := by
  have hends := Text.lineEnds_concat (h.cuts (c := c) fun hpair => hc (.inl hpair.1))
  rw [if_neg hc, List.append_nil] at hends
  obtain ⟨before, piece, hpassed, hbefore, hcolumn⟩ := h.column
  rw [step_of_plain cursor hc]
  -- the last line end stays, and the piece behind it gets longer
  refine ⟨?_, by rw [hends, h.line], ⟨before, piece ++ [c], ?_, by rw [hends, hbefore], ?_⟩, ?_⟩
  · rw [Text.byteLength_append, Text.byteLength_cons, h.offset]
    rfl
  · rw [hpassed, List.append_assoc]
  · rw [List.length_append, hcolumn]
    rfl
  · rw [not_or] at hc
    simp [hc.2]

/-- One more character is counted. -/
theorem HasCounted.step (c : Char) : (cursor.step c).HasCounted (passed ++ [c]) := by
  by_cases hpair : c = '\n' ∧ cursor.afterReturn = true
  · obtain ⟨rfl, hreturn⟩ := hpair
    exact h.step_pair hreturn
  by_cases hc : c = '\n' ∨ c = '\r'
  · exact h.step_lineEnd hc hpair
  · exact h.step_plain hc

end Step

theorem hasCounted_walk (text : List Char) : (start.walk text).HasCounted text := by
  -- for the induction the walk begins anywhere in a text
  suffices hmore : ∀ (passed : List Char) (cursor : Cursor), cursor.HasCounted passed →
      (cursor.walk text).HasCounted (passed ++ text) from hmore [] start hasCounted_start
  induction text with
  | nil =>
      intro passed cursor h
      rwa [List.append_nil]
  | cons c text ih =>
      intro passed cursor h
      have hmore := ih _ _ (h.step c)
      rwa [List.append_assoc] at hmore

/-- Where no line end is cut through, the cursor stands at its place in the whole text. -/
theorem counts_walk {front back : List Char} (h : Text.Cuts front back) :
    (start.walk front).position.Counts (front ++ back) := by
  obtain ⟨hoffset, hline, ⟨before, piece, hfront, hbefore, hcolumn⟩, -⟩ := hasCounted_walk front
  have hends : Text.lineEndsUpTo (front ++ back) (start.walk front).position.offset =
      Text.lineEnds 0 front := by rw [hoffset, Text.lineEndsUpTo_append h]
  refine ⟨by rw [hends, hline], piece, ?_, hcolumn⟩
  rw [hends, ← hbefore, hoffset, hfront, Text.byteLength_append]
  exact Text.slice_append before piece back

end Cursor

end CompletionGateway
