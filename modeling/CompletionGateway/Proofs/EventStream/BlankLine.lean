import CompletionGateway.Proofs.EventStream.Chunking
import CompletionGateway.Proofs.EventStream.FrameLines
import Mathlib.Data.List.Chain

/-!
# Where a frame is cut off

Read from the left, a buffer is made of bytes that belong to lines and of line breaks, where a
return and the feed behind it are one break.  A break right behind another one is a blank line.  A
frame ends behind the first blank line, and as long as there is none, nothing is cut off.  The one
break that does not count is a return that is the last byte so far: a feed may still follow it.
-/

namespace CompletionGateway.EventStream

/-- What a buffer is made of. -/
inductive Piece where
  /-- A byte of a line. -/
  | byte (b : UInt8)
  | lineBreak (mark : List UInt8)

namespace Piece

/-- The bytes of a piece. -/
def bytes : Piece → List UInt8
  | byte b => [b]
  | lineBreak mark => mark

/-- Whether the piece is a line break. -/
def isBreak : Piece → Bool
  | byte _ => false
  | lineBreak _ => true

end Piece

/-- The pieces of a buffer, read from the left. -/
def pieces : List UInt8 → List Piece
  | [] => []
  | b :: rest =>
      if b = lineFeed then .lineBreak [b] :: pieces rest
      else if b = carriageReturn then
        match rest with
        | [] => [.lineBreak [b]]
        | c :: more =>
            if c = lineFeed then .lineBreak [b, c] :: pieces more
            else .lineBreak [b] :: pieces (c :: more)
      else .byte b :: pieces rest

/-- No line break stands right behind another one. -/
def NoBlankLine (parts : List Piece) : Prop :=
  parts.IsChain fun first second => ¬ (first.isBreak = true ∧ second.isBreak = true)

/-- The frame ends behind the first line break of the buffer that stands right behind another one. -/
def EndsAtBlankLine (buffer frame rest : List UInt8) : Prop :=
  ∃ before mark blank behind,
    pieces buffer = before ++ .lineBreak mark :: .lineBreak blank :: behind ∧
      NoBlankLine (before ++ [.lineBreak mark]) ∧
        frame = (before ++ [.lineBreak mark, .lineBreak blank]).flatMap Piece.bytes ∧
          rest = behind.flatMap Piece.bytes

/-- No line break of the buffer stands right behind another one, unless it is a return that is the
last byte. -/
def AwaitsBlankLine (buffer : List UInt8) : Prop :=
  NoBlankLine (pieces buffer) ∨
    ∃ front, pieces buffer = front ++ [.lineBreak [carriageReturn]] ∧ NoBlankLine front

/-! ### The first piece of a buffer -/

theorem flatMap_pieces (buffer : List UInt8) : (pieces buffer).flatMap Piece.bytes = buffer := by
  fun_induction pieces buffer <;> simp_all [Piece.bytes]

/-- Pieces by what stands at the front of the buffer. -/
theorem pieces_cons (b : UInt8) (rest : List UInt8) :
    pieces (b :: rest) =
      match lineEnd (b :: rest) with
      | .absent => .byte b :: pieces rest
      | .undecided => [.lineBreak [b]]
      | .present mark next => .lineBreak mark :: pieces next := by
  rw [pieces.eq_def, lineEnd.eq_def]
  simp only
  split
  · rfl
  · split
    · cases rest with
      | nil => rfl
      | cons c more =>
          simp only
          split <;> rfl
    · rfl

theorem pieces_of_absent {b : UInt8} {rest : List UInt8} (h : lineEnd (b :: rest) = .absent) :
    pieces (b :: rest) = .byte b :: pieces rest := by
  rw [pieces_cons, h]

theorem pieces_of_present {bytes mark next : List UInt8} (h : lineEnd bytes = .present mark next) :
    pieces bytes = .lineBreak mark :: pieces next := by
  cases bytes with
  | nil => simp [lineEnd] at h
  | cons b rest => rw [pieces_cons, h]

theorem pieces_of_undecided {bytes : List UInt8} (h : lineEnd bytes = .undecided) :
    pieces bytes = [.lineBreak [carriageReturn]] := by
  rw [lineEnd_undecided h]
  rfl

/-- Where no line ends, no line break stands at the front. -/
theorem isBreak_head?_pieces {bytes : List UInt8} (h : lineEnd bytes = .absent) :
    ∀ piece ∈ (pieces bytes).head?, piece.isBreak = false := by
  cases bytes with
  | nil => simp [pieces]
  | cons b rest =>
      rw [pieces_of_absent h]
      simp [Piece.isBreak]

/-- One more piece in front, which makes no blank line with the next one. -/
theorem NoBlankLine.cons {piece : Piece} {parts : List Piece} (h : NoBlankLine parts)
    (hfirst : piece.isBreak = false ∨ ∀ next ∈ parts.head?, next.isBreak = false) :
    NoBlankLine (piece :: parts) := by
  refine List.isChain_cons.2 ⟨fun next hnext hbreaks => ?_, h⟩
  rcases hfirst with hpiece | hparts
  · simp [hpiece] at hbreaks
  · simp [hparts next hnext] at hbreaks

/-! ### One more piece in front of a buffer -/

section Front

variable {buffer buffer' : List UInt8} {piece : Piece}
variable (hpieces : pieces buffer' = piece :: pieces buffer)
variable (hfirst : piece.isBreak = false ∨ ∀ next ∈ (pieces buffer).head?, next.isBreak = false)

include hpieces hfirst

theorem EndsAtBlankLine.cons {frame rest : List UInt8} (h : EndsAtBlankLine buffer frame rest) :
    EndsAtBlankLine buffer' (piece.bytes ++ frame) rest := by
  obtain ⟨before, mark, blank, behind, hsplit, hnone, rfl, rfl⟩ := h
  refine ⟨piece :: before, mark, blank, behind, by rw [hpieces, hsplit]; rfl, ?_, by simp, rfl⟩
  refine NoBlankLine.cons hnone (hfirst.imp_right fun hhead next hnext => hhead next ?_)
  rw [hsplit]
  cases before <;> simpa using hnext

theorem AwaitsBlankLine.cons (h : AwaitsBlankLine buffer) : AwaitsBlankLine buffer' := by
  rcases h with hnone | ⟨front, hsplit, hnone⟩
  · exact .inl (hpieces ▸ hnone.cons hfirst)
  · refine .inr ⟨piece :: front, by rw [hpieces, hsplit]; rfl, hnone.cons ?_⟩
    refine hfirst.imp_right fun hhead next hnext => hhead next ?_
    rw [hsplit, List.head?_append, Option.mem_def.1 hnext]
    rfl

end Front

/-! ### Cutting off a frame -/

/-- A frame that is cut off ends behind the first blank line. -/
theorem endsAtBlankLine_of_takeFrame? {buffer frame rest : List UInt8}
    (h : takeFrame? buffer = some (frame, rest)) : EndsAtBlankLine buffer frame rest := by
  fun_induction takeFrame? buffer generalizing frame rest with
  | case1 => simp at h
  | case2 b bytes hline ih =>
      obtain ⟨⟨front, back⟩, htake, heq⟩ := Option.map_eq_some_iff.1 h
      cases heq
      exact (ih htake).cons (pieces_of_absent hline) (.inl rfl)
  | case3 => simp at h
  | case4 b bytes mark next hmark blank rest' hblank =>
      cases h
      refine ⟨[], mark, blank, pieces rest', ?_, List.isChain_singleton _, ?_, ?_⟩
      · rw [pieces_of_present hmark, pieces_of_present hblank]
        rfl
      · simp [Piece.bytes]
      · exact (flatMap_pieces rest').symm
  | case5 => simp at h
  | case6 b bytes mark next hmark hnext ih =>
      obtain ⟨⟨front, back⟩, htake, heq⟩ := Option.map_eq_some_iff.1 h
      cases heq
      exact (ih htake).cons (pieces_of_present hmark) (.inr (isBreak_head?_pieces hnext))

/-- Where nothing is cut off, there is no blank line yet. -/
theorem awaitsBlankLine_of_takeFrame? {buffer : List UInt8} (h : takeFrame? buffer = none) :
    AwaitsBlankLine buffer := by
  fun_induction takeFrame? buffer with
  | case1 => exact .inl List.isChain_nil
  | case2 b bytes hline ih =>
      exact (ih (by simpa using h)).cons (pieces_of_absent hline) (.inl rfl)
  | case3 b bytes hline =>
      rw [AwaitsBlankLine, pieces_of_undecided hline]
      exact .inl (List.isChain_singleton _)
  | case4 => simp at h
  | case5 b bytes mark next hmark hnext =>
      refine .inr ⟨[.lineBreak mark], ?_, List.isChain_singleton _⟩
      rw [pieces_of_present hmark, pieces_of_undecided hnext]
      rfl
  | case6 b bytes mark next hmark hnext ih =>
      exact (ih (by simpa using h)).cons (pieces_of_present hmark)
        (.inr (isBreak_head?_pieces hnext))

/-- Whether a frame is cut off a buffer, and where: behind the first blank line, whatever bytes
follow later.  No byte is lost, and a buffer that holds no blank line stays as it is. -/
theorem takeFrame?_cuts (buffer : List UInt8) :
    match takeFrame? buffer with
    | some (frame, rest) => buffer = frame ++ rest ∧ frame ≠ [] ∧
        EndsAtBlankLine buffer frame rest ∧
          ∀ more, takeFrame? (buffer ++ more) = some (frame, rest ++ more)
    | none => takeFrames buffer = ([], buffer) ∧ AwaitsBlankLine buffer := by
  split
  · rename_i frame rest htake
    obtain ⟨hsplit, hne⟩ := takeFrame?_eq_some htake
    exact ⟨hsplit, hne, endsAtBlankLine_of_takeFrame? htake, fun more => takeFrame?_append more htake⟩
  · rename_i htake
    exact ⟨takeFrames_of_none htake, awaitsBlankLine_of_takeFrame? htake⟩

/-- The return behind a feed is the last byte, so it may be half of a longer break. -/
example : takeFrame? [97, 10, 13] = none ∧ takeFrame? [97, 10, 13, 10] = some ([97, 10, 13, 10], []) := by
  decide +kernel

end CompletionGateway.EventStream
