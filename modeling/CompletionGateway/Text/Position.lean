import CompletionGateway.Text.Slice

/-!
# Positions in a text

A position counts line breaks, the characters since the last one, and the bytes of the UTF-8
encoding before it.  A cursor walks over characters one at a time; it also remembers whether it has
just passed a carriage return, because a line feed right after one belongs to the same line break.
Over text that stays in its line a cursor may also skip, which comes to the same.
-/

namespace CompletionGateway

/-- A place in a text.  All three counts start at zero. -/
structure Position where
  line : Nat
  column : Nat
  offset : Nat
deriving DecidableEq

/-- The beginning of every text. -/
def Position.origin : Position := ⟨0, 0, 0⟩

/-- The half-open stretch of text from `start` up to `stop`. -/
structure Span where
  start : Position
  stop : Position
deriving DecidableEq

/-- The empty stretch at one place. -/
def Span.emptyAt (place : Position) : Span := ⟨place, place⟩

/-- A place together with the one bit of history that line counting needs. -/
structure Cursor where
  position : Position
  afterReturn : Bool
deriving DecidableEq

namespace Cursor

/-- The cursor before the first character. -/
def start : Cursor := ⟨Position.origin, false⟩

/-- Passes one character.  `\n`, `\r` and `\r\n` each end one line. -/
def step (cursor : Cursor) (c : Char) : Cursor :=
  let place := cursor.position
  let offset := place.offset + c.utf8Size
  if c = '\n' then
    if cursor.afterReturn then ⟨{ place with offset }, false⟩
    else ⟨⟨place.line + 1, 0, offset⟩, false⟩
  else if c = '\r' then ⟨⟨place.line + 1, 0, offset⟩, true⟩
  else ⟨⟨place.line, place.column + 1, offset⟩, false⟩

/-- Passes every character of `text`. -/
def walk (cursor : Cursor) (text : List Char) : Cursor :=
  text.foldl step cursor

@[simp]
theorem walk_nil (cursor : Cursor) : cursor.walk [] = cursor := rfl

@[simp]
theorem walk_cons (cursor : Cursor) (c : Char) (text : List Char) :
    cursor.walk (c :: text) = (cursor.step c).walk text := rfl

theorem walk_append (cursor : Cursor) (front back : List Char) :
    cursor.walk (front ++ back) = (cursor.walk front).walk back := by
  simp [walk, List.foldl_append]

/-- Passes a piece of text at once.  Nothing but its characters and its bytes is counted, so it must
not leave its line. -/
def skip (cursor : Cursor) (piece : List Char) : Cursor :=
  let place := cursor.position
  ⟨⟨place.line, place.column + piece.length, place.offset + Text.byteLength piece⟩, false⟩

theorem step_of_inLine (cursor : Cursor) {c : Char} (hc : c ≠ '\n' ∧ c ≠ '\r') :
    cursor.step c = cursor.skip [c] := by
  simp [step, skip, hc.1, hc.2, Text.byteLength]

theorem skip_append (cursor : Cursor) (front back : List Char) :
    cursor.skip (front ++ back) = (cursor.skip front).skip back := by
  simp [skip, Text.byteLength_append, Nat.add_assoc]

/-- Skipping text that stays in its line is walking over it.  Skipping nothing forgets a carriage
return. -/
theorem skip_eq_walk {cursor : Cursor} {piece : List Char}
    (hpiece : ∀ c ∈ piece, c ≠ '\n' ∧ c ≠ '\r') (hnil : piece = [] → cursor.afterReturn = false) :
    cursor.skip piece = cursor.walk piece := by
  induction piece generalizing cursor with
  | nil =>
      rw [walk_nil, skip, ← hnil rfl]
      rfl
  | cons c piece ih =>
      rw [walk_cons, step_of_inLine cursor (hpiece c List.mem_cons_self), ← List.singleton_append,
        skip_append]
      exact ih (fun d hd => hpiece d (List.mem_cons_of_mem c hd)) fun _ => rfl

end Cursor

end CompletionGateway
