/-!
# Cutting a text at byte offsets

Offsets count the bytes of the UTF-8 encoding, so an offset may fall inside a character.  Every cut
here answers `none` in that case, and also when the offset lies beyond the end.
-/

namespace CompletionGateway.Text

/-- The number of bytes in the UTF-8 encoding of `text`. -/
def byteLength : List Char → Nat
  | [] => 0
  | c :: rest => c.utf8Size + byteLength rest

@[simp]
theorem byteLength_nil : byteLength [] = 0 := rfl

@[simp]
theorem byteLength_cons (c : Char) (text : List Char) :
    byteLength (c :: text) = c.utf8Size + byteLength text := rfl

@[simp]
theorem byteLength_append (front back : List Char) :
    byteLength (front ++ back) = byteLength front + byteLength back := by
  induction front with
  | nil => simp
  | cons c front ih => simp [ih, Nat.add_assoc]

/-- What follows the first `count` bytes. -/
def dropBytes (count : Nat) : List Char → Option (List Char)
  | [] => if count = 0 then some [] else none
  | c :: rest =>
      if count = 0 then some (c :: rest)
      else if c.utf8Size ≤ count then dropBytes (count - c.utf8Size) rest
      else none

/-- The first `count` bytes. -/
def takeBytes (count : Nat) : List Char → Option (List Char)
  | [] => if count = 0 then some [] else none
  | c :: rest =>
      if count = 0 then some []
      else if c.utf8Size ≤ count then (takeBytes (count - c.utf8Size) rest).map (c :: ·)
      else none

/-- The characters between two byte offsets. -/
def slice (text : List Char) (start stop : Nat) : Option (List Char) :=
  if start ≤ stop then (dropBytes start text).bind (takeBytes (stop - start)) else none

@[simp]
theorem dropBytes_zero (text : List Char) : dropBytes 0 text = some text := by
  cases text <;> simp [dropBytes]

@[simp]
theorem takeBytes_zero (text : List Char) : takeBytes 0 text = some [] := by
  cases text <;> simp [takeBytes]

theorem dropBytes_byteLength_append (front back : List Char) :
    dropBytes (byteLength front) (front ++ back) = some back := by
  induction front with
  | nil => simp [byteLength]
  | cons c front ih =>
      have hpos : 0 < c.utf8Size := c.utf8Size_pos
      have hne : byteLength (c :: front) ≠ 0 := by simp [byteLength]; omega
      have hsub : byteLength (c :: front) - c.utf8Size = byteLength front := by
        simp [byteLength]
      have hle : c.utf8Size ≤ byteLength (c :: front) := by simp [byteLength]
      simp only [List.cons_append, dropBytes, if_neg hne, if_pos hle, hsub, ih]

theorem takeBytes_byteLength_append (front back : List Char) :
    takeBytes (byteLength front) (front ++ back) = some front := by
  induction front with
  | nil => simp [byteLength]
  | cons c front ih =>
      have hpos : 0 < c.utf8Size := c.utf8Size_pos
      have hne : byteLength (c :: front) ≠ 0 := by simp [byteLength]; omega
      have hsub : byteLength (c :: front) - c.utf8Size = byteLength front := by
        simp [byteLength]
      have hle : c.utf8Size ≤ byteLength (c :: front) := by simp [byteLength]
      simp only [List.cons_append, takeBytes, if_neg hne, if_pos hle, hsub, ih, Option.map_some]

end CompletionGateway.Text
