import CompletionGateway.Text.Position

/-!
# Offsets

The offset of a cursor counts the bytes that it has walked over, so the offsets at both ends of a
piece of text are the places where the piece can be cut out again.
-/

namespace CompletionGateway

namespace Text

theorem byteLength_eq_zero {text : List Char} : byteLength text = 0 ↔ text = [] := by
  cases text with
  | nil => simp
  | cons c text =>
      have hpos : 0 < c.utf8Size := c.utf8Size_pos
      simp
      omega

/-- A piece of a text is cut out again between the offsets of its ends. -/
theorem slice_append (front middle back : List Char) :
    slice (front ++ middle ++ back) (byteLength front) (byteLength front + byteLength middle) =
      some middle := by
  rw [slice, if_pos (Nat.le_add_right _ _), List.append_assoc, dropBytes_byteLength_append,
    Nat.add_sub_cancel_left]
  exact takeBytes_byteLength_append middle back

theorem exists_of_dropBytes {count : Nat} {text back : List Char}
    (h : dropBytes count text = some back) :
    ∃ front, text = front ++ back ∧ byteLength front = count := by
  fun_induction dropBytes count text with
  | case1 | case3 =>
      obtain rfl := Option.some.inj h
      exact ⟨[], rfl, rfl⟩
  | case2 | case5 => cases h
  | case4 count c rest _ hle ih =>
      obtain ⟨front, rfl, hfront⟩ := ih h
      exact ⟨c :: front, rfl, by rw [byteLength_cons]; omega⟩

theorem exists_of_takeBytes {count : Nat} {text front : List Char}
    (h : takeBytes count text = some front) :
    ∃ back, text = front ++ back ∧ byteLength front = count := by
  fun_induction takeBytes count text generalizing front with
  | case1 | case3 =>
      obtain rfl := Option.some.inj h
      exact ⟨_, rfl, rfl⟩
  | case2 | case5 => cases h
  | case4 count c rest _ hle ih =>
      obtain ⟨more, hmore, rfl⟩ := Option.map_eq_some_iff.1 h
      obtain ⟨back, rfl, hlength⟩ := ih hmore
      exact ⟨back, rfl, by rw [byteLength_cons]; omega⟩

/-- A piece that is cut out of a text stands there. -/
theorem exists_of_slice {text piece : List Char} {start stop : Nat}
    (h : slice text start stop = some piece) : ∃ front back, text = front ++ piece ++ back ∧
      byteLength front = start ∧ stop = start + byteLength piece := by
  unfold slice at h
  split at h
  · obtain ⟨rest, hrest, hpiece⟩ := Option.bind_eq_some_iff.1 h
    obtain ⟨front, rfl, hfront⟩ := exists_of_dropBytes hrest
    obtain ⟨back, rfl, hlength⟩ := exists_of_takeBytes hpiece
    exact ⟨front, back, by rw [List.append_assoc], hfront, by omega⟩
  · cases h

theorem dropBytes_of_slice {text piece : List Char} {start stop : Nat}
    (h : slice text start stop = some piece) :
    ∃ back, dropBytes start text = some (piece ++ back) := by
  obtain ⟨front, back, rfl, rfl, -⟩ := exists_of_slice h
  exact ⟨back, by rw [List.append_assoc, dropBytes_byteLength_append]⟩

/-- Two ways to split a text at the same number of bytes are one. -/
theorem append_inj_of_byteLength {front front' back back' : List Char}
    (h : front ++ back = front' ++ back') (hlength : byteLength front = byteLength front') :
    front = front' ∧ back = back' := by
  have hdrop := dropBytes_byteLength_append front back
  rw [h, hlength, dropBytes_byteLength_append] at hdrop
  obtain rfl := Option.some.inj hdrop
  exact ⟨List.append_cancel_right h, rfl⟩

/-- Two pieces that touch are cut out as one. -/
theorem slice_append_slice {text first second : List Char} {start middle stop : Nat}
    (h : slice text start middle = some first) (h' : slice text middle stop = some second) :
    slice text start stop = some (first ++ second) := by
  obtain ⟨front, back, rfl, rfl, rfl⟩ := exists_of_slice h
  obtain ⟨front', back', htext, hfront', rfl⟩ := exists_of_slice h'
  rw [List.append_assoc front'] at htext
  obtain ⟨-, rfl⟩ := append_inj_of_byteLength htext (by rw [byteLength_append, hfront'])
  have hslice := slice_append front (first ++ second) back'
  simpa [Nat.add_assoc] using hslice

/-- Of two fronts of one text the one with fewer bytes is a front of the other. -/
theorem prefix_of_byteLength_le {text front front' : List Char} (h : front <+: text)
    (h' : front' <+: text) (hle : byteLength front ≤ byteLength front') : front <+: front' := by
  rcases List.prefix_or_prefix_of_prefix h h' with hprefix | ⟨more, rfl⟩
  · exact hprefix
  · have hmore : more = [] := byteLength_eq_zero.1 (by rw [byteLength_append] at hle; omega)
    simp [hmore]

end Text

namespace Cursor

theorem offset_step (cursor : Cursor) (c : Char) :
    (cursor.step c).position.offset = cursor.position.offset + c.utf8Size := by
  unfold step
  split
  · split <;> rfl
  · split <;> rfl

/-- Walking over a text adds its length in bytes to the offset. -/
theorem offset_walk (cursor : Cursor) (text : List Char) :
    (cursor.walk text).position.offset = cursor.position.offset + Text.byteLength text := by
  induction text generalizing cursor with
  | nil => simp
  | cons c text ih => rw [walk_cons, ih, offset_step, Text.byteLength_cons, Nat.add_assoc]

/-- Two cursors on one walk are at the same offset only if nothing is between them. -/
theorem offset_walk_eq_iff (cursor : Cursor) (text : List Char) :
    (cursor.walk text).position.offset = cursor.position.offset ↔ text = [] := by
  rw [offset_walk, ← Text.byteLength_eq_zero]
  omega

end Cursor

end CompletionGateway
