import CompletionGateway.Text.Utf8

/-!
# Decoding what was encoded

A text is read back from its encoding, character by character: whatever stands behind the bytes of a
character, they come to this character and leave no character begun.  A byte below `0x80` occurs in
an encoding as the character with its code alone.
-/

namespace CompletionGateway.Utf8

/-! ### The bytes of a character -/

/-- The last byte of a character. -/
theorem scan_last {value low high n : Nat} (hn : n < 256) (hlow : low ≤ n) (hhigh : n ≤ high)
    (rest : List UInt8) : scan (some ⟨value, 0, low, high⟩) (UInt8.ofNat n :: rest) =
      some (Char.ofNat (value * 64 + (n - 0x80))) :: scan none rest := by
  have hbyte : (UInt8.ofNat n).toNat = n := UInt8.toNat_ofNat_of_lt' hn
  rw [scan, step, if_pos (by simp only [hbyte]; omega), hbyte]
  rfl

/-- A byte of a character that is neither its first nor its last one. -/
theorem scan_inner {value further low high n : Nat} (hn : n < 256) (hlow : low ≤ n)
    (hhigh : n ≤ high) (rest : List UInt8) :
    scan (some ⟨value, further + 1, low, high⟩) (UInt8.ofNat n :: rest) =
      scan (some ⟨value * 64 + (n - 0x80), further, 0x80, 0xBF⟩) rest := by
  have hbyte : (UInt8.ofNat n).toNat = n := UInt8.toNat_ofNat_of_lt' hn
  rw [scan, step, if_pos (by simp only [hbyte]; omega), hbyte]
  rfl

/-- The first byte of a character that has more bytes. -/
theorem scan_first {byte : UInt8} {pending : Pending} (h : first byte = ⟨[], some pending⟩)
    (rest : List UInt8) : scan none (byte :: rest) = scan (some pending) rest := by
  rw [scan, step, h]
  rfl

/-- The first of two bytes. -/
theorem first_two {n : Nat} (hlow : 0xC2 ≤ n) (hhigh : n < 0xE0) :
    first (UInt8.ofNat n) = ⟨[], some ⟨n - 0xC0, 0, 0x80, 0xBF⟩⟩ := by
  have hbyte : (UInt8.ofNat n).toNat = n := UInt8.toNat_ofNat_of_lt' (by omega : n < 256)
  simp only [first, hbyte]
  rw [if_neg (by omega), if_neg (by omega), if_pos hhigh]

/-- The first of three bytes, and the second bytes that exclude overlong forms and surrogates. -/
theorem first_three {n : Nat} (hlow : 0xE0 ≤ n) (hhigh : n < 0xF0) :
    first (UInt8.ofNat n) = ⟨[], some ⟨n - 0xE0, 1, if n = 0xE0 then 0xA0 else 0x80,
      if n = 0xED then 0x9F else 0xBF⟩⟩ := by
  have hbyte : (UInt8.ofNat n).toNat = n := UInt8.toNat_ofNat_of_lt' (by omega : n < 256)
  simp only [first, hbyte]
  rw [if_neg (by omega), if_neg (by omega), if_neg (by omega)]
  by_cases hleast : n = 0xE0
  · simp [hleast]
  rw [if_neg hleast, if_neg hleast]
  by_cases hsurrogate : n = 0xED
  · simp [hsurrogate]
  rw [if_neg hsurrogate, if_neg hsurrogate, if_pos hhigh]

/-- The first of four bytes, and the second bytes that exclude overlong forms and values beyond the
last character. -/
theorem first_four {n : Nat} (hlow : 0xF0 ≤ n) (hhigh : n ≤ 0xF4) :
    first (UInt8.ofNat n) = ⟨[], some ⟨n - 0xF0, 2, if n = 0xF0 then 0x90 else 0x80,
      if n = 0xF4 then 0x8F else 0xBF⟩⟩ := by
  have hbyte : (UInt8.ofNat n).toNat = n := UInt8.toNat_ofNat_of_lt' (by omega : n < 256)
  simp only [first, hbyte]
  rw [if_neg (by omega), if_neg (by omega), if_neg (by omega), if_neg (by omega),
    if_neg (by omega), if_neg (by omega)]
  by_cases hleast : n = 0xF0
  · simp [hleast]
  rw [if_neg hleast, if_neg hleast]
  by_cases hlast : n = 0xF4
  · simp [hlast]
  rw [if_pos (by omega), if_neg hlast]

theorem toNat_cases (c : Char) :
    c.toNat < 0xD800 ∨ (0xDFFF < c.toNat ∧ c.toNat < 0x110000) := c.valid

/-- The bytes of a character are read as this character. -/
theorem scan_utf8EncodeChar (c : Char) (rest : List UInt8) :
    scan none (String.utf8EncodeChar c ++ rest) = some c :: scan none rest := by
  have hvalid := toNat_cases c
  have hchar : Char.ofNat c.toNat = c := Char.ofNat_toNat c
  have hval : c.val.toNat = c.toNat := rfl
  simp only [String.utf8EncodeChar, hval]
  generalize c.toNat = v at hvalid hchar
  subst hchar
  -- one case for each number of bytes
  split
  · have hbyte : (UInt8.ofNat v).toNat = v := UInt8.toNat_ofNat_of_lt' (by omega : v < 256)
    rw [List.singleton_append, scan, step, first, hbyte, if_pos (by omega)]
    rfl
  split
  · have hcode : (v / 64 % 32 + 192 - 0xC0) * 64 + (v % 64 + 128 - 0x80) = v := by omega
    rw [List.cons_append, scan_first (first_two (by omega) (by omega)), List.singleton_append,
      scan_last (by omega) (by omega) (by omega), hcode]
  split
  · have hcode : ((v / 4096 % 16 + 224 - 0xE0) * 64 + (v / 64 % 64 + 128 - 0x80)) * 64 +
        (v % 64 + 128 - 0x80) = v := by omega
    rw [List.cons_append, scan_first (first_three (by omega) (by omega)), List.cons_append,
      scan_inner (by omega) (by split <;> omega) (by split <;> omega), List.singleton_append,
      scan_last (by omega) (by omega) (by omega), hcode]
  · have hcode : (((v / 262144 % 8 + 240 - 0xF0) * 64 + (v / 4096 % 64 + 128 - 0x80)) * 64 +
        (v / 64 % 64 + 128 - 0x80)) * 64 + (v % 64 + 128 - 0x80) = v := by omega
    rw [List.cons_append, scan_first (first_four (by omega) (by omega)), List.cons_append,
      scan_inner (by omega) (by split <;> omega) (by split <;> omega), List.cons_append,
      scan_inner (by omega) (by omega) (by omega), List.singleton_append,
      scan_last (by omega) (by omega) (by omega), hcode]

/-! ### The bytes of a text -/

theorem encode_cons (c : Char) (text : List Char) :
    encode (c :: text) = String.utf8EncodeChar c ++ encode text := List.flatMap_cons

@[simp]
theorem encode_append (front back : List Char) :
    encode (front ++ back) = encode front ++ encode back := List.flatMap_append

/-- A text is read back from its encoding. -/
theorem decodeLossy_encode (text : List Char) : decodeLossy (encode text) = text := by
  have hscan : scan none (encode text) = text.map some := by
    induction text with
    | nil => rfl
    | cons c text ih => rw [encode_cons, scan_utf8EncodeChar, ih, List.map_cons]
  rw [decodeLossy, hscan, List.map_map]
  exact List.map_id text

/-- A byte below `0x80` in an encoding is a character of the text. -/
theorem exists_of_mem_encode {text : List Char} {byte : UInt8} (h : byte ∈ encode text)
    (hascii : byte.toNat < 0x80) : ∃ c ∈ text, c.toNat = byte.toNat := by
  obtain ⟨c, hc, hbyte⟩ := List.mem_flatMap.1 h
  refine ⟨c, hc, ?_⟩
  have hval : c.val.toNat = c.toNat := rfl
  have hvalid := toNat_cases c
  have hlarge (n : Nat) (hlow : 0x80 ≤ n) (hhigh : n < 256) : byte ≠ UInt8.ofNat n := by
    rintro rfl
    rw [UInt8.toNat_ofNat_of_lt' hhigh] at hascii
    omega
  simp only [String.utf8EncodeChar, hval] at hbyte
  split at hbyte
  · rw [List.mem_singleton.1 hbyte, UInt8.toNat_ofNat_of_lt' (by omega : c.toNat < 256)]
  -- all bytes of longer forms are beyond ASCII
  exfalso
  split at hbyte
  · simp only [List.mem_cons, List.not_mem_nil, or_false] at hbyte
    rcases hbyte with hbyte | hbyte <;> exact hlarge _ (by omega) (by omega) hbyte
  split at hbyte
  · simp only [List.mem_cons, List.not_mem_nil, or_false] at hbyte
    rcases hbyte with hbyte | hbyte | hbyte <;> exact hlarge _ (by omega) (by omega) hbyte
  · simp only [List.mem_cons, List.not_mem_nil, or_false] at hbyte
    rcases hbyte with hbyte | hbyte | hbyte | hbyte <;> exact hlarge _ (by omega) (by omega) hbyte

end CompletionGateway.Utf8
