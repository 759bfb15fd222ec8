import CompletionGateway.Text.Utf8

/-!
# Decoding around a single byte

A byte below `0x80` is a character by itself: it neither begins nor continues another one.  So the
bytes before it and the bytes behind it are decoded each by themselves, whatever is malformed in
them, and the only way to an ASCII character in a decoded text is the byte of that character.
-/

namespace CompletionGateway.Utf8

/-- What all begun characters have in common: no ASCII byte continues them, and what they come to
is no ASCII character. -/
structure Pending.Wide (pending : Pending) : Prop where
  low : 0x80 ≤ pending.low
  last : pending.further = 0 → 0x80 ≤ pending.value * 64 + (pending.low - 0x80)
  inner : pending.further ≠ 0 → 2 ≤ pending.value * 64 + (pending.low - 0x80)

theorem wide_first (byte : UInt8) : ∀ pending ∈ (first byte).state, pending.Wide := by
  have hbyte := byte.toNat_lt
  intro pending hpending
  simp only [first] at hpending
  -- one case for each range of first bytes; most of them begin nothing
  split at hpending
  · cases hpending
  split at hpending
  · cases hpending
  split at hpending
  · obtain rfl := Option.some.inj hpending
    exact ⟨by simp, by simp; omega, by simp⟩
  split at hpending
  · obtain rfl := Option.some.inj hpending
    exact ⟨by simp, by simp, by simp⟩
  split at hpending
  · obtain rfl := Option.some.inj hpending
    exact ⟨by simp, by simp, by simp⟩
  split at hpending
  · obtain rfl := Option.some.inj hpending
    exact ⟨by simp, by simp, by simp; omega⟩
  split at hpending
  · obtain rfl := Option.some.inj hpending
    exact ⟨by simp, by simp, by simp⟩
  split at hpending
  · obtain rfl := Option.some.inj hpending
    exact ⟨by simp, by simp, by simp; omega⟩
  split at hpending
  · obtain rfl := Option.some.inj hpending
    exact ⟨by simp, by simp, by simp⟩
  · cases hpending

theorem wide_step {state : Option Pending} (h : ∀ pending ∈ state, pending.Wide) (byte : UInt8) :
    ∀ pending ∈ (step state byte).state, pending.Wide := by
  cases state with
  | none => exact wide_first byte
  | some begun =>
      have hwide := h begun rfl
      rw [step]
      split
      · rename_i hfits
        split
        · intro pending hpending
          cases hpending
        · rename_i further hfurther
          intro pending hpending
          obtain rfl := Option.some.inj hpending
          have hinner := hwide.inner (by omega)
          refine ⟨Nat.le_refl _, ?_, ?_⟩ <;> intro _ <;> simp only <;> omega
      · exact wide_first byte

theorem first_ascii {byte : UInt8} (h : byte.toNat < 0x80) :
    first byte = ⟨[some (Char.ofNat byte.toNat)], none⟩ := by
  simp [first, h]

/-- An ASCII byte ends whatever has been begun and is a character by itself. -/
theorem step_ascii {state : Option Pending} (hstate : ∀ pending ∈ state, pending.Wide)
    {byte : UInt8} (h : byte.toNat < 0x80) :
    step state byte = ⟨scan state [] ++ [some (Char.ofNat byte.toNat)], none⟩ := by
  cases state with
  | none => exact first_ascii h
  | some begun =>
      have hlow := (hstate begun rfl).low
      rw [step, if_neg (by omega), first_ascii h]
      rfl

theorem scan_append_ascii {state : Option Pending} (hstate : ∀ pending ∈ state, pending.Wide)
    {byte : UInt8} (h : byte.toNat < 0x80) (front back : List UInt8) :
    scan state (front ++ byte :: back) =
      scan state front ++ some (Char.ofNat byte.toNat) :: scan none back := by
  induction front generalizing state with
  | nil => simp [scan, step_ascii hstate h]
  | cons other front ih =>
      rw [List.cons_append, scan, ih (wide_step hstate other), scan]
      simp

/-- The text on either side of an ASCII byte is decoded by itself. -/
theorem decodeLossy_append_ascii {byte : UInt8} (h : byte.toNat < 0x80)
    (front back : List UInt8) :
    decodeLossy (front ++ byte :: back) =
      decodeLossy front ++ Char.ofNat byte.toNat :: decodeLossy back := by
  have hnone : ∀ pending ∈ (none : Option Pending), pending.Wide := by simp
  simp [decodeLossy, scan_append_ascii hnone h]

/-- A number that names a character other than NUL is its code point. -/
theorem toNat_of_ofNat_eq {n : Nat} {c : Char} (h : Char.ofNat n = c) (hc : 0 < c.toNat) :
    c.toNat = n := by
  subst h
  by_cases hvalid : n.isValidChar
  · have hchar : Char.ofNat n = Char.ofNatAux n hvalid := dif_pos hvalid
    rw [hchar]
    rfl
  · have hchar : (Char.ofNat n).toNat = 0 := congrArg Char.toNat (dif_neg hvalid)
    rw [hchar] at hc
    exact absurd hc (Nat.lt_irrefl 0)

theorem char_of_mem_first {byte : UInt8} {c : Char} (h : some c ∈ (first byte).output) :
    c = Char.ofNat byte.toNat ∧ byte.toNat < 0x80 := by
  simp only [first] at h
  split at h
  · rename_i hascii
    simp only [List.mem_singleton, Option.some.injEq] at h
    exact ⟨h, hascii⟩
  · exfalso
    revert h
    repeat' split
    all_goals simp

/-- A finished character is an ASCII byte, or its code point is beyond ASCII. -/
theorem char_of_mem_step {state : Option Pending} (hstate : ∀ pending ∈ state, pending.Wide)
    {byte : UInt8} {c : Char} (h : some c ∈ (step state byte).output) :
    (c = Char.ofNat byte.toNat ∧ byte.toNat < 0x80) ∨ ∃ n, 0x80 ≤ n ∧ c = Char.ofNat n := by
  cases state with
  | none => exact .inl (char_of_mem_first h)
  | some begun =>
      have hwide := hstate begun rfl
      rw [step] at h
      split at h
      · rename_i hfits
        split at h
        · rename_i hfurther
          have hlast := hwide.last hfurther
          have hlow := hwide.low
          simp only [List.mem_singleton, Option.some.injEq] at h
          exact .inr ⟨_, by omega, h⟩
        · simp at h
      · simp only [List.mem_cons, reduceCtorEq, false_or] at h
        exact .inl (char_of_mem_first h)

theorem mem_of_mem_scan {state : Option Pending} (hstate : ∀ pending ∈ state, pending.Wide)
    {bytes : List UInt8} {c : Char} (h : some c ∈ scan state bytes) (hpos : 0 < c.toNat)
    (hascii : c.toNat < 0x80) : ∃ byte ∈ bytes, byte.toNat = c.toNat := by
  induction bytes generalizing state with
  | nil =>
      rw [scan] at h
      split at h <;> simp at h
  | cons byte rest ih =>
      rw [scan, List.mem_append] at h
      rcases h with hfirst | hrest
      · rcases char_of_mem_step hstate hfirst with ⟨hchar, -⟩ | ⟨n, hwide, hchar⟩
        · exact ⟨byte, by simp, (toNat_of_ofNat_eq hchar.symm hpos).symm⟩
        · have hcode := toNat_of_ofNat_eq hchar.symm hpos
          omega
      · obtain ⟨other, hmem, hother⟩ := ih (wide_step hstate byte) hrest
        exact ⟨other, List.mem_cons_of_mem _ hmem, hother⟩

/-- An ASCII character of a decoded text stands for the byte with its code. -/
theorem mem_of_mem_decodeLossy {bytes : List UInt8} {c : Char} (h : c ∈ decodeLossy bytes)
    (hpos : 0 < c.toNat) (hascii : c.toNat < 0x80) : ∃ byte ∈ bytes, byte.toNat = c.toNat := by
  rw [decodeLossy, List.mem_map] at h
  obtain ⟨found, hfound, rfl⟩ := h
  cases found with
  | none => exact absurd hascii (by decide)
  | some c => exact mem_of_mem_scan (by simp) hfound hpos hascii

end CompletionGateway.Utf8
