import Mathlib.Tactic.Linarith
import Mathlib.Tactic.Ring
import CompletionGateway.Number.Decimal

/-!
# The digits of a number

The decimal digits of a number read back as the number, and their count says between which powers
of ten it lies.
-/

namespace CompletionGateway.Decimal

theorem isDigit_of_mem_writeNat {n : Nat} {c : Char} (h : c ∈ writeNat n) : c.isDigit = true :=
  Nat.isDigit_of_mem_toDigits (by decide) (by decide) h

theorem writeNat_ne_nil (n : Nat) : writeNat n ≠ [] := Nat.toDigits_ne_nil

theorem length_writeNat_pos (n : Nat) : 0 < (writeNat n).length := Nat.length_toDigits_pos

/-- Digits before a run of digits count as many powers of ten as the run is long. -/
theorem readDigits_eq (before : Nat) (digits : List Char) :
    readDigits before digits = before * 10 ^ digits.length + readDigits 0 digits := by
  induction digits generalizing before with
  | nil => simp
  | cons c digits ih =>
      have hcons : ∀ start, readDigits start (c :: digits) =
          readDigits (start * 10 + digitValue c) digits := fun _ => rfl
      rw [hcons, hcons, ih, ih (0 * 10 + digitValue c), List.length_cons]
      ring

theorem readDigits_writeNat (n : Nat) : readDigits 0 (writeNat n) = n := by
  have hcore := Nat.ofDigitChars_ten_toDigits (n := n)
  rw [Nat.ofDigitChars_eq_foldl] at hcore
  rw [readDigits, writeNat]
  simpa only [digitValue, Nat.mul_comm] using hcore

theorem digitValue_lt {c : Char} (h : c.isDigit = true) : digitValue c < 10 := by
  simp only [Char.isDigit, Bool.and_eq_true, decide_eq_true_eq, ge_iff_le,
    UInt32.le_iff_toNat_le] at h
  have hnine : c.val.toNat ≤ 57 := h.2
  have hzero : ('0' : Char).toNat = 48 := rfl
  have hvalue : c.toNat = c.val.toNat := rfl
  rw [digitValue, hzero, hvalue]
  omega

theorem readDigits_lt {digits : List Char} (h : ∀ c ∈ digits, c.isDigit = true) :
    readDigits 0 digits < 10 ^ digits.length := by
  induction digits with
  | nil => simp
  | cons c digits ih =>
      have hmore := ih fun d hd => h d (by simp [hd])
      have hdigit := digitValue_lt (h c (by simp))
      have hcons : readDigits 0 (c :: digits) = readDigits (0 * 10 + digitValue c) digits := rfl
      have hmul : (digitValue c + 1) * 10 ^ digits.length ≤ 10 * 10 ^ digits.length :=
        Nat.mul_le_mul_right _ hdigit
      rw [hcons, readDigits_eq, List.length_cons, Nat.pow_succ]
      linarith

theorem lt_pow_length_writeNat (n : Nat) : n < 10 ^ (writeNat n).length :=
  (Nat.length_toDigits_le_iff (by decide) (length_writeNat_pos n)).1 (Nat.le_refl _)

theorem pow_length_writeNat_le {n : Nat} (h : 0 < n) : 10 ^ ((writeNat n).length - 1) ≤ n := by
  by_contra hlt
  by_cases hone : (writeNat n).length - 1 = 0
  · rw [hone] at hlt
    omega
  · have hle := (Nat.length_toDigits_le_iff (by decide) (Nat.pos_of_ne_zero hone)).2
      (Nat.lt_of_not_le hlt)
    have hlength : (Nat.toDigits 10 n).length = (writeNat n).length := rfl
    omega

/-- The first digit of a positive number is not zero. -/
theorem head?_writeNat_ne {n : Nat} (h : 0 < n) : (writeNat n).head? ≠ some '0' := by
  intro hhead
  obtain ⟨rest, hdigits⟩ : ∃ rest, writeNat n = '0' :: rest := List.head?_eq_some_iff.1 hhead
  have hread := readDigits_writeNat n
  have hpow := pow_length_writeNat_le h
  have hlt : readDigits 0 rest < 10 ^ rest.length :=
    readDigits_lt fun c hc => isDigit_of_mem_writeNat (n := n) (by simp [hdigits, hc])
  have hzero : readDigits 0 ('0' :: rest) = readDigits 0 rest := rfl
  rw [hdigits, hzero] at hread
  rw [hdigits, List.length_cons, Nat.add_sub_cancel] at hpow
  omega

end CompletionGateway.Decimal
