import CompletionGateway.Json.Writing
import CompletionGateway.Proofs.Number.Shortest
import CompletionGateway.Proofs.Token.NumeralForm

/-!
# The numbers of a JSON text are numerals

Every JSON number is written as a numeral of the query language, and the numeral reads as the
number: whole numbers because their digits read back, binary64 numbers because they are written
with a decimal of their rounding interval, laid out with zeros, a point or an exponent.
-/

namespace CompletionGateway

/-- The numbers that a JSON value can hold. -/
def JsonNumber.Valid : JsonNumber → Prop
  | natural n => n < 2 ^ 64
  | negative n => 0 < n ∧ n ≤ 2 ^ 63
  | real x => x.isFinite = true

theorem Binary64.isFinite_ofNat (negative : Bool) {n : Nat} (h : n < 2 ^ 64) :
    (Binary64.ofNat negative n).isFinite = true := by
  have hbits : 2 ^ 64 * quantaPerOne ≤ 2 * ranksPerBinade * 2 ^ 1085 := by decide +kernel
  have hfinite : (1085 + 2) * ranksPerBinade < finiteRanks := by decide +kernel
  have hlt : n * quantaPerOne / 1 < 2 * ranksPerBinade * 2 ^ 1085 := by
    rw [Nat.div_one]
    exact Nat.lt_of_lt_of_le (Nat.mul_lt_mul_of_pos_right h quantaPerOne_pos) hbits
  have hrank := Nat.lt_of_le_of_lt (rankNearest_le hlt) hfinite
  rw [ofNat, ofQuotient, ofRank, dif_pos hrank]
  rfl

theorem JsonNumber.isFinite_toBinary64 {n : JsonNumber} (h : n.Valid) :
    n.toBinary64.isFinite = true := by
  cases n with
  | natural n => exact Binary64.isFinite_ofNat false h
  | negative n => exact Binary64.isFinite_ofNat true (Nat.lt_of_le_of_lt h.2 (by decide))
  | real x => exact h

namespace Decimal

theorem readDigits_replicate_zero (before zeros : Nat) :
    readDigits before (List.replicate zeros '0') = before * 10 ^ zeros := by
  induction zeros generalizing before with
  | zero => simp
  | succ zeros ih =>
      have hstep : readDigits before ('0' :: List.replicate zeros '0') =
          readDigits (before * 10) (List.replicate zeros '0') := rfl
      rw [List.replicate_succ, hstep, ih]
      ring

end Decimal

namespace Lexeme

theorem isDigits_writeNat (n : Nat) : IsDigits (Decimal.writeNat n) :=
  ⟨Decimal.writeNat_ne_nil n, fun _ hc => Decimal.isDigit_of_mem_writeNat hc⟩

theorem isWhole_writeNat (n : Nat) : IsWhole (Decimal.writeNat n) := by
  cases n with
  | zero => exact .zero
  | succ n => exact .digits (isDigits_writeNat _) (Decimal.head?_writeNat_ne (Nat.succ_pos n))

theorem exists_zeros (digits : List Char) :
    ∃ zeros, digits =
      (digits.reverse.dropWhile (· = '0')).reverse ++ List.replicate zeros '0' := by
  refine ⟨(digits.reverse.takeWhile (· = '0')).length, ?_⟩
  have hsplit : digits.reverse.takeWhile (· = '0') ++ digits.reverse.dropWhile (· = '0') =
      digits.reverse := List.takeWhile_append_dropWhile
  have hzeros : (digits.reverse.takeWhile (· = '0')).reverse =
      List.replicate (digits.reverse.takeWhile (· = '0')).length '0' := by
    rw [List.eq_replicate_iff, List.length_reverse]
    refine ⟨rfl, fun c hc => ?_⟩
    simpa using List.all_eq_true.1 List.all_takeWhile c (List.mem_reverse.1 hc)
  rw [← hzeros, ← List.reverse_append, hsplit, List.reverse_reverse]

/-- The digits of a positive number are some digits and zeros, and the first digit is no zero. -/
theorem exists_significantDigits {d : Decimal} (hpos : d.coefficient ≠ 0) :
    ∃ digits zeros, Binary64.significantDigits d =
        (digits, d.exponent + (digits.length + zeros : Nat) - 1) ∧
      d.coefficient = Decimal.readDigits 0 digits * 10 ^ zeros ∧ IsDigits digits ∧
        digits.head? ≠ some '0' := by
  obtain ⟨zeros, hsplit⟩ := exists_zeros (Decimal.writeNat d.coefficient)
  have hread := Decimal.readDigits_writeNat d.coefficient
  have hall := (isDigits_writeNat d.coefficient).2
  have hfirst := Decimal.head?_writeNat_ne (Nat.pos_of_ne_zero hpos)
  simp only [Binary64.significantDigits]
  generalize ((Decimal.writeNat d.coefficient).reverse.dropWhile (· = '0')).reverse = digits
    at hsplit ⊢
  rw [hsplit] at hread hall hfirst ⊢
  rw [Decimal.readDigits_append, Decimal.readDigits_replicate_zero] at hread
  have hne : digits ≠ [] := by
    rintro rfl
    rw [Decimal.readDigits_nil, Nat.zero_mul] at hread
    exact hpos hread.symm
  refine ⟨digits, zeros, ?_, hread.symm, ⟨hne, fun c hc => hall c (by simp [hc])⟩, ?_⟩
  · rw [List.length_append, List.length_replicate]
  · obtain ⟨c, more, rfl⟩ := List.exists_cons_of_ne_nil hne
    exact hfirst

/-- Digits with a point behind the first one, if there are more. -/
def pointed : List Char → List Char
  | [] => []
  | [d] => [d]
  | d :: more => d :: '.' :: more

/-- With an exponent, pointed digits are a numeral for the digits. -/
theorem exists_pointed {digits : List Char} (hdigits : IsDigits digits)
    (hhead : digits.head? ≠ some '0') (leading : Int) (sign : List Char) :
    ∃ whole fraction, IsWhole whole ∧ IsFraction fraction ∧
      pointed digits = whole ++ fraction ∧ ∀ exponent,
        exponentValue exponent = leading → numeralDecimal sign whole fraction exponent =
          ⟨sign == ['-'], Decimal.readDigits 0 digits, leading - digits.length + 1⟩ := by
  obtain ⟨hne, hall⟩ := hdigits
  cases digits with
  | nil => exact absurd rfl hne
  | cons d more =>
      have hwhole : IsWhole [d] := .digits ⟨by simp, fun c hc => hall c (by simp_all)⟩ hhead
      cases more with
      | nil =>
          refine ⟨[d], [], hwhole, .absent, rfl, fun exponent hexponent => ?_⟩
          simp [numeralDecimal, hexponent]
      | cons d' more =>
          refine ⟨[d], '.' :: d' :: more, hwhole, .present ⟨by simp, fun c hc => hall c (by simp_all)⟩,
            rfl, fun exponent hexponent => ?_⟩
          rw [numeralDecimal, hexponent, List.tail_cons, ← Decimal.readDigits_append]
          simp only [List.singleton_append, List.length_cons, Decimal.mk.injEq, true_and]
          omega

/-- The text is a numeral that is no whole number and means the digits, the first of them at the
exponent `leading`. -/
def LaysOut (sign digits : List Char) (leading : Int) (text : List Char) : Prop :=
  ∃ whole fraction exponent places, IsWhole whole ∧ IsFraction fraction ∧ IsExponent exponent ∧
    text = whole ++ fraction ++ exponent ∧ (fraction ≠ [] ∨ exponent ≠ []) ∧
      numeralDecimal sign whole fraction exponent =
        ⟨sign == ['-'], Decimal.readDigits 0 digits * 10 ^ places,
          leading - digits.length + 1 - (places : Nat)⟩

section Layout

variable {digits : List Char} {leading : Int}

theorem isDigit_of_mem_zeros {zeros : Nat} {c : Char} (hc : c ∈ List.replicate zeros '0') :
    isDigit c = true := by
  rw [(List.mem_replicate.1 hc).2]
  decide

/-- The exponent part with a sign and digits means the exponent. -/
theorem laysOut_scientific (hdigits : IsDigits digits) (hhead : digits.head? ≠ some '0')
    (sign : List Char) {mark : List Char} (hmark : mark = ['+'] ∨ mark = ['-'])
    (hvalue : exponentValue ('e' :: (mark ++ Decimal.writeNat leading.natAbs)) = leading) :
    LaysOut sign digits leading
      (pointed digits ++ 'e' :: (mark ++ Decimal.writeNat leading.natAbs)) := by
  obtain ⟨whole, fraction, hwhole, hfraction, hmantissa, hdecimal⟩ :=
    exists_pointed hdigits hhead leading sign
  refine ⟨whole, fraction, 'e' :: (mark ++ Decimal.writeNat leading.natAbs), 0, hwhole, hfraction,
    .present (.inl rfl) (.inr hmark) (isDigits_writeNat _), ?_, .inr (by simp), ?_⟩
  · rw [hmantissa]
  · rw [hdecimal _ hvalue]
    simp

/-- Digits that end before the point are filled up with zeros. -/
theorem laysOut_filled (hdigits : IsDigits digits) (hhead : digits.head? ≠ some '0')
    (sign : List Char) (hleading : 0 ≤ leading) (hshort : digits.length ≤ leading.toNat + 1) :
    LaysOut sign digits leading
      (digits ++ List.replicate (leading.toNat + 1 - digits.length) '0' ++ ['.', '0']) := by
  have hwhole : IsWhole (digits ++ List.replicate (leading.toNat + 1 - digits.length) '0') := by
    refine .digits ⟨by simp [hdigits.1], fun c hc => ?_⟩ ?_
    · exact (List.mem_append.1 hc).elim (hdigits.2 c) isDigit_of_mem_zeros
    · obtain ⟨d, more, rfl⟩ := List.exists_cons_of_ne_nil hdigits.1
      exact hhead
  refine ⟨_, ['.', '0'], [], leading.toNat + 1 - digits.length + 1, hwhole,
    .present ⟨by simp, by simp; decide⟩, .absent, by simp, .inl (by simp), ?_⟩
  -- the zero behind the point is one more of the zeros that fill up
  have htail : Decimal.readDigits (Decimal.readDigits 0
      (digits ++ List.replicate (leading.toNat + 1 - digits.length) '0')) ['0'] =
        Decimal.readDigits 0 digits * 10 ^ (leading.toNat + 1 - digits.length + 1) := by
    have hzero := Decimal.readDigits_replicate_zero (Decimal.readDigits 0
      (digits ++ List.replicate (leading.toNat + 1 - digits.length) '0')) 1
    rw [List.replicate_one] at hzero
    rw [hzero, Decimal.readDigits_append, Decimal.readDigits_replicate_zero, Nat.pow_succ]
    ring
  rw [numeralDecimal, List.tail_cons, htail]
  simp only [exponentValue, List.length_singleton, Decimal.mk.injEq, true_and]
  omega

/-- Digits that go on behind the point are parted by it. -/
theorem laysOut_parted (hdigits : IsDigits digits) (hhead : digits.head? ≠ some '0')
    (sign : List Char) (hleading : 0 ≤ leading) (hlong : leading.toNat + 1 < digits.length) :
    LaysOut sign digits leading
      (digits.take (leading.toNat + 1) ++ '.' :: digits.drop (leading.toNat + 1)) := by
  have hsplit := List.take_append_drop (leading.toNat + 1) digits
  have hwhole : IsWhole (digits.take (leading.toNat + 1)) := by
    refine .digits ⟨by simp [hdigits.1], fun c hc => ?_⟩ ?_
    · exact hdigits.2 c (List.mem_of_mem_take hc)
    · rw [List.head?_take, if_neg (by omega)]
      exact hhead
  have hfraction : IsFraction ('.' :: digits.drop (leading.toNat + 1)) := by
    refine .present ⟨?_, fun c hc => hdigits.2 c (List.mem_of_mem_drop hc)⟩
    rw [ne_eq, List.drop_eq_nil_iff]
    omega
  refine ⟨_, _, [], 0, hwhole, hfraction, .absent, by simp, .inl (by simp), ?_⟩
  rw [numeralDecimal, List.tail_cons, ← Decimal.readDigits_append, hsplit]
  simp only [exponentValue, List.length_drop, Nat.pow_zero, Nat.mul_one, Decimal.mk.injEq, true_and]
  omega

/-- Digits that begin behind the point stand behind a zero and further zeros. -/
theorem laysOut_small (hdigits : IsDigits digits) (sign : List Char) (hleading : leading < 0) :
    LaysOut sign digits leading
      ('0' :: '.' :: (List.replicate (leading.natAbs - 1) '0' ++ digits)) := by
  have hfraction : IsFraction ('.' :: (List.replicate (leading.natAbs - 1) '0' ++ digits)) := by
    refine .present ⟨by simp [hdigits.1], fun c hc => ?_⟩
    exact (List.mem_append.1 hc).elim isDigit_of_mem_zeros (hdigits.2 c)
  refine ⟨['0'], _, [], 0, .zero, hfraction, .absent, by simp, .inl (by simp), ?_⟩
  rw [numeralDecimal, List.tail_cons, Decimal.readDigits_append, Decimal.readDigits_replicate_zero]
  have hzero : Decimal.readDigits 0 ['0'] = 0 := by decide
  simp only [hzero, Nat.zero_mul, exponentValue, List.length_append, List.length_replicate,
    Nat.pow_zero, Nat.mul_one, Decimal.mk.injEq, true_and]
  omega

/-- However a number is laid out, it is a numeral for its digits. -/
theorem laysOut_write (hdigits : IsDigits digits) (hhead : digits.head? ≠ some '0') (leading : Int)
    (sign : List Char) :
    LaysOut sign digits leading (Json.realLayout.write digits leading) := by
  unfold Binary64.Layout.write
  split
  · have hread := Decimal.readDigits_writeNat leading.natAbs
    simp only
    split
    · rename_i hnonneg
      have hvalue : exponentValue ('e' :: (['+'] ++ Decimal.writeNat leading.natAbs)) = leading := by
        show (Decimal.readDigits 0 (Decimal.writeNat leading.natAbs) : Int) = leading
        rw [hread]
        omega
      show LaysOut sign digits leading
        (pointed digits ++ ['e', '+'] ++ Decimal.writeNat leading.natAbs)
      rw [List.append_assoc]
      exact laysOut_scientific hdigits hhead sign (.inl rfl) hvalue
    · rename_i hnegative
      have hvalue : exponentValue ('e' :: (['-'] ++ Decimal.writeNat leading.natAbs)) = leading := by
        show -(Decimal.readDigits 0 (Decimal.writeNat leading.natAbs) : Int) = leading
        rw [hread]
        omega
      exact laysOut_scientific hdigits hhead sign (.inr rfl) hvalue
  · split
    · rename_i hnonneg
      simp only
      split
      · exact laysOut_filled hdigits hhead sign hnonneg ‹_›
      · exact laysOut_parted hdigits hhead sign hnonneg (by omega)
    · exact laysOut_small hdigits sign (by omega)

end Layout

end Lexeme

namespace Json

open Lexeme

/-- A number as a word. -/
def numberWord (n : JsonNumber) : Word where
  kind :=
    match n with
    | .real _ => .float (String.ofList (writeNumber n))
    | _ => .int (String.ofList (writeNumber n))
  text := writeNumber n

theorem isNumeral_writeNat {sign : List Char} (hsign : sign = [] ∨ sign = ['-']) {n : Nat}
    (hn : n < 2 ^ 64) (hzero : sign = ['-'] → n ≠ 0) :
    IsNumeral (.ofNat (sign == ['-']) n)
      ⟨.int (String.ofList (sign ++ Decimal.writeNat n)), sign ++ Decimal.writeNat n⟩ := by
  refine ⟨sign, Decimal.writeNat n, [], [], hsign, isWhole_writeNat n, .absent, .absent, ?_, ?_⟩
  · simp [numeralKind]
  · have hvalue : numeralDecimal sign (Decimal.writeNat n) [] [] = ⟨sign == ['-'], n, 0⟩ := by
      simp [numeralDecimal, exponentValue, Decimal.readDigits_writeNat]
    rw [hvalue, Decimal.toBinary64]
    split
    · rename_i hcoefficient
      obtain rfl : n = 0 := hcoefficient
      obtain rfl : sign = [] := by
        rcases hsign with h | h
        · exact h
        · exact absurd rfl (hzero h)
      have hrank : Binary64.rankNearest 0 1 = 0 := by decide
      rw [Binary64.ofNat, Binary64.ofQuotient, Nat.zero_mul, hrank]
      rfl
    · have hlength : (Decimal.writeNat n).length ≤ 20 :=
        (Nat.length_toDigits_le_iff (by decide) (by decide)).2 (Nat.lt_trans hn (by decide))
      simp only
      rw [if_neg (by omega), if_neg (by omega), if_pos (Int.le_refl 0)]
      exact congrArg _ (Nat.mul_one n)

/-- The sign of a number that is written with one. -/
def signOf (negative : Bool) : List Char := if negative then ['-'] else []

theorem signOf_cases (negative : Bool) :
    (signOf negative = [] ∨ signOf negative = ['-']) ∧ (signOf negative == ['-']) = negative := by
  cases negative <;> decide

theorem isNumeral_writeZero (negative : Bool) :
    IsNumeral (.zero negative)
      ⟨.float (String.ofList (signOf negative ++ ['0', '.', '0'])),
        signOf negative ++ ['0', '.', '0']⟩ := by
  obtain ⟨hsign, hnegative⟩ := signOf_cases negative
  refine ⟨signOf negative, ['0'], ['.', '0'], [], hsign, .zero,
    .present ⟨by simp, by simp; decide⟩, .absent, ?_, ?_⟩
  · simp [numeralKind]
  · have hvalue : numeralDecimal (signOf negative) ['0'] ['.', '0'] [] = ⟨negative, 0, -1⟩ := by
      rw [numeralDecimal, hnegative]
      rfl
    rw [hvalue]
    rfl

/-- A decimal of the rounding interval of a finite rank, laid out, is a numeral of that rank. -/
theorem isNumeral_layout {d : Decimal} {rank : Nat} (hrank : 0 < rank)
    (hfinite : rank < Binary64.finiteRanks) (h : d.LiesIn (.ofRank rank)) (negative : Bool)
    {digits : List Char} {leading : Int}
    (hdigits : Binary64.significantDigits d = (digits, leading)) :
    IsNumeral (.finite negative ⟨rank, hfinite⟩)
      ⟨.float (String.ofList (signOf negative ++ realLayout.write digits leading)),
        signOf negative ++ realLayout.write digits leading⟩ := by
  obtain ⟨hsign, hnegative⟩ := signOf_cases negative
  obtain ⟨kept, zeros, hkept, hcoefficient, hall, hhead⟩ :=
    exists_significantDigits (Decimal.coefficient_ne_zero_of_liesIn hrank h)
  obtain ⟨rfl, rfl⟩ := Prod.mk.inj (hkept.symm.trans hdigits)
  obtain ⟨whole, fraction, exponent, places, hwhole, hfraction, hexponent, htext, hfloat, hvalue⟩ :=
    laysOut_write hall hhead (d.exponent + (kept.length + zeros : Nat) - 1) (signOf negative)
  refine ⟨signOf negative, whole, fraction, exponent, hsign, hwhole, hfraction, hexponent, ?_, ?_⟩
  · rw [htext]
    simp only [numeralKind, List.append_assoc]
    rw [if_neg fun hnone => hfloat.elim (· hnone.1) (· hnone.2)]
  · have hunit : d.exponent + (kept.length + zeros : Nat) - 1 - kept.length + 1 =
        d.exponent + zeros := by
      omega
    rw [hvalue, hunit, hnegative]
    refine Decimal.toBinary64_of_liesIn hrank hfinite ?_
    rw [Decimal.liesIn_shift _ _ d.negative, ← Decimal.liesIn_shift _ d.negative _ _ _ zeros,
      ← hcoefficient, Int.add_sub_cancel]
    exact h

theorem isNumeral_writeReal {x : Binary64} (hx : x.isFinite = true) :
    IsNumeral x ⟨.float (String.ofList (writeReal x)), writeReal x⟩ := by
  cases x with
  | finite negative rank =>
      obtain ⟨rank, hfinite⟩ := rank
      by_cases hzero : rank = 0
      · subst hzero
        exact isNumeral_writeZero negative
      · have hrank := Nat.pos_of_ne_zero hzero
        have htext : writeReal (.finite negative ⟨rank, hfinite⟩) = signOf negative ++
            realLayout.write (Binary64.significantDigits (Binary64.shortestDecimal rank)).1
              (Binary64.significantDigits (Binary64.shortestDecimal rank)).2 := by
          simp only [writeReal, hzero, if_false, signOf]
        rw [htext]
        exact isNumeral_layout hrank hfinite (Binary64.shortestDecimal_liesIn hrank) negative rfl
  | infinite negative => cases hx
  | nan => cases hx

/-- Every number is written as a numeral that reads as the number. -/
theorem isNumeral_numberWord {n : JsonNumber} (hn : n.Valid) :
    IsNumeral n.toBinary64 (numberWord n) := by
  cases n with
  | natural n => exact isNumeral_writeNat (.inl rfl) hn (by simp)
  | negative n =>
      exact isNumeral_writeNat (.inr rfl) (Nat.lt_of_le_of_lt hn.2 (by decide))
        fun _ => Nat.ne_of_gt hn.1
  | real x => exact isNumeral_writeReal hn

end Json

end CompletionGateway
