import CompletionGateway.Number.Decimal
import CompletionGateway.Proofs.Token.Word

/-!
# The value of a numeral

A numeral of the query language is a decimal, and as a literal it means the binary64 number nearest
to that decimal.
-/

namespace CompletionGateway.Lexeme

/-- The power of ten that an exponent stands for. -/
def exponentValue : List Char → Int
  | [] => 0
  | _ :: rest =>
      if (Decimal.splitSign rest).1 then -(Decimal.readDigits 0 (Decimal.splitSign rest).2 : Int)
      else Decimal.readDigits 0 (Decimal.splitSign rest).2

/-- The decimal that a numeral stands for. -/
def numeralDecimal (sign whole fraction exponent : List Char) : Decimal where
  negative := sign == ['-']
  coefficient := Decimal.readDigits (Decimal.readDigits 0 whole) fraction.tail
  exponent := exponentValue exponent - fraction.tail.length

/-- The numerals of a binary64 number, as words. -/
def IsNumeral (x : Binary64) (word : Word) : Prop :=
  ∃ sign whole fraction exponent,
    (sign = [] ∨ sign = ['-']) ∧ IsWhole whole ∧ IsFraction fraction ∧ IsExponent exponent ∧
      word = ⟨numeralKind fraction exponent (sign ++ whole ++ fraction ++ exponent),
        sign ++ whole ++ fraction ++ exponent⟩ ∧
      (numeralDecimal sign whole fraction exponent).toBinary64 = x

theorem all_isDigit_of_isWhole {whole : List Char} (h : IsWhole whole) :
    ∀ c ∈ whole, isDigit c = true := by
  cases h with
  | zero => simp; decide
  | digits hdigits hhead => exact hdigits.2

theorem readExponent?_of_isExponent {exponent : List Char} (h : IsExponent exponent) :
    Decimal.readExponent? exponent = some (exponentValue exponent) := by
  cases h with
  | absent => rfl
  | @present mark sign digits hmark hsign hdigits =>
      have hall : digits.all Decimal.isDigit = true := List.all_eq_true.2 hdigits.2
      obtain ⟨d, more, rfl⟩ := List.exists_cons_of_ne_nil hdigits.1
      have hd := hdigits.2 d (by simp)
      have hplus : d ≠ '+' := by rintro rfl; revert hd; decide
      have hminus : d ≠ '-' := by rintro rfl; revert hd; decide
      rcases hsign with rfl | rfl | rfl <;>
        simp_all [Decimal.readExponent?, exponentValue, Decimal.splitSign]

theorem readUnsigned?_numeral {whole fraction exponent : List Char} (negative : Bool)
    (hwhole : IsWhole whole) (hfraction : IsFraction fraction) (hexponent : IsExponent exponent) :
    Decimal.readUnsigned? negative (whole ++ (fraction ++ exponent)) =
      some ⟨negative, Decimal.readDigits (Decimal.readDigits 0 whole) fraction.tail,
        exponentValue exponent - fraction.tail.length⟩ := by
  have hhead : ∀ c ∈ exponent.head?, isDigit c = false ∧ c ≠ '.' := by
    cases hexponent with
    | absent => simp
    | present hmark hsign hdigits => rcases hmark with rfl | rfl <;> simp <;> decide
  have htail : ∀ c ∈ (fraction ++ exponent).head?, Decimal.isDigit c = false := by
    cases hfraction with
    | absent => exact fun c hc => (hhead c hc).1
    | present hdigits => simp; decide
  have hall := all_isDigit_of_isWhole hwhole
  have htake : (whole ++ (fraction ++ exponent)).takeWhile Decimal.isDigit = whole :=
    takeWhile_append_of_head hall htail
  have hdrop : (whole ++ (fraction ++ exponent)).dropWhile Decimal.isDigit = fraction ++ exponent :=
    dropWhile_append_of_head hall htail
  have hne : whole ≠ [] := by
    obtain ⟨d, rest, rfl, -⟩ := exists_of_isWhole hwhole
    simp
  have hread := readExponent?_of_isExponent hexponent
  rw [Decimal.readUnsigned?, htake, hdrop]
  cases hfraction with
  | absent =>
      cases exponent with
      | nil => simp [hread, hne]
      | cons c exponent =>
          have hdot : c ≠ '.' := (hhead c (by simp)).2
          simp [hdot, hread, hne]
  | @present digits hdigits =>
      have hdigit : ∀ c ∈ exponent.head?, Decimal.isDigit c = false := fun c hc => (hhead c hc).1
      have htakeFraction : (digits ++ exponent).takeWhile Decimal.isDigit = digits :=
        takeWhile_append_of_head hdigits.2 hdigit
      have hdropFraction : (digits ++ exponent).dropWhile Decimal.isDigit = exponent :=
        dropWhile_append_of_head hdigits.2 hdigit
      simp [htakeFraction, hdropFraction, hread, hne]

/-- A numeral reads as the number nearest to its decimal. -/
theorem readNumber_numeral {sign whole fraction exponent : List Char}
    (hsign : sign = [] ∨ sign = ['-']) (hwhole : IsWhole whole) (hfraction : IsFraction fraction)
    (hexponent : IsExponent exponent) :
    Decimal.readNumber (sign ++ whole ++ fraction ++ exponent) =
      .ok (numeralDecimal sign whole fraction exponent).toBinary64 := by
  obtain ⟨d, more, hd, hdigit⟩ := exists_of_isWhole hwhole
  have hne : sign ++ whole ++ fraction ++ exponent ≠ [] := by simp [hd]
  have hsplit : Decimal.splitSign (sign ++ whole ++ fraction ++ exponent) =
      (sign == ['-'], whole ++ (fraction ++ exponent)) := by
    rcases hsign with rfl | rfl
    · have hplus : d ≠ '+' := by rintro rfl; revert hdigit; decide
      have hminus : d ≠ '-' := by rintro rfl; revert hdigit; decide
      simp [hd, Decimal.splitSign, hplus, hminus]
    · simp [Decimal.splitSign]
  rw [Decimal.readNumber, if_neg hne, hsplit]
  simp only [readUnsigned?_numeral _ hwhole hfraction hexponent]
  rfl

namespace IsNumeral

variable {x : Binary64} {word : Word}

theorem valid (h : IsNumeral x word) : word.Valid := by
  obtain ⟨sign, whole, fraction, exponent, hsign, hwhole, hfraction, hexponent, rfl, -⟩ := h
  exact .numeral hsign hwhole hfraction hexponent

/-- What a numeral is as a token, and what its text reads as. -/
theorem kind_eq (h : IsNumeral x word) :
    ∃ text, (word.kind = .int text ∨ word.kind = .float text) ∧
      Decimal.readNumber text.toList = .ok x := by
  obtain ⟨sign, whole, fraction, exponent, hsign, hwhole, hfraction, hexponent, rfl, rfl⟩ := h
  refine ⟨String.ofList (sign ++ whole ++ fraction ++ exponent), ?_, ?_⟩
  · simp only [numeralKind]
    split
    · exact .inl rfl
    · exact .inr rfl
  · rw [String.toList_ofList]
    exact readNumber_numeral hsign hwhole hfraction hexponent

end IsNumeral

end CompletionGateway.Lexeme
