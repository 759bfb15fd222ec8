import Mathlib.Algebra.Field.Rat
import Mathlib.Tactic.FieldSimp
import CompletionGateway.Proofs.Number.Rank

/-!
# The value of a binary64 number

A finite number has a rational value: its magnitude in quanta, over the quanta in one.  Rounding a
magnitude gives its rank back, so two numbers of one value differ at most in the sign of zero, and a
whole number that is the value of some number is rounded to no other magnitude.
-/

namespace CompletionGateway

namespace Binary64

/-- A magnitude is the one nearest to itself. -/
theorem rankNearest_quantaOfRank (rank : Nat) : rankNearest (quantaOfRank rank) 1 = rank := by
  obtain ⟨shift, mantissa, rfl, hnormal, hlt⟩ := exists_shift rank
  have hunit : 0 < 2 ^ shift := Nat.two_pow_pos shift
  rw [quantaOfRank_shift shift mantissa (Nat.le_of_lt hlt) hnormal]
  apply rankNearest_of_bounds shift mantissa Nat.one_pos
  · exact hnormal.imp_right fun hle => by
      rw [Nat.mul_one]
      exact Nat.mul_le_mul_right _ hle
  · rw [Nat.mul_one]
    exact Nat.mul_lt_mul_of_pos_right hlt hunit
  · rw [Nat.one_mul, Nat.mul_assoc]
    exact Nat.le_add_right _ _
  · rw [Nat.one_mul, Nat.add_mul, Nat.mul_assoc]
    exact Nat.le_add_right _ _
  · intro _
    rw [Nat.one_mul, Nat.add_mul, Nat.mul_assoc]
    constructor <;> omega

theorem quantaOfRank_injective : Function.Injective quantaOfRank := fun rank rank' h => by
  rw [← rankNearest_quantaOfRank rank, h, rankNearest_quantaOfRank]

theorem wholeOfRank?_eq_some_iff {rank n : Nat} :
    wholeOfRank? rank = some n ↔ quantaOfRank rank = n * quantaPerOne := by
  have hpos := quantaPerOne_pos
  rw [wholeOfRank?]
  constructor
  · intro h
    by_cases hmod : quantaOfRank rank % quantaPerOne = 0
    · rw [if_pos hmod, Option.some.injEq] at h
      rw [← h, Nat.div_mul_cancel (Nat.dvd_of_mod_eq_zero hmod)]
    · rw [if_neg hmod] at h
      cases h
  · intro h
    rw [h, if_pos (Nat.mul_mod_left n quantaPerOne), Nat.mul_div_cancel n hpos]

/-- A whole magnitude is the number nearest to itself. -/
theorem ofNat_of_quantaOfRank {rank n : Nat} (h : quantaOfRank rank = n * quantaPerOne)
    (negative : Bool) : ofNat negative n = ofRank negative rank := by
  rw [ofNat, ofQuotient, ← h, rankNearest_quantaOfRank]

/-- The magnitude with its sign, in quanta. -/
def signedQuanta (negative : Bool) (rank : Nat) : ℤ :=
  if negative then -(quantaOfRank rank : ℤ) else quantaOfRank rank

/-- The value of a finite number. -/
def value? : Binary64 → Option ℚ
  | finite negative rank => some ((signedQuanta negative rank : ℚ) / quantaPerOne)
  | _ => none

/-- Equality of finite numbers: positive and negative zero are equal. -/
def SameValue (x y : Binary64) : Prop := ∃ v, x.value? = some v ∧ y.value? = some v

theorem natAbs_signedQuanta (negative : Bool) (rank : Nat) :
    (signedQuanta negative rank).natAbs = quantaOfRank rank := by
  rw [signedQuanta]
  split <;> simp

theorem signedQuanta_not (negative : Bool) (rank : Nat) :
    signedQuanta (!negative) rank = -signedQuanta negative rank := by
  cases negative <;> simp [signedQuanta]

/-- A number has a whole value if its signed quanta are a multiple of those in one. -/
theorem value?_eq_intCast_iff {negative : Bool} {rank : Fin finiteRanks} {k : ℤ} :
    (finite negative rank).value? = some (k : ℚ) ↔
      signedQuanta negative rank = k * quantaPerOne := by
  have hpos : (quantaPerOne : ℚ) ≠ 0 := Nat.cast_ne_zero.2 (Nat.ne_of_gt quantaPerOne_pos)
  rw [value?, Option.some.injEq, div_eq_iff hpos]
  exact_mod_cast Iff.rfl

/-- The magnitude of a whole value is whole. -/
theorem wholeOfRank?_of_value? {negative : Bool} {rank : Fin finiteRanks} {k : ℤ}
    (h : (finite negative rank).value? = some (k : ℚ)) : wholeOfRank? rank = some k.natAbs := by
  rw [wholeOfRank?_eq_some_iff, ← natAbs_signedQuanta negative, value?_eq_intCast_iff.1 h,
    Int.natAbs_mul, Int.natAbs_natCast]

/-- A whole magnitude and a sign make a whole value. -/
theorem value?_of_wholeOfRank? {rank : Fin finiteRanks} {n : Nat}
    (h : wholeOfRank? rank = some n) (negative : Bool) :
    (finite negative rank).value? = some ((if negative then -(n : ℤ) else n : ℤ) : ℚ) := by
  rw [value?_eq_intCast_iff, signedQuanta, wholeOfRank?_eq_some_iff.1 h, Int.natCast_mul]
  split
  · rw [Int.neg_mul]
  · rfl

theorem exists_value? {x : Binary64} (h : x.isFinite = true) : ∃ v, x.value? = some v := by
  cases x with
  | finite negative rank => exact ⟨_, rfl⟩
  | infinite negative => cases h
  | nan => cases h

theorem SameValue.refl {x : Binary64} (h : x.isFinite = true) : SameValue x x := by
  obtain ⟨v, hv⟩ := exists_value? h
  exact ⟨v, hv, hv⟩

/-- Numbers of one value are the same number, or the value is zero. -/
theorem SameValue.eq_or_zero {x y : Binary64} (h : SameValue x y) :
    x = y ∨ x.value? = some 0 := by
  obtain ⟨v, hx, hy⟩ := h
  cases x with
  | infinite negative => cases hx
  | nan => cases hx
  | finite negative rank =>
    cases y with
    | infinite negative' => cases hy
    | nan => cases hy
    | finite negative' rank' =>
        have hpos : (quantaPerOne : ℚ) ≠ 0 := Nat.cast_ne_zero.2 (Nat.ne_of_gt quantaPerOne_pos)
        have hsigned : signedQuanta negative rank = signedQuanta negative' rank' := by
          have hquotient := (Option.some.inj hx).trans (Option.some.inj hy).symm
          rw [div_left_inj' hpos] at hquotient
          exact_mod_cast hquotient
        have hquanta : quantaOfRank rank = quantaOfRank rank' := by
          rw [← natAbs_signedQuanta negative, hsigned, natAbs_signedQuanta]
        obtain rfl : rank = rank' := Fin.ext (quantaOfRank_injective hquanta)
        by_cases hsign : negative = negative'
        · exact .inl (by rw [hsign])
        · -- the signed magnitude is its own opposite
          obtain rfl : negative' = !negative := (Bool.eq_not_of_ne fun heq => hsign heq.symm)
          rw [signedQuanta_not] at hsigned
          have hzero : signedQuanta negative rank = 0 := by omega
          right
          rw [value?, hzero, Int.cast_zero, zero_div]

end Binary64

end CompletionGateway
