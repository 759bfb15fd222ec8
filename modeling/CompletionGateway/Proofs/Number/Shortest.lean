import CompletionGateway.Proofs.Number.Digits
import CompletionGateway.Proofs.Number.Rank

/-!
# The shortest decimal reads back

Seventeen digits are enough: on that grid one of the two decimals next to a magnitude lies in its
rounding interval.  So the search ends with a decimal of the interval, and every such decimal, with
zeros at its end or without them, reads as the number.
-/

namespace CompletionGateway

open Binary64

/-- Whether the magnitude of a decimal lies in a rounding interval. -/
def Decimal.LiesIn (d : Decimal) (interval : RoundingInterval) : Prop :=
  interval.contains (d.coefficient * ((powerOfTen d.exponent).1 * halfQuantaPerOne))
    (powerOfTen d.exponent).2 = true

namespace Binary64

theorem powerOfTen_of_nonneg {exponent : Int} (h : 0 ≤ exponent) :
    powerOfTen exponent = (10 ^ exponent.toNat, 1) := by
  rw [powerOfTen, if_pos h]
  rfl

theorem powerOfTen_of_neg {exponent : Int} (h : exponent < 0) :
    powerOfTen exponent = (1, 10 ^ (-exponent).toNat) := by
  rw [powerOfTen, if_neg (by omega)]
  rfl

theorem powerOfTen_pos (exponent : Int) :
    0 < (powerOfTen exponent).1 ∧ 0 < (powerOfTen exponent).2 := by
  by_cases h : 0 ≤ exponent
  · rw [powerOfTen_of_nonneg h]
    exact ⟨Nat.pow_pos (by decide), Nat.one_pos⟩
  · rw [powerOfTen_of_neg (by omega)]
    exact ⟨Nat.one_pos, Nat.pow_pos (by decide)⟩

/-- Powers of ten multiply, as fractions. -/
theorem powerOfTen_sub (exponent : Int) (places : Nat) :
    (powerOfTen exponent).1 * (powerOfTen (exponent - places)).2 =
      10 ^ places * (powerOfTen (exponent - places)).1 * (powerOfTen exponent).2 := by
  by_cases h : 0 ≤ exponent - places
  · obtain ⟨more, hmore⟩ : ∃ more : Nat, exponent = more + places :=
      ⟨(exponent - places).toNat, by omega⟩
    rw [powerOfTen_of_nonneg h, powerOfTen_of_nonneg (show 0 ≤ exponent by omega)]
    have htotal : exponent.toNat = places + more := by omega
    have hrest : (exponent - places).toNat = more := by omega
    rw [htotal, hrest, Nat.pow_add]
  · rw [powerOfTen_of_neg (show exponent - (places : Int) < 0 by omega)]
    by_cases hexponent : 0 ≤ exponent
    · rw [powerOfTen_of_nonneg hexponent]
      have hplaces : places = exponent.toNat + (-(exponent - places)).toNat := by omega
      rw [Nat.mul_one, Nat.mul_one, ← Nat.pow_add, ← hplaces]
    · rw [powerOfTen_of_neg (by omega)]
      have hplaces : (-(exponent - places)).toNat = places + (-exponent).toNat := by omega
      rw [Nat.one_mul, Nat.mul_one, hplaces, Nat.pow_add]

namespace RoundingInterval

/-- Only the quotient counts. -/
theorem contains_congr (interval : RoundingInterval) {num den num' den' : Nat} (hden : 0 < den)
    (hden' : 0 < den') (h : num * den' = num' * den) :
    interval.contains num den = interval.contains num' den' := by
  have hle : ∀ bound, bound * den ≤ num ↔ bound * den' ≤ num' := fun bound =>
    calc
      bound * den ≤ num ↔ bound * den * den' ≤ num * den' := (Nat.mul_le_mul_right_iff hden').symm
      _ ↔ bound * den' * den ≤ num' * den := by rw [h, Nat.mul_right_comm]
      _ ↔ bound * den' ≤ num' := Nat.mul_le_mul_right_iff hden
  have hge : ∀ bound, num ≤ bound * den ↔ num' ≤ bound * den' := fun bound =>
    calc
      num ≤ bound * den ↔ num * den' ≤ bound * den * den' := (Nat.mul_le_mul_right_iff hden').symm
      _ ↔ num' * den ≤ bound * den' * den := by rw [h, Nat.mul_right_comm]
      _ ↔ num' ≤ bound * den' := Nat.mul_le_mul_right_iff hden
  simp only [contains, ← Nat.not_le, hle, hge]

end RoundingInterval

end Binary64

namespace Decimal

/-- Zeros at the end of the coefficient do not matter, nor does the sign. -/
theorem liesIn_shift (interval : RoundingInterval) (negative negative' : Bool) (coefficient : Nat)
    (exponent : Int) (places : Nat) :
    LiesIn ⟨negative, coefficient * 10 ^ places, exponent - places⟩ interval ↔
      LiesIn ⟨negative', coefficient, exponent⟩ interval := by
  have hpower := powerOfTen_sub exponent places
  rw [LiesIn, LiesIn, interval.contains_congr (powerOfTen_pos _).2 (powerOfTen_pos _).2]
  simp only
  calc
    _ = coefficient * halfQuantaPerOne *
        (10 ^ places * (powerOfTen (exponent - places)).1 * (powerOfTen exponent).2) := by ring
    _ = _ := by
      rw [← hpower]
      ring

end Decimal

namespace Binary64

/-! ### The search -/

/-- What is found on a grid lies in the interval. -/
theorem liesIn_of_gridHit? {interval : RoundingInterval} {exponent : Int} {coefficient : Nat}
    (h : gridHit? interval exponent = some coefficient) :
    Decimal.LiesIn ⟨false, coefficient, exponent⟩ interval := by
  rw [Decimal.LiesIn]
  simp only [gridHit?] at h
  split at h
  · rename_i hbelow habove
    split at h
    · cases h
      exact hbelow
    · split at h
      · cases h
        exact habove
      · split at h <;> cases h
        · exact hbelow
        · exact habove
  · rename_i hbelow _
    cases h
    exact hbelow
  · rename_i _ habove
    cases h
    exact habove
  · cases h

theorem gridHit?_isSome_of_contains {interval : RoundingInterval} {exponent : Int} {step den : Nat}
    (hstep : step = (powerOfTen exponent).1 * halfQuantaPerOne)
    (hden : den = (powerOfTen exponent).2)
    (h : interval.contains (interval.middle * den / step * step) den = true ∨
      interval.contains ((interval.middle * den / step + 1) * step) den = true) :
    (gridHit? interval exponent).isSome = true := by
  simp only [gridHit?, ← hstep, ← hden]
  split
  · split
    · rfl
    · split <;> rfl
  · rfl
  · rfl
  · rename_i hbelow habove
    rcases h with h | h
    · exact absurd (h.symm.trans hbelow) (by decide)
    · exact absurd (h.symm.trans habove) (by decide)

/-- If the step is less than the width of the interval, or at a power of two less than its upper
half, a neighbour of the middle lies inside. -/
theorem contains_neighbour {interval : RoundingInterval} {step den unit : Nat} (hstep : 0 < step)
    (hhigh : interval.high * den = interval.middle * den + unit)
    (hlow : interval.low * den + unit = interval.middle * den ∧ step < 2 * unit ∨
      interval.low * den < interval.middle * den ∧ step < unit) :
    interval.contains (interval.middle * den / step * step) den = true ∨
      interval.contains ((interval.middle * den / step + 1) * step) den = true := by
  have hdivmod : interval.middle * den / step * step + interval.middle * den % step =
      interval.middle * den := Nat.div_add_mod' _ _
  have hmod : interval.middle * den % step < step := Nat.mod_lt _ hstep
  have hsucc : (interval.middle * den / step + 1) * step =
      interval.middle * den / step * step + step := Nat.succ_mul _ _
  rw [hsucc]
  rcases hlow with ⟨hlow, hwide⟩ | ⟨hlow, hwide⟩
  · by_cases hnear : interval.middle * den % step < unit
    · exact .inl (RoundingInterval.contains_of_lt (by omega) (by omega))
    · exact .inr (RoundingInterval.contains_of_lt (by omega) (by omega))
  · exact .inr (RoundingInterval.contains_of_lt (by omega) (by omega))

/-- On a grid whose step is less than `10 ^ -16` of a magnitude, a neighbour of the magnitude lies
in its interval. -/
theorem isSome_gridHit? {rank : Nat} (hrank : 0 < rank) {exponent : Int}
    (hfine : (powerOfTen exponent).1 * halfQuantaPerOne * 10 ^ 16 ≤
      (RoundingInterval.ofRank rank).middle * (powerOfTen exponent).2) :
    (gridHit? (.ofRank rank) exponent).isSome = true := by
  obtain ⟨shift, mantissa, rfl, hnormal, hmantissa⟩ := exists_shift rank
  have hR : ranksPerBinade = 4503599627370496 := by decide +kernel
  have hden := (powerOfTen_pos exponent).2
  have hstep : 0 < (powerOfTen exponent).1 * halfQuantaPerOne :=
    Nat.mul_pos (powerOfTen_pos exponent).1 (by decide +kernel)
  apply gridHit?_isSome_of_contains rfl rfl
  generalize (powerOfTen exponent).1 * halfQuantaPerOne = step at hfine hstep ⊢
  generalize (powerOfTen exponent).2 = den at hfine hden ⊢
  have hunit : 0 < 2 ^ shift * den := Nat.mul_pos (Nat.two_pow_pos shift) hden
  have hmiddle : (RoundingInterval.ofRank (shift * ranksPerBinade + mantissa)).middle * den =
      2 * mantissa * (2 ^ shift * den) := by
    rw [RoundingInterval.middle_shift hmantissa hnormal, Nat.mul_assoc]
  have hhigh : (RoundingInterval.ofRank (shift * ranksPerBinade + mantissa)).high * den =
      (RoundingInterval.ofRank (shift * ranksPerBinade + mantissa)).middle * den +
        2 ^ shift * den := by
    rw [hmiddle, RoundingInterval.high_shift hmantissa hnormal]
    ring
  refine contains_neighbour hstep hhigh ?_
  rw [hmiddle] at hfine ⊢
  by_cases hinner : shift = 0 ∨ ranksPerBinade < mantissa
  · have hpos : 0 < mantissa := by
      rcases hinner with rfl | hlt
      · simpa using hrank
      · omega
    refine .inl ⟨?_, ?_⟩
    · rw [← Nat.add_mul, RoundingInterval.low_shift hmantissa hpos hinner, Nat.mul_assoc]
    · have hmul : 2 * mantissa * (2 ^ shift * den) ≤ 2 * 9007199254740992 * (2 ^ shift * den) :=
        Nat.mul_le_mul_right _ (by omega)
      omega
  -- at a power of two only the upper half of the interval is a unit wide
  · obtain ⟨lower, rfl⟩ : ∃ lower, shift = lower + 1 := ⟨shift - 1, by omega⟩
    obtain rfl : mantissa = ranksPerBinade := by omega
    have hlow := RoundingInterval.low_power lower
    refine .inr ⟨?_, ?_⟩
    · have hless : (RoundingInterval.ofRank ((lower + 1) * ranksPerBinade + ranksPerBinade)).low <
          2 * ranksPerBinade * 2 ^ (lower + 1) := by
        have hpos := Nat.two_pow_pos lower
        rw [Nat.pow_succ]
        linarith
      rw [← Nat.mul_assoc]
      exact Nat.mul_lt_mul_of_pos_right hless hden
    · rw [hR] at hfine
      omega

/-- The search finds a decimal of the interval, if the last grid has one. -/
theorem searchGrids_liesIn {interval : RoundingInterval} {leading : Int} (more length : Nat)
    (h : (gridHit? interval (leading - (length + more : Nat) + 1)).isSome = true) :
    (searchGrids interval leading more length).LiesIn interval := by
  induction more generalizing length with
  | zero =>
      obtain ⟨coefficient, hhit⟩ := Option.isSome_iff_exists.1 h
      rw [Nat.add_zero] at hhit
      simp only [searchGrids, hhit, Option.getD_some]
      exact liesIn_of_gridHit? hhit
  | succ more ih =>
      rw [searchGrids]
      split
      · rename_i coefficient hhit
        exact liesIn_of_gridHit? hhit
      · refine ih (length + 1) ?_
        rw [Nat.add_right_comm]
        exact h

/-- The exponent of the first digit is not too large. -/
theorem pow_leading_le {rank : Nat} (hrank : 0 < rank) :
    ∃ length : Nat, leadingExponent rank = (length : Int) - 340 ∧
      10 ^ length * quantaPerOne ≤ quantaOfRank rank * 10 ^ 340 := by
  have hquanta := quantaOfRank_pos hrank
  have hpower : quantaPerOne ≤ 10 ^ 340 := by decide +kernel
  have hle : quantaPerOne ≤ quantaOfRank rank * 10 ^ 340 :=
    Nat.le_trans hpower (Nat.le_mul_of_pos_left _ hquanta)
  have hpos : 0 < quantaOfRank rank * 10 ^ 340 / quantaPerOne := Nat.div_pos hle quantaPerOne_pos
  have hlength := Decimal.length_writeNat_pos (quantaOfRank rank * 10 ^ 340 / quantaPerOne)
  refine ⟨(Decimal.writeNat (quantaOfRank rank * 10 ^ 340 / quantaPerOne)).length - 1, ?_, ?_⟩
  · simp only [leadingExponent, Nat.pow_eq]
    generalize (Decimal.writeNat (quantaOfRank rank * 10 ^ 340 / quantaPerOne)).length = count
      at hlength ⊢
    omega
  · exact (Nat.le_div_iff_mul_le quantaPerOne_pos).1 (Decimal.pow_length_writeNat_le hpos)

/-- The shortest decimal lies in the interval of its rank. -/
theorem shortestDecimal_liesIn {rank : Nat} (hrank : 0 < rank) :
    (shortestDecimal rank).LiesIn (.ofRank rank) := by
  refine searchGrids_liesIn 16 1 (isSome_gridHit? hrank ?_)
  obtain ⟨length, hleading, hle⟩ := pow_leading_le hrank
  have hmiddle : (RoundingInterval.ofRank rank).middle = 2 * quantaOfRank rank := rfl
  have hhalf : halfQuantaPerOne = 2 * quantaPerOne := rfl
  rw [hleading, hmiddle, hhalf]
  clear hmiddle hhalf hleading
  generalize quantaPerOne = one at hle ⊢
  generalize quantaOfRank rank = quanta at hle ⊢
  -- the last grid has the exponent `length - 356`
  by_cases hexponent : 356 ≤ length
  · obtain ⟨more, rfl⟩ : ∃ more, length = 356 + more := ⟨length - 356, by omega⟩
    have hsame : ((356 + more : Nat) : Int) - 340 - ((1 + 16 : Nat) : Int) + 1 = (more : Nat) := by
      omega
    rw [hsame, powerOfTen_of_nonneg (Int.natCast_nonneg more), Int.toNat_natCast]
    have hsplit : (10 : Nat) ^ (356 + more) = 10 ^ 16 * 10 ^ more * 10 ^ 340 := by
      rw [← Nat.pow_add, ← Nat.pow_add]
      congr 1
      omega
    rw [hsplit, Nat.mul_right_comm] at hle
    have hcancel := Nat.le_of_mul_le_mul_right hle (Nat.pow_pos (n := 340) (Nat.succ_pos 9))
    calc
      10 ^ more * (2 * one) * 10 ^ 16 = 2 * (10 ^ 16 * 10 ^ more * one) := by ring
      _ ≤ 2 * quanta * 1 := by
        rw [Nat.mul_one]
        exact Nat.mul_le_mul_left 2 hcancel
  · obtain ⟨less, hless⟩ : ∃ less, length + less = 356 := ⟨356 - length, by omega⟩
    have hsame : (length : Int) - 340 - ((1 + 16 : Nat) : Int) + 1 = -(less : Nat) := by omega
    rw [hsame, powerOfTen_of_neg (by omega), Int.neg_neg, Int.toNat_natCast]
    have hmul := Nat.mul_le_mul_right (10 ^ less) hle
    have hsplit : 10 ^ length * one * 10 ^ less = 10 ^ 16 * one * 10 ^ 340 := by
      rw [Nat.mul_right_comm, ← Nat.pow_add, hless, Nat.mul_right_comm, ← Nat.pow_add]
    rw [hsplit, Nat.mul_right_comm quanta] at hmul
    have hcancel := Nat.le_of_mul_le_mul_right hmul (Nat.pow_pos (n := 340) (Nat.succ_pos 9))
    calc
      1 * (2 * one) * 10 ^ 16 = 2 * (10 ^ 16 * one) := by ring
      _ ≤ 2 * quanta * 10 ^ less := by
        rw [Nat.mul_assoc]
        exact Nat.mul_le_mul_left 2 hcancel

end Binary64

namespace Decimal

variable {d : Decimal} {rank : Nat}

/-- Zero lies in no rounding interval of a positive rank. -/
theorem coefficient_ne_zero_of_liesIn (hrank : 0 < rank) (h : d.LiesIn (.ofRank rank)) :
    d.coefficient ≠ 0 := by
  intro hzero
  have hlow : 0 < (RoundingInterval.ofRank rank).low :=
    Nat.add_pos_right _ (quantaOfRank_pos hrank)
  have hbound := (RoundingInterval.bounds_of_contains h).1
  rw [hzero, Nat.zero_mul] at hbound
  have hpos := Nat.mul_pos hlow (powerOfTen_pos d.exponent).2
  omega

/-- The upper end of the interval of a finite rank is less than `2 ^ 1024`. -/
theorem high_lt (hfinite : rank < finiteRanks) :
    (RoundingInterval.ofRank rank).high < 2 ^ 1024 * halfQuantaPerOne := by
  obtain ⟨shift, mantissa, rfl, hnormal, hmantissa⟩ := exists_shift rank
  have hpos := ranksPerBinade_pos
  have hshift : shift ≤ 2045 := by
    rcases hnormal with rfl | hnormal
    · exact Nat.zero_le _
    · by_contra hlarge
      have hmul : 2046 * ranksPerBinade ≤ shift * ranksPerBinade :=
        Nat.mul_le_mul_right _ (by omega)
      have hall : finiteRanks = 2047 * ranksPerBinade := rfl
      omega
  have htop : 4 * ranksPerBinade * 2 ^ 2045 = 2 ^ 1024 * halfQuantaPerOne := by decide +kernel
  rw [RoundingInterval.high_shift hmantissa hnormal, ← htop]
  exact Nat.mul_lt_mul_of_lt_of_le (by omega) (Nat.pow_le_pow_right (by decide) hshift)
    (Nat.two_pow_pos 2045)

/-- A decimal of the rounding interval of a finite rank is less than `10 ^ 309`. -/
theorem lt_of_liesIn (hfinite : rank < finiteRanks) (h : d.LiesIn (.ofRank rank)) :
    d.coefficient * (powerOfTen d.exponent).1 < 10 ^ 309 * (powerOfTen d.exponent).2 := by
  have hhigh := (RoundingInterval.bounds_of_contains h).2.1
  have htop := high_lt hfinite
  have hten : 2 ^ 1024 * halfQuantaPerOne ≤ 10 ^ 309 * halfQuantaPerOne := by decide +kernel
  have hden := (powerOfTen_pos d.exponent).2
  generalize (RoundingInterval.ofRank rank).high = high at htop hhigh
  generalize 2 ^ 1024 * halfQuantaPerOne = top at htop hten
  generalize halfQuantaPerOne = half at hten hhigh
  refine Nat.lt_of_mul_lt_mul_right (a := half) ?_
  calc
    _ = d.coefficient * ((powerOfTen d.exponent).1 * half) := Nat.mul_assoc _ _ _
    _ ≤ high * (powerOfTen d.exponent).2 := hhigh
    _ < 10 ^ 309 * half * (powerOfTen d.exponent).2 :=
      Nat.mul_lt_mul_of_pos_right (Nat.lt_of_lt_of_le htop hten) hden
    _ = _ := Nat.mul_right_comm _ _ _

/-- A decimal of the rounding interval of a positive rank is at least `10 ^ -324`. -/
theorem le_of_liesIn (hrank : 0 < rank) (h : d.LiesIn (.ofRank rank)) :
    (powerOfTen d.exponent).2 ≤ d.coefficient * ((powerOfTen d.exponent).1 * 10 ^ 324) := by
  have hlow := (RoundingInterval.bounds_of_contains h).1
  have hbottom : 0 < (RoundingInterval.ofRank rank).low :=
    Nat.add_pos_right _ (quantaOfRank_pos hrank)
  have hhalf : halfQuantaPerOne ≤ 10 ^ 324 := by decide +kernel
  generalize (RoundingInterval.ofRank rank).low = low at hbottom hlow
  generalize halfQuantaPerOne = half at hhalf hlow
  calc
    _ ≤ low * (powerOfTen d.exponent).2 := Nat.le_mul_of_pos_left _ hbottom
    _ ≤ d.coefficient * ((powerOfTen d.exponent).1 * half) := hlow
    _ ≤ _ := Nat.mul_le_mul_left _ (Nat.mul_le_mul_left _ hhalf)

/-- A decimal of the rounding interval of a finite rank is in range. -/
theorem magnitude_of_liesIn (hrank : 0 < rank) (hfinite : rank < finiteRanks)
    (h : d.LiesIn (.ofRank rank)) :
    (writeNat d.coefficient).length + d.exponent ≤ 310 ∧
      -330 ≤ (writeNat d.coefficient).length + d.exponent := by
  have hcoefficient := Nat.pos_of_ne_zero (coefficient_ne_zero_of_liesIn hrank h)
  have hleast := pow_length_writeNat_le hcoefficient
  have hmost := lt_pow_length_writeNat d.coefficient
  have hlength := length_writeNat_pos d.coefficient
  have hupper := lt_of_liesIn hfinite h
  have hlower := le_of_liesIn hrank h
  generalize (writeNat d.coefficient).length = length at hleast hmost hlength ⊢
  have hbase : 1 < 10 := by decide
  -- the number of digits bounds the coefficient on both sides, so the exponents can be compared
  by_cases hexponent : 0 ≤ d.exponent
  · rw [powerOfTen_of_nonneg hexponent, Nat.mul_one] at hupper
    have hpow : 10 ^ (length - 1 + d.exponent.toNat) < 10 ^ 309 := by
      rw [Nat.pow_add]
      exact Nat.lt_of_le_of_lt (Nat.mul_le_mul_right _ hleast) hupper
    have hlt := (Nat.pow_lt_pow_iff_right hbase).1 hpow
    omega
  · rw [powerOfTen_of_neg (by omega), Nat.mul_one, ← Nat.pow_add] at hupper
    rw [powerOfTen_of_neg (by omega), Nat.one_mul] at hlower
    have hlt := (Nat.pow_lt_pow_iff_right hbase).1 (Nat.lt_of_le_of_lt hleast hupper)
    have hpow : 10 ^ (-d.exponent).toNat < 10 ^ (length + 324) := by
      rw [Nat.pow_add]
      exact Nat.lt_of_le_of_lt hlower (Nat.mul_lt_mul_of_pos_right hmost (Nat.pow_pos (by decide)))
    have hlt' := (Nat.pow_lt_pow_iff_right hbase).1 hpow
    omega

/-- A decimal of the rounding interval of a finite rank reads as that rank. -/
theorem toBinary64_of_liesIn (hrank : 0 < rank) (hfinite : rank < finiteRanks)
    (h : d.LiesIn (.ofRank rank)) : d.toBinary64 = .finite d.negative ⟨rank, hfinite⟩ := by
  obtain ⟨hupper, hlower⟩ := magnitude_of_liesIn hrank hfinite h
  have hround : ∀ num den, 0 < den →
      (RoundingInterval.ofRank rank).contains (num * halfQuantaPerOne) den = true →
        Binary64.ofQuotient d.negative num den = .finite d.negative ⟨rank, hfinite⟩ := by
    intro num den hden hcontains
    have hnum : num * halfQuantaPerOne = 2 * (num * quantaPerOne) := Nat.mul_left_comm _ _ _
    rw [hnum] at hcontains
    rw [Binary64.ofQuotient, rankNearest_of_contains hden hrank hcontains, ofRank, dif_pos hfinite]
  rw [LiesIn] at h
  rw [toBinary64, if_neg (coefficient_ne_zero_of_liesIn hrank h)]
  simp only
  rw [if_neg (by omega), if_neg (by omega)]
  by_cases hexponent : 0 ≤ d.exponent
  · rw [powerOfTen_of_nonneg hexponent, ← Nat.mul_assoc] at h
    rw [if_pos hexponent, Binary64.ofNat, Nat.pow_eq]
    exact hround _ 1 Nat.one_pos h
  · rw [powerOfTen_of_neg (by omega), Nat.one_mul] at h
    rw [if_neg hexponent, Nat.pow_eq]
    exact hround _ _ (Nat.pow_pos (by decide)) h

end Decimal

end CompletionGateway
