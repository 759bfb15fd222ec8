import Mathlib.Tactic.Linarith
import Mathlib.Tactic.Ring
import CompletionGateway.Number.Shortest

/-!
# Ranks and their rounding intervals

A rank is a shift and a mantissa: its magnitude is the mantissa times two to the shift.  Whatever
lies in the rounding interval of a rank rounds to it.  At a power of two the interval reaches only
half as far down as up, and what lies below the power is rounded one shift lower.
-/

namespace CompletionGateway

namespace Number

/-- A quotient rounds to a number no further than a half away; to an odd one only if it is nearer
than a half. -/
theorem roundQuotient_eq {num den m : Nat} (hden : 0 < den) (hlow : 2 * m * den ≤ 2 * num + den)
    (hhigh : 2 * num ≤ (2 * m + 1) * den)
    (hodd : m % 2 = 1 → 2 * m * den < 2 * num + den ∧ 2 * num < (2 * m + 1) * den) :
    roundQuotient num den = m := by
  have hdivmod : den * (num / den) + num % den = num := Nat.div_add_mod num den
  have hmod : num % den < den := Nat.mod_lt num hden
  simp only [roundQuotient]
  generalize num / den = q at hdivmod ⊢
  generalize num % den = t at hdivmod hmod ⊢
  have hle : q ≤ m := by
    by_contra hlt
    have hmul : den * (m + 1) ≤ den * q := Nat.mul_le_mul_left den (by omega)
    linarith
  have hge : m ≤ q + 1 := by
    by_contra hlt
    have hmul : den * (q + 2) ≤ den * m := Nat.mul_le_mul_left den (by omega)
    linarith
  rcases Nat.le_iff_lt_or_eq.1 hle with hlt | rfl
  · -- the remainder is at least a half, and if it is a half then the floor is odd
    obtain rfl : m = q + 1 := by omega
    have hhalf : den ≤ 2 * t := by linarith
    rw [if_neg (by omega)]
    split
    · rfl
    · rw [if_neg]
      intro heven
      have hstrict := (hodd (by omega)).1
      linarith
  · have hhalf : 2 * t ≤ den := by linarith
    by_cases hstrict : 2 * t < den
    · rw [if_pos hstrict]
    · rw [if_neg hstrict, if_neg (by omega), if_pos]
      by_contra hne
      have hstrict' := (hodd (by omega)).2
      linarith

end Number

namespace Binary64

theorem ranksPerBinade_even : ranksPerBinade % 2 = 0 := by decide +kernel

/-- The magnitude of a rank that is given by its shift and mantissa. -/
theorem quantaOfRank_shift (shift mantissa : Nat) (hle : mantissa ≤ 2 * ranksPerBinade)
    (hnormal : shift = 0 ∨ ranksPerBinade ≤ mantissa) :
    quantaOfRank (shift * ranksPerBinade + mantissa) = mantissa * 2 ^ shift := by
  have hpos := ranksPerBinade_pos
  by_cases hsub : mantissa < ranksPerBinade
  · obtain rfl : shift = 0 := by omega
    simp [quantaOfRank, hsub]
  · obtain ⟨more, rfl⟩ : ∃ more, mantissa = ranksPerBinade + more :=
      ⟨mantissa - ranksPerBinade, by omega⟩
    have hnot : ¬ shift * ranksPerBinade + (ranksPerBinade + more) < ranksPerBinade := by
      have := Nat.zero_le (shift * ranksPerBinade)
      omega
    rw [quantaOfRank, if_neg hnot]
    by_cases hlast : more < ranksPerBinade
    · have hrank : shift * ranksPerBinade + (ranksPerBinade + more) =
          ranksPerBinade * (shift + 1) + more := by ring
      rw [hrank, Nat.mul_add_mod, Nat.mod_eq_of_lt hlast, Nat.mul_add_div hpos,
        Nat.div_eq_of_lt hlast]
      rfl
    · -- the next power of two
      obtain rfl : more = ranksPerBinade := by omega
      have hrank : shift * ranksPerBinade + (ranksPerBinade + ranksPerBinade) =
          ranksPerBinade * (shift + 2) := by ring
      rw [hrank, Nat.mul_mod_right, Nat.mul_div_cancel_left _ hpos]
      change (ranksPerBinade + 0) * 2 ^ (shift + 1) = _
      ring

/-- Every rank has a shift and a mantissa. -/
theorem exists_shift (rank : Nat) :
    ∃ shift mantissa, rank = shift * ranksPerBinade + mantissa ∧
      (shift = 0 ∨ ranksPerBinade ≤ mantissa) ∧ mantissa < 2 * ranksPerBinade := by
  have hpos := ranksPerBinade_pos
  have hdivmod : ranksPerBinade * (rank / ranksPerBinade) + rank % ranksPerBinade = rank :=
    Nat.div_add_mod rank ranksPerBinade
  have hmod := Nat.mod_lt rank hpos
  cases hshift : rank / ranksPerBinade with
  | zero =>
      rw [hshift, Nat.mul_zero, Nat.zero_add] at hdivmod
      exact ⟨0, rank, by omega, .inl rfl, by omega⟩
  | succ shift =>
      rw [hshift] at hdivmod
      refine ⟨shift, ranksPerBinade + rank % ranksPerBinade, ?_, .inr (by omega), by omega⟩
      rw [← hdivmod, Nat.mul_add_mod_self_left, Nat.mod_mod]
      ring

namespace RoundingInterval

theorem bounds_of_contains {interval : RoundingInterval} {num den : Nat}
    (h : interval.contains num den = true) :
    interval.low * den ≤ num ∧ num ≤ interval.high * den ∧
      (interval.closed = false → interval.low * den < num ∧ num < interval.high * den) := by
  rw [contains] at h
  split at h
  · rename_i hclosed
    simp only [Bool.and_eq_true, decide_eq_true_eq] at h
    exact ⟨h.1, h.2, fun hopen => absurd (hclosed.symm.trans hopen) (by decide)⟩
  · simp only [Bool.and_eq_true, decide_eq_true_eq] at h
    exact ⟨Nat.le_of_lt h.1, Nat.le_of_lt h.2, fun _ => h⟩

theorem contains_of_lt {interval : RoundingInterval} {num den : Nat}
    (hlow : interval.low * den < num) (hhigh : num < interval.high * den) :
    interval.contains num den = true := by
  rw [contains]
  split
  · simp [Nat.le_of_lt hlow, Nat.le_of_lt hhigh]
  · simp [hlow, hhigh]

section Shift

variable {shift mantissa : Nat} (hlt : mantissa < 2 * ranksPerBinade)

include hlt

theorem middle_shift (hnormal : shift = 0 ∨ ranksPerBinade ≤ mantissa) :
    (ofRank (shift * ranksPerBinade + mantissa)).middle = 2 * mantissa * 2 ^ shift := by
  have hthis := quantaOfRank_shift shift mantissa (Nat.le_of_lt hlt) hnormal
  simp only [ofRank, hthis]
  ring

theorem high_shift (hnormal : shift = 0 ∨ ranksPerBinade ≤ mantissa) :
    (ofRank (shift * ranksPerBinade + mantissa)).high = (2 * mantissa + 1) * 2 ^ shift := by
  have hthis := quantaOfRank_shift shift mantissa (Nat.le_of_lt hlt) hnormal
  have habove : quantaOfRank (shift * ranksPerBinade + mantissa + 1) = (mantissa + 1) * 2 ^ shift := by
    rw [Nat.add_assoc]
    exact quantaOfRank_shift shift (mantissa + 1) (by omega) (hnormal.imp_right Nat.le_succ_of_le)
  simp only [ofRank, hthis, habove]
  ring

/-- The next lower magnitude has the same shift. -/
theorem low_shift (hpos : 0 < mantissa) (hinner : shift = 0 ∨ ranksPerBinade < mantissa) :
    (ofRank (shift * ranksPerBinade + mantissa)).low + 2 ^ shift = 2 * mantissa * 2 ^ shift := by
  obtain ⟨below, rfl⟩ : ∃ below, mantissa = below + 1 := ⟨mantissa - 1, by omega⟩
  have hthis := quantaOfRank_shift shift (below + 1) (Nat.le_of_lt hlt)
    (hinner.imp_right Nat.le_of_lt)
  have hbelow := quantaOfRank_shift shift below (by omega) (hinner.imp_right Nat.le_of_lt_succ)
  have hprevious : shift * ranksPerBinade + (below + 1) - 1 = shift * ranksPerBinade + below := by
    omega
  simp only [ofRank, hthis, hprevious, hbelow]
  ring

end Shift

/-- Below a power of two the next lower magnitude has a lower shift. -/
theorem low_power (lower : Nat) :
    (ofRank ((lower + 1) * ranksPerBinade + ranksPerBinade)).low + 2 ^ lower =
      4 * ranksPerBinade * 2 ^ lower := by
  have hpos := ranksPerBinade_pos
  have hthis := quantaOfRank_shift (lower + 1) ranksPerBinade (by omega) (.inr (Nat.le_refl _))
  have hprevious : (lower + 1) * ranksPerBinade + ranksPerBinade - 1 =
      lower * ranksPerBinade + (2 * ranksPerBinade - 1) := by
    have hrank : (lower + 1) * ranksPerBinade + ranksPerBinade =
        lower * ranksPerBinade + 2 * ranksPerBinade := by ring
    omega
  have hbelow := quantaOfRank_shift lower (2 * ranksPerBinade - 1) (Nat.sub_le _ _) (.inr (by omega))
  obtain ⟨below, hdouble⟩ : ∃ below, 2 * ranksPerBinade = below + 1 :=
    ⟨2 * ranksPerBinade - 1, by omega⟩
  simp only [ofRank, hthis, hprevious, hbelow]
  calc
    _ = (2 * ranksPerBinade - 1 + 1 + 2 * ranksPerBinade) * 2 ^ lower := by ring
    _ = 4 * ranksPerBinade * 2 ^ lower := by
      rw [hdouble, Nat.add_sub_cancel, ← hdouble]
      ring

end RoundingInterval

/-- Rounding happens at the shift of the binade. -/
theorem rankNearest_eq {num den shift : Nat}
    (hlow : shift = 0 ∨ ranksPerBinade * 2 ^ shift ≤ num / den)
    (hhigh : num / den < 2 * ranksPerBinade * 2 ^ shift) :
    rankNearest num den =
      shift * ranksPerBinade + Number.roundQuotient num (den * 2 ^ shift) := by
  have hR : ranksPerBinade = 2 ^ 52 := rfl
  have hdouble : 2 * ranksPerBinade * 2 ^ shift = 2 ^ (53 + shift) := by rw [hR]; ring
  -- the bounds leave one number of bits for the quotient, or one shift for few bits
  have hlog : (num / den).log2 - 52 = shift := by
    rw [hdouble] at hhigh
    by_cases hzero : num / den = 0
    · rw [hzero, Nat.log2_zero]
      rcases hlow with rfl | hlow
      · rfl
      · have hpos : 0 < ranksPerBinade * 2 ^ shift :=
          Nat.mul_pos ranksPerBinade_pos (Nat.two_pow_pos shift)
        omega
    · have hupper : (num / den).log2 < 53 + shift := (Nat.log2_lt hzero).2 hhigh
      rcases hlow with rfl | hlow
      · omega
      · have hlower : 52 + shift ≤ (num / den).log2 := by
          rw [Nat.le_log2 hzero, Nat.pow_add]
          exact hlow
        omega
  simp only [rankNearest, hlog]
  rfl

/-- A quotient of few bits has a small rank. -/
theorem rankNearest_le {num den shift : Nat} (h : num / den < 2 * ranksPerBinade * 2 ^ shift) :
    rankNearest num den ≤ (shift + 2) * ranksPerBinade := by
  have hR : ranksPerBinade = 2 ^ 52 := rfl
  have hbits : 2 * ranksPerBinade * 2 ^ shift = 2 ^ (53 + shift) := by rw [hR]; ring
  rw [hbits] at h
  have hlog : (num / den).log2 - 52 ≤ shift := by
    by_cases hzero : num / den = 0
    · rw [hzero, Nat.log2_zero]
      exact Nat.zero_le _
    · have hlt := (Nat.log2_lt hzero).2 h
      omega
  -- the shift is chosen such that the mantissa has no more than 53 bits
  have hself : num / den < 2 * ranksPerBinade * 2 ^ ((num / den).log2 - 52) := by
    have hmore : (2 : Nat) ^ ((num / den).log2 + 1) ≤
        2 ^ (53 + ((num / den).log2 - 52)) := Nat.pow_le_pow_right (by decide) (by omega)
    have hdouble : 2 * ranksPerBinade * 2 ^ ((num / den).log2 - 52) =
        2 ^ (53 + ((num / den).log2 - 52)) := by rw [hR]; ring
    rw [hdouble]
    exact Nat.lt_of_lt_of_le Nat.lt_log2_self hmore
  simp only [rankNearest]
  generalize (num / den).log2 - 52 = lower at hlog hself ⊢
  have hround := Number.roundQuotient_le_div_add_one num (den * 2 ^ lower)
  have hquotient : num / (den * 2 ^ lower) < 2 * ranksPerBinade := by
    rw [← Nat.div_div_eq_div_mul]
    exact (Nat.div_lt_iff_lt_mul (Nat.two_pow_pos lower)).2 hself
  have hmul : lower * ranksPerBinade ≤ shift * ranksPerBinade := Nat.mul_le_mul_right _ hlog
  rw [Nat.add_mul]
  rw [Nat.pow_eq]
  omega

/-- Rounding at a given shift to a given mantissa. -/
theorem rankNearest_of_bounds {num den : Nat} (shift mantissa : Nat) (hden : 0 < den)
    (hfloor : shift = 0 ∨ ranksPerBinade * 2 ^ shift * den ≤ num)
    (hceil : num < 2 * ranksPerBinade * 2 ^ shift * den)
    (hlow : 2 * mantissa * (den * 2 ^ shift) ≤ 2 * num + den * 2 ^ shift)
    (hhigh : 2 * num ≤ (2 * mantissa + 1) * (den * 2 ^ shift))
    (hodd : mantissa % 2 = 1 → 2 * mantissa * (den * 2 ^ shift) < 2 * num + den * 2 ^ shift ∧
      2 * num < (2 * mantissa + 1) * (den * 2 ^ shift)) :
    rankNearest num den = shift * ranksPerBinade + mantissa := by
  rw [rankNearest_eq (hfloor.imp_right (Nat.le_div_iff_mul_le hden).2)
    ((Nat.div_lt_iff_lt_mul hden).2 hceil),
    Number.roundQuotient_eq (Nat.mul_pos hden (Nat.two_pow_pos shift)) hlow hhigh hodd]

section Contains

variable {shift mantissa num den : Nat} (hden : 0 < den)

include hden

/-- What lies in the interval is at most half a unit above the magnitude, and if the mantissa is odd
it lies inside of both ends. -/
theorem upper_of_contains (hmantissa : mantissa < 2 * ranksPerBinade)
    (hnormal : shift = 0 ∨ ranksPerBinade ≤ mantissa)
    (h : (RoundingInterval.ofRank (shift * ranksPerBinade + mantissa)).contains (2 * num) den = true) :
    num < 2 * ranksPerBinade * 2 ^ shift * den ∧
      2 * num ≤ (2 * mantissa + 1) * (den * 2 ^ shift) ∧
        (mantissa % 2 = 1 →
          (RoundingInterval.ofRank (shift * ranksPerBinade + mantissa)).low * den < 2 * num ∧
            2 * num < (2 * mantissa + 1) * (den * 2 ^ shift)) := by
  obtain ⟨-, hhigh, hopen⟩ := RoundingInterval.bounds_of_contains h
  have hhighEq : (RoundingInterval.ofRank (shift * ranksPerBinade + mantissa)).high * den =
      (2 * mantissa + 1) * (den * 2 ^ shift) := by
    rw [RoundingInterval.high_shift hmantissa hnormal]
    ring
  rw [hhighEq] at hhigh hopen
  refine ⟨?_, hhigh, fun hodd => hopen ?_⟩
  · have hpos : 0 < 2 ^ shift * den := Nat.mul_pos (Nat.two_pow_pos shift) hden
    have hmul : (2 * mantissa + 1) * (2 ^ shift * den) <
        (4 * ranksPerBinade) * (2 ^ shift * den) := Nat.mul_lt_mul_of_pos_right (by omega) hpos
    linarith
  · -- the rank of an odd mantissa is odd, since a binade has an even number of ranks
    have hparity : (shift * ranksPerBinade + mantissa) % 2 = 1 := by
      rw [Nat.add_mod, Nat.mul_mod, ranksPerBinade_even, Nat.mul_zero, hodd]
    simp [RoundingInterval.ofRank, hparity]

/-- Above a power of two both halves of the interval are half a unit wide. -/
theorem rankNearest_of_inner (hmantissa : mantissa < 2 * ranksPerBinade) (hpos : 0 < mantissa)
    (hinner : shift = 0 ∨ ranksPerBinade < mantissa)
    (h : (RoundingInterval.ofRank (shift * ranksPerBinade + mantissa)).contains (2 * num) den = true) :
    rankNearest num den = shift * ranksPerBinade + mantissa := by
  obtain ⟨hceil, hhigh, hopen⟩ := upper_of_contains hden hmantissa (hinner.imp_right Nat.le_of_lt) h
  have hlow := (RoundingInterval.bounds_of_contains h).1
  have hlowEq : (RoundingInterval.ofRank (shift * ranksPerBinade + mantissa)).low * den +
      den * 2 ^ shift = 2 * mantissa * (den * 2 ^ shift) := by
    have hunit := RoundingInterval.low_shift hmantissa hpos hinner
    calc
      _ = ((RoundingInterval.ofRank (shift * ranksPerBinade + mantissa)).low + 2 ^ shift) * den := by
        ring
      _ = 2 * mantissa * (den * 2 ^ shift) := by
        rw [hunit]
        ring
  have hfloor : shift = 0 ∨ ranksPerBinade * 2 ^ shift * den ≤ num := by
    refine hinner.imp_right fun hlt => ?_
    have hmul : (2 * ranksPerBinade + 2) * (2 ^ shift * den) ≤
        2 * mantissa * (2 ^ shift * den) := Nat.mul_le_mul_right _ (by omega)
    linarith
  refine rankNearest_of_bounds shift mantissa hden hfloor hceil (by omega) hhigh fun hodd => ?_
  obtain ⟨hleft, hright⟩ := hopen hodd
  exact ⟨by omega, hright⟩

/-- At a power of two, what lies below it is rounded one shift lower, up to the power. -/
theorem rankNearest_of_power {lower : Nat}
    (h : (RoundingInterval.ofRank ((lower + 1) * ranksPerBinade + ranksPerBinade)).contains
      (2 * num) den = true) :
    rankNearest num den = (lower + 1) * ranksPerBinade + ranksPerBinade := by
  have heven := ranksPerBinade_even
  obtain ⟨hceil, hhigh, -⟩ := upper_of_contains hden (by have := ranksPerBinade_pos; omega)
    (.inr (Nat.le_refl _)) h
  have hlow := (RoundingInterval.bounds_of_contains h).1
  -- above the power the shift is its own, and below it one less
  by_cases hfloor : ranksPerBinade * 2 ^ (lower + 1) * den ≤ num
  · refine rankNearest_of_bounds (lower + 1) ranksPerBinade hden (.inr hfloor) hceil ?_ hhigh
      fun hodd => by omega
    rw [Nat.mul_assoc] at hfloor
    rw [Nat.mul_assoc, Nat.mul_comm den]
    omega
  have hrank : (lower + 1) * ranksPerBinade + ranksPerBinade =
      lower * ranksPerBinade + 2 * ranksPerBinade := by ring
  have hlowEq : (RoundingInterval.ofRank ((lower + 1) * ranksPerBinade + ranksPerBinade)).low *
      den + den * 2 ^ lower = 4 * ranksPerBinade * (den * 2 ^ lower) := by
    have hunit := RoundingInterval.low_power lower
    calc
      _ = ((RoundingInterval.ofRank ((lower + 1) * ranksPerBinade + ranksPerBinade)).low +
          2 ^ lower) * den := by ring
      _ = 4 * ranksPerBinade * (den * 2 ^ lower) := by
        rw [hunit]
        ring
  have hceil' : num < 2 * ranksPerBinade * 2 ^ lower * den := by
    rw [Nat.pow_succ] at hfloor
    linarith
  have hmul : 1 * (den * 2 ^ lower) ≤ ranksPerBinade * (den * 2 ^ lower) :=
    Nat.mul_le_mul_right _ ranksPerBinade_pos
  rw [hrank]
  refine rankNearest_of_bounds lower (2 * ranksPerBinade) hden (.inr ?_) hceil' ?_ ?_
    fun hodd => by omega
  all_goals linarith

/-- Whatever lies in the rounding interval of a rank rounds to it. -/
theorem rankNearest_of_contains {rank : Nat} (hrank : 0 < rank)
    (h : (RoundingInterval.ofRank rank).contains (2 * num) den = true) :
    rankNearest num den = rank := by
  obtain ⟨shift, mantissa, rfl, hnormal, hmantissa⟩ := exists_shift rank
  by_cases hinner : shift = 0 ∨ ranksPerBinade < mantissa
  · have hpos : 0 < mantissa := by
      rcases hinner with rfl | hlt
      · simpa using hrank
      · omega
    exact rankNearest_of_inner hden hmantissa hpos hinner h
  · obtain ⟨lower, rfl⟩ : ∃ lower, shift = lower + 1 := ⟨shift - 1, by omega⟩
    obtain rfl : mantissa = ranksPerBinade := by omega
    exact rankNearest_of_power hden h

end Contains

end Binary64

end CompletionGateway
