import CompletionGateway.Number.Rounding

/-!
# Numbers in the IEEE binary64 format

Every finite magnitude is a whole number of quanta of `2 ^ -1074`, and the magnitudes are numbered
by rank in increasing order: rank 0 is zero, rank 1 one quantum.  The rank is also what the format
stores below the sign bit, so neighbours differ by one, ties to even compare ranks, and all
arithmetic is exact arithmetic on natural numbers followed by one rounding.
-/

namespace CompletionGateway

namespace Binary64

/-- The number of ranks from one power of two to the next. -/
def ranksPerBinade : Nat := Nat.pow 2 52

/-- The number of finite magnitudes. -/
def finiteRanks : Nat := 2047 * ranksPerBinade

/-- The number of quanta in one. -/
def quantaPerOne : Nat := Nat.pow 2 1074

/-- The magnitude of a given rank, in quanta. -/
def quantaOfRank (rank : Nat) : Nat :=
  if rank < ranksPerBinade then rank
  else (ranksPerBinade + rank % ranksPerBinade) * Nat.pow 2 (rank / ranksPerBinade - 1)

/-- The rank of the magnitude nearest to `num / den` quanta; a half goes to the even rank.  Ranks
from `finiteRanks` on mean that the quotient is out of range. -/
def rankNearest (num den : Nat) : Nat :=
  let shift := (num / den).log2 - 52
  shift * ranksPerBinade + Number.roundQuotient num (den * Nat.pow 2 shift)

/-- The rank nearest to the product of two magnitudes. -/
def rankOfProduct (left right : Nat) : Nat :=
  rankNearest (quantaOfRank left * quantaOfRank right) quantaPerOne

/-- The rank nearest to the quotient of two magnitudes. -/
def rankOfQuotient (left right : Nat) : Nat :=
  rankNearest (quantaOfRank left * quantaPerOne) (quantaOfRank right)

end Binary64

/-- A binary64 number.  All not-a-number patterns are one value. -/
inductive Binary64 where
  | finite (negative : Bool) (rank : Fin Binary64.finiteRanks)
  | infinite (negative : Bool)
  | nan
deriving DecidableEq

namespace Binary64

/-- The number with the given sign and rank, infinite if the rank is out of range. -/
def ofRank (negative : Bool) (rank : Nat) : Binary64 :=
  if h : rank < finiteRanks then .finite negative ⟨rank, h⟩ else .infinite negative

/-- The number nearest to `± num / den`. -/
def ofQuotient (negative : Bool) (num den : Nat) : Binary64 :=
  ofRank negative (rankNearest (num * quantaPerOne) den)

/-- The number nearest to `± n`. -/
def ofNat (negative : Bool) (n : Nat) : Binary64 := ofQuotient negative n 1

/-- Positive or negative zero. -/
def zero (negative : Bool) : Binary64 := ofRank negative 0

/-- Whether the number is neither infinite nor not-a-number. -/
def isFinite : Binary64 → Bool
  | finite _ _ => true
  | _ => false

/-- The value of the bit that marks negative numbers. -/
def signBit : Nat := Nat.pow 2 63

/-- The sixty-four bits of the format.  Not-a-number has its quiet pattern. -/
def toBits : Binary64 → Nat
  | finite negative rank => rank.val + if negative then signBit else 0
  | infinite negative => finiteRanks + if negative then signBit else 0
  | nan => finiteRanks + ranksPerBinade / 2

/-- The number that sixty-four bits stand for. -/
def ofBits (bits : Nat) : Binary64 :=
  let negative := bits / signBit % 2 == 1
  let rank := bits % signBit
  if finiteRanks < rank then .nan else ofRank negative rank

/-- The magnitude as a whole number, if it is one. -/
def wholeOfRank? (rank : Nat) : Option Nat :=
  let quanta := quantaOfRank rank
  if quanta % quantaPerOne = 0 then some (quanta / quantaPerOne) else none

theorem ranksPerBinade_pos : 0 < ranksPerBinade := by decide

theorem quantaPerOne_pos : 0 < quantaPerOne := by decide +kernel

theorem quantaOfRank_pos {rank : Nat} (h : 0 < rank) : 0 < quantaOfRank rank := by
  unfold quantaOfRank
  split
  · exact h
  · exact Nat.mul_pos (Nat.add_pos_left ranksPerBinade_pos _) (Nat.pow_pos (by decide))

end Binary64

end CompletionGateway
