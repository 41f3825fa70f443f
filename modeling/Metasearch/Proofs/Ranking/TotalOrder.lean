import Mathlib
import Metasearch.Ranking.Score

/-! The total order of doubles, read off their bits. A double is below another one if it is negative and
the other is not; otherwise the magnitudes decide, the other way round if both are negative. An undefined
double has the greatest magnitude of all, so its sign puts it at one of the two ends. -/
namespace Metasearch.Ranking

open Float.Model

/-- Whether the first bit says that a double is negative. -/
def isNegative (bits : UInt64) : Bool :=
  decide (UInt64.size / 2 ≤ bits.toNat)

/-- What the bits after the first one say. -/
def magnitude (bits : UInt64) : Nat :=
  bits.toNat % (UInt64.size / 2)

/-- Whether a double is not above another one in the total order of all doubles. -/
def TotalLe (a b : UInt64) : Prop :=
  match isNegative a, isNegative b with
  | true, false => True
  | false, true => False
  | false, false => magnitude a ≤ magnitude b
  | true, true => magnitude b ≤ magnitude a

/-- The bits of a score. An undefined score is negative if it comes from opposite infinities. -/
def scoreBits (score : Float) (met : Bool) : UInt64 :=
  if score.isNaN && met then 0xfff8000000000000 else score.toBits

theorem toNat_unpackExponent (bits : BitVec Format.binary64.numBits) :
    (UnpackedFloat.unpackExponent bits).toNat = bits.toNat / 0x10000000000000 % 0x800 := by
  simp [UnpackedFloat.unpackExponent, Nat.shiftRight_eq_div_pow]

theorem toNat_unpackMantissa (bits : BitVec Format.binary64.numBits) :
    (UnpackedFloat.unpackMantissa bits).toNat = bits.toNat % 0x10000000000000 := by
  simp [UnpackedFloat.unpackMantissa]

/-- The place of a double in the total order, counted from zero upwards and from minus zero downwards. -/
def place (bits : UInt64) : Int :=
  if isNegative bits then -(magnitude bits : Int) - 1 else magnitude bits

theorem totalLe_iff_place_le {a b : UInt64} : TotalLe a b ↔ place a ≤ place b := by
  unfold TotalLe place
  cases isNegative a <;> cases isNegative b <;>
    simp only [if_true, Bool.false_eq_true, if_false, true_iff, false_iff] <;> omega

theorem TotalLe.refl (a : UInt64) : TotalLe a a :=
  totalLe_iff_place_le.mpr (Int.le_refl _)

end Metasearch.Ranking
