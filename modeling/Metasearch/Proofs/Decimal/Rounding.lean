import Mathlib
import Metasearch.Decimal.Shortest

/-! Rounding to the nearest double. Whatever a mantissa with its two residual bits stands for, rounding gives
the double in whose interval it lies. -/
namespace Metasearch.Decimal

open Float.Model Float.Model.UnpackedFloat

/-- Twice the mantissa with its round bit, which is the first binary place after it. -/
def halves (em : ExtendedMantissa) : ℕ :=
  2 * em.mantissa + em.roundBit.toNat

/-- The number that a mantissa with its residual bits was cut from. The sticky bit says whether it has more
binary places than one. -/
def CutFrom (em : ExtendedMantissa) (x : ℚ) : Prop :=
  if em.stickyBit then halves em < 2 * x ∧ 2 * x < halves em + 1 else 2 * x = halves em

theorem halves_shiftRightOne (em : ExtendedMantissa) : halves em.shiftRightOne = em.mantissa := by
  have hDigits := Nat.div_add_mod em.mantissa 2
  rcases Nat.mod_two_eq_zero_or_one em.mantissa with hBit | hBit <;>
    simp [halves, ExtendedMantissa.shiftRightOne, hBit] <;> omega

namespace CutFrom

variable {em : ExtendedMantissa} {x : ℚ}

theorem bounds (h : CutFrom em x) : em.mantissa ≤ x ∧ x < em.mantissa + 1 := by
  obtain ⟨m, round, sticky⟩ := em
  cases round <;> cases sticky <;> simp [CutFrom, halves] at h ⊢ <;> constructor <;> linarith

theorem shiftRightOne (h : CutFrom em x) : CutFrom em.shiftRightOne (x / 2) := by
  rw [CutFrom, halves_shiftRightOne]
  obtain ⟨m, round, sticky⟩ := em
  cases round <;> cases sticky <;> simp [CutFrom, halves, ExtendedMantissa.shiftRightOne] at h ⊢
  case false.false => linarith
  all_goals constructor <;> linarith

theorem shiftRight (h : CutFrom em x) (n : ℕ) : CutFrom (em >>> n) (x / 2 ^ n) := by
  induction n with
  | zero =>
      have hNone : em >>> 0 = em := rfl
      rwa [hNone, pow_zero, div_one]
  | succ n ih =>
      have hStep := ih.shiftRightOne
      rwa [div_div, ← pow_succ] at hStep

/-- Rounding gives the only whole number that is at most a half away, an even one if another is too. -/
theorem roundedMantissa_eq (h : CutFrom em x) {n : ℕ} (hLow : 2 * (n : ℚ) - 1 ≤ 2 * x)
    (hHigh : 2 * x ≤ 2 * n + 1) (hTie : 2 * x = 2 * n - 1 ∨ 2 * x = 2 * n + 1 → n % 2 = 0) :
    em.roundedMantissa = n := by
  obtain ⟨m, round, sticky⟩ := em
  cases round <;> cases sticky <;>
    simp only [CutFrom, halves, ExtendedMantissa.roundedMantissa, ExtendedMantissa.accuracy,
      Accuracy.roundToNearestEven, Bool.toNat_true, Bool.toNat_false, if_true, Bool.false_eq_true, if_false,
      Nat.add_zero, Nat.cast_add, Nat.cast_mul, Nat.cast_ofNat, Nat.cast_one] at h ⊢
  case false.false =>
    have hLower : (2 * n : ℚ) ≤ 2 * m + 1 := by linarith
    have hUpper : (2 * m : ℚ) ≤ 2 * n + 1 := by linarith
    norm_cast at hLower hUpper
    omega
  case false.true =>
    have hLower : (2 * n : ℚ) < 2 * m + 2 := by linarith
    have hUpper : (2 * m : ℚ) < 2 * n + 1 := by linarith
    norm_cast at hLower hUpper
    omega
  case true.false =>
    have hLower : (2 * n : ℚ) ≤ 2 * m + 2 := by linarith
    have hUpper : (2 * m + 1 : ℚ) ≤ 2 * n + 1 := by linarith
    norm_cast at hLower hUpper
    have hEven : n % 2 = 0 := by
      apply hTie
      rcases Nat.lt_or_ge m n with hBelow | hSame
      · obtain rfl : n = m + 1 := by omega
        exact .inl (by push_cast; linarith)
      · obtain rfl : n = m := by omega
        exact .inr (by linarith)
    omega
  case true.true =>
    have hLower : (2 * n : ℚ) < 2 * m + 3 := by linarith
    have hUpper : (2 * m + 1 : ℚ) < 2 * n + 1 := by linarith
    norm_cast at hLower hUpper
    omega

end CutFrom

theorem cutFrom_exact (m : ℕ) : CutFrom (.ofMantissaAndAccuracy m .exact) m := by
  simp [CutFrom, halves, ExtendedMantissa.ofMantissaAndAccuracy]

/-- A quotient is cut to a whole number with the accuracy that its remainder tells. -/
theorem cutFrom_div (num : ℕ) {den : ℕ} (hDen : 0 < den) :
    CutFrom (.ofMantissaAndAccuracy (num / den) (accuracyOfFraction (num % den) den)) (num / den : ℚ) := by
  have hDigits : (num : ℚ) = den * (num / den : ℕ) + (num % den : ℕ) := by
    exact_mod_cast (Nat.div_add_mod num den).symm
  have hRest := Nat.mod_lt num hDen
  have hPositive : (0 : ℚ) < den := by exact_mod_cast hDen
  generalize num / den = m at *
  generalize num % den = rest at *
  have hQuotient : (num / den : ℚ) = m + rest / den := by
    rw [hDigits]
    field_simp
  rw [hQuotient, accuracyOfFraction]
  split
  case isTrue hNone => simpa [hNone] using cutFrom_exact m
  case isFalse hSome =>
    have hFraction : (0 : ℚ) < rest / den ∧ (rest / den : ℚ) < 1 := by
      rw [div_lt_one hPositive]
      exact ⟨div_pos (by exact_mod_cast Nat.pos_of_ne_zero hSome) hPositive, by exact_mod_cast hRest⟩
    rcases Nat.lt_trichotomy (2 * rest) den with hLess | hSame | hMore
    · have hHalf : 2 * (rest / den : ℚ) < 1 := by
        rw [← mul_div_assoc, div_lt_one hPositive]
        exact_mod_cast hLess
      simp [Nat.compare_eq_lt.mpr hLess, CutFrom, halves, ExtendedMantissa.ofMantissaAndAccuracy]
      constructor <;> linarith
    · have hHalf : 2 * (rest / den : ℚ) = 1 := by
        rw [← mul_div_assoc, div_eq_one_iff_eq hPositive.ne']
        exact_mod_cast hSame
      simp [Nat.compare_eq_eq.mpr hSame, CutFrom, halves, ExtendedMantissa.ofMantissaAndAccuracy]
      linarith
    · have hHalf : 1 < 2 * (rest / den : ℚ) := by
        rw [← mul_div_assoc, one_lt_div hPositive]
        exact_mod_cast hMore
      simp [Nat.compare_eq_gt.mpr hMore, CutFrom, halves, ExtendedMantissa.ofMantissaAndAccuracy]
      constructor <;> linarith

/-! Doubles -/

/-- The magnitudes of doubles: the significand has fifty-three bits, or fewer at the least exponent. -/
structure Magnitude.Canonical (size : Magnitude) : Prop where
  positive : 0 < size.significand
  bounded : size.significand < 2 ^ 53
  least : -1074 ≤ size.exponent
  full : 2 ^ 52 ≤ size.significand ∨ size.exponent = -1074

/-- The distance from a magnitude down to the lower end of its interval, in units of its last place. -/
def Magnitude.below (size : Magnitude) : ℚ :=
  if size.significand = hiddenBit ∧ size.exponent > -1074 then 1 / 4 else 1 / 2

/-- Whether a number lies in the interval of those that round to a magnitude. -/
structure Magnitude.Nearest (size : Magnitude) (x : ℚ) : Prop where
  low : (size.significand - size.below) * 2 ^ size.exponent ≤ x
  low_even : (size.significand - size.below) * 2 ^ size.exponent = x → size.significand % 2 = 0
  high : x ≤ (size.significand + 1 / 2) * 2 ^ size.exponent
  high_even : x = (size.significand + 1 / 2) * 2 ^ size.exponent → size.significand % 2 = 0

/-- The exponent at which a number has fifty-three bits before the point, or fewer at the least exponent. -/
structure Binade (x : ℚ) (e : ℤ) : Prop where
  below : x < 2 ^ (e + 53)
  above : e = -1074 ∨ 2 ^ (e + 52) ≤ x
  least : -1074 ≤ e

theorem two_zpow_pos (e : ℤ) : (0 : ℚ) < 2 ^ e := by positivity

theorem two_zpow_add (e : ℤ) (n : ℕ) : (2 : ℚ) ^ (e + n) = 2 ^ n * 2 ^ e := by
  rw [zpow_add₀ two_ne_zero, zpow_natCast, mul_comm]

theorem lt_of_two_zpow_lt {e e' : ℤ} (h : (2 : ℚ) ^ e < 2 ^ e') : e < e' :=
  (zpow_lt_zpow_iff_right₀ one_lt_two).mp h

namespace Magnitude

variable {size : Magnitude} {x : ℚ}

theorem below_le (size : Magnitude) : size.below ≤ 1 / 2 := by
  unfold below
  split <;> norm_num

theorem Nearest.lt_two_zpow (hNearest : size.Nearest x) (hCanonical : size.Canonical) :
    x < 2 ^ (size.exponent + 53) := by
  have hBounded : (size.significand : ℚ) + 1 ≤ 2 ^ 53 := by exact_mod_cast hCanonical.bounded
  rw [show (53 : ℤ) = (53 : ℕ) from rfl, two_zpow_add]
  exact hNearest.high.trans_lt (mul_lt_mul_of_pos_right (by linarith) (two_zpow_pos _))

/-- In units of its last place a number that rounds to a magnitude is at most a half away from the significand,
and an even significand if it is exactly a half away. -/
theorem Nearest.scaled (hNearest : size.Nearest x) :
    2 * (size.significand : ℚ) - 1 ≤ 2 * (x / 2 ^ size.exponent) ∧
      2 * (x / 2 ^ size.exponent) ≤ 2 * size.significand + 1 ∧
      (2 * (x / 2 ^ size.exponent) = 2 * size.significand - 1 ∨
        2 * (x / 2 ^ size.exponent) = 2 * size.significand + 1 → size.significand % 2 = 0) := by
  have hPower := two_zpow_pos size.exponent
  have hLow := hNearest.low
  have hHigh := hNearest.high
  have hBelow := size.below_le
  rw [← le_div_iff₀ hPower] at hLow
  rw [← div_le_iff₀ hPower] at hHigh
  refine ⟨by linarith, by linarith, ?_⟩
  rintro (hTie | hTie)
  · refine hNearest.low_even ((eq_div_iff hPower.ne').mp ?_)
    linarith
  · refine hNearest.high_even ((div_eq_iff hPower.ne').mp ?_)
    linarith

/-- Above the least exponent a number lies at most a quarter below the power of two where its exponent begins,
and above it if the significand is not that power. -/
theorem Nearest.le_of_full (hNearest : size.Nearest x) (hFull : 2 ^ 52 ≤ size.significand)
    (hExponent : -1074 < size.exponent) :
    (2 ^ 52 - 1 / 4) * 2 ^ size.exponent ≤ x ∧
      (size.significand ≠ 2 ^ 52 → 2 ^ 52 * 2 ^ size.exponent ≤ x) := by
  have hLow := hNearest.low
  by_cases hLeast : size.significand = 2 ^ 52
  · have hBelow : size.below = 1 / 4 := if_pos ⟨by rw [hLeast]; rfl, hExponent⟩
    rw [hLeast, hBelow] at hLow
    exact ⟨by exact_mod_cast hLow, fun hOther => absurd hLeast hOther⟩
  · have hMore : (2 : ℚ) ^ 52 + 1 ≤ size.significand := by
      exact_mod_cast Nat.lt_of_le_of_ne hFull (Ne.symm hLeast)
    have hBelow := size.below_le
    have hThis : (2 : ℚ) ^ 52 * 2 ^ size.exponent ≤ x :=
      (mul_le_mul_of_nonneg_right (by linarith) (two_zpow_pos _).le).trans hLow
    refine ⟨(mul_le_mul_of_nonneg_right ?_ (two_zpow_pos _).le).trans hThis, fun _ => hThis⟩
    norm_num

/-- A number that rounds to a magnitude has the exponent of the magnitude, or lies just below the power of two
where that exponent begins. -/
theorem Nearest.exponent_cases (hNearest : size.Nearest x) (hCanonical : size.Canonical) {e : ℤ}
    (hBinade : Binade x e) :
    e = size.exponent ∨ e = size.exponent - 1 ∧ size.significand = 2 ^ 52 := by
  rcases lt_trichotomy e size.exponent with hBelow | hSame | hAbove
  · have hExponent : -1074 < size.exponent := lt_of_le_of_lt hBinade.least hBelow
    have hFull := hCanonical.full.resolve_right hExponent.ne'
    obtain ⟨hLow, hMore⟩ := hNearest.le_of_full hFull hExponent
    have hHalf : (2 : ℚ) ^ (size.exponent + 51) < 2 ^ (e + 53) := by
      rw [show (51 : ℤ) = (51 : ℕ) from rfl, two_zpow_add]
      refine lt_of_lt_of_le ?_ (hLow.trans hBinade.below.le)
      exact mul_lt_mul_of_pos_right (by norm_num) (two_zpow_pos _)
    have hNext : e = size.exponent - 1 := by
      have := lt_of_two_zpow_lt hHalf
      omega
    refine .inr ⟨hNext, by_contra fun hOther => ?_⟩
    have hUpper := hBinade.below
    have hShift : e + 53 = size.exponent + (52 : ℕ) := by rw [hNext]; push_cast; ring
    rw [hShift, two_zpow_add] at hUpper
    exact absurd (hMore hOther) (not_le.mpr hUpper)
  · exact .inl hSame
  · have hAboveLeast : e ≠ -1074 := by have := hCanonical.least; omega
    have hUpper := lt_of_two_zpow_lt
      ((hBinade.above.resolve_left hAboveLeast).trans_lt (hNearest.lt_two_zpow hCanonical))
    omega

end Magnitude

/-- The exponent to which a mantissa is shifted before rounding. -/
def target (m : ℕ) (e : ℤ) : ℤ :=
  Format.binary64.targetExponent (totalExponent m e)

theorem target_eq_max (m : ℕ) (e : ℤ) : target m e = max (m.log2 + e - 52) (-1074) := by
  have hLeast : Format.binary64.minExponent = -1074 := by decide
  have hBits : Format.binary64.mantissaBits = 53 := rfl
  rw [target, Format.targetExponent, totalExponent, hLeast, hBits]
  congr 1
  push_cast
  ring

theorem shiftToTargetExponent_eq (m : ℕ) (e : ℤ) (accuracy : Accuracy) :
    shiftToTargetExponent .binary64 m e accuracy =
      (ExtendedMantissa.ofMantissaAndAccuracy m accuracy >>> (target m e - e).toNat,
        e + (target m e - e).toNat) :=
  rfl

theorem mantissa_ofMantissaAndAccuracy (m : ℕ) (accuracy : Accuracy) :
    (ExtendedMantissa.ofMantissaAndAccuracy m accuracy).mantissa = m := by
  unfold ExtendedMantissa.ofMantissaAndAccuracy
  split <;> rfl

theorem Magnitude.Canonical.target_eq {size : Magnitude} (h : size.Canonical) :
    target size.significand size.exponent = size.exponent := by
  have hUpper : size.significand.log2 < 53 := (Nat.log2_lt h.positive.ne').mpr h.bounded
  have hLower : size.exponent ≠ -1074 → 52 ≤ size.significand.log2 := fun hMore =>
    (Nat.le_log2 h.positive.ne').mpr (h.full.resolve_right hMore)
  have hLeast := h.least
  rw [target_eq_max]
  omega

section Round

variable {m : ℕ} {e : ℤ} {accuracy : Accuracy} {x : ℚ}
  (hCut : CutFrom (.ofMantissaAndAccuracy m accuracy) (x / 2 ^ e)) (hTarget : e ≤ target m e)
include hCut hTarget

theorem binade_target : Binade x (target m e) := by
  obtain ⟨hLow, hHigh⟩ := hCut.bounds
  rw [mantissa_ofMantissaAndAccuracy] at hLow hHigh
  rw [le_div_iff₀ (two_zpow_pos e)] at hLow
  rw [div_lt_iff₀ (two_zpow_pos e)] at hHigh
  have hMax := target_eq_max m e
  refine ⟨?_, ?_, by omega⟩
  · have hBits : (m : ℚ) + 1 ≤ 2 ^ (m.log2 + 1) := by exact_mod_cast Nat.lt_log2_self
    calc x < (m + 1) * 2 ^ e := hHigh
      _ ≤ 2 ^ (m.log2 + 1) * 2 ^ e := mul_le_mul_of_nonneg_right hBits (two_zpow_pos e).le
      _ = 2 ^ (e + (m.log2 + 1 : ℕ)) := (two_zpow_add ..).symm
      _ ≤ 2 ^ (target m e + 53) := zpow_le_zpow_right₀ one_le_two (by push_cast; omega)
  · by_cases hLeast : target m e = -1074
    · exact .inl hLeast
    · right
      have hSome : m ≠ 0 := by
        rintro rfl
        simp at hMax
        omega
      have hBits : (2 : ℚ) ^ m.log2 ≤ m := by exact_mod_cast Nat.log2_self_le hSome
      calc (2 : ℚ) ^ (target m e + 52) = 2 ^ (e + (m.log2 : ℕ)) := by congr 1; omega
        _ = 2 ^ m.log2 * 2 ^ e := two_zpow_add ..
        _ ≤ m * 2 ^ e := mul_le_mul_of_nonneg_right hBits (two_zpow_pos e).le
        _ ≤ x := hLow

theorem roundWithAccuracy_eq {size : Magnitude} (hCanonical : size.Canonical) (hNearest : size.Nearest x)
    (sign : Sign) :
    roundWithAccuracy .binary64 sign m e accuracy =
      .finite sign size.significand size.exponent hCanonical.positive := by
  have hShift : e + ((target m e - e).toNat : ℤ) = target m e := by omega
  have hFirst : CutFrom (ExtendedMantissa.ofMantissaAndAccuracy m accuracy >>> (target m e - e).toNat)
      (x / 2 ^ target m e) := by
    have hThis := hCut.shiftRight (target m e - e).toNat
    rwa [div_div, mul_comm, ← two_zpow_add, hShift] at hThis
  rcases hNearest.exponent_cases hCanonical (binade_target hCut hTarget) with hSame | ⟨hNext, hLeast⟩
  · rw [hSame] at hShift hFirst
    have hRounded := hFirst.roundedMantissa_eq hNearest.scaled.1 hNearest.scaled.2.1 hNearest.scaled.2.2
    have hKept : ExtendedMantissa.ofMantissaAndAccuracy size.significand .exact >>> 0 =
        ⟨size.significand, false, false⟩ := rfl
    simp only [roundWithAccuracy, shiftToTargetExponent_eq, hSame, hShift, hRounded, hCanonical.target_eq,
      sub_self, Int.toNat_zero, hKept, hCanonical.positive.ne', dite_false, Nat.cast_zero, add_zero]
  · rw [hNext] at hShift hFirst
    have hExponent : -1074 < size.exponent := by
      have hThis := (binade_target hCut hTarget).least
      omega
    have hScaled : 2 ^ 54 - 1 ≤ 2 * (x / 2 ^ (size.exponent - 1)) ∧
        2 * (x / 2 ^ (size.exponent - 1)) < 2 ^ 54 := by
      have hLow := (hNearest.le_of_full hLeast.ge hExponent).1
      have hHigh := (binade_target hCut hTarget).below
      have hPower := two_zpow_pos (size.exponent - 1)
      have hDouble : (2 : ℚ) ^ size.exponent = 2 * 2 ^ (size.exponent - 1) := by
        rw [← zpow_one_add₀ two_ne_zero]
        congr 1
        omega
      rw [hNext, show (53 : ℤ) = (53 : ℕ) from rfl, two_zpow_add, ← div_lt_iff₀ hPower] at hHigh
      rw [hDouble, ← mul_assoc, ← le_div_iff₀ hPower] at hLow
      constructor <;> linarith
    have hRounded : (ExtendedMantissa.ofMantissaAndAccuracy m accuracy >>>
        (size.exponent - 1 - e).toNat).roundedMantissa = 2 ^ 53 := by
      refine hFirst.roundedMantissa_eq ?_ ?_ (fun _ => rfl)
      · push_cast
        linarith [hScaled.1]
      · push_cast
        linarith [hScaled.2]
    have hHalved : target (2 ^ 53) (size.exponent - 1) = size.exponent := by
      rw [target_eq_max, Nat.log2_two_pow]
      omega
    have hOne : (size.exponent - (size.exponent - 1)).toNat = 1 := by omega
    have hKept : ExtendedMantissa.ofMantissaAndAccuracy (2 ^ 53) .exact >>> 1 = ⟨2 ^ 52, false, false⟩ := rfl
    simp only [roundWithAccuracy, shiftToTargetExponent_eq, hNext, hShift, hRounded, hHalved, hOne, hKept]
    simp [hLeast]

end Round

section Operands

variable {m₁ m₂ : ℕ} (h₁ : 0 < m₁) (h₂ : 0 < m₂) (e₁ e₂ : ℤ)
include h₁ h₂

/-! Quotients -/

/-- The quotient is computed with enough binary places for a whole significand. -/
theorem divCore_exponent_le :
    (divCore .binary64 m₁ e₁ m₂ e₂).2.1 ≤
      target (divCore .binary64 m₁ e₁ m₂ e₂).1 (divCore .binary64 m₁ e₁ m₂ e₂).2.1 := by
  have hLeast : Format.binary64.minExponent = -1074 := by decide
  have hBits : Format.binary64.mantissaBits = 53 := rfl
  simp only [divCore, target_eq_max, Format.targetExponent, totalExponent, hLeast, hBits]
  generalize hExponent : min (e₁ - e₂) _ = e
  by_cases hSmall : e ≤ -1074
  · exact le_max_of_le_right hSmall
  · have hShift : m₂.log2 + 53 ≤ m₁.log2 + (e₁ - e₂ - e).toNat := by omega
    have hQuotient : 2 ^ 52 ≤ m₁ <<< (e₁ - e₂ - e).toNat / m₂ := by
      rw [Nat.le_div_iff_mul_le h₂, Nat.shiftLeft_eq]
      calc 2 ^ 52 * m₂ ≤ 2 ^ 52 * 2 ^ (m₂.log2 + 1) := Nat.mul_le_mul_left _ Nat.lt_log2_self.le
        _ = 2 ^ (m₂.log2 + 53) := by rw [← pow_add]; congr 1; omega
        _ ≤ 2 ^ (m₁.log2 + (e₁ - e₂ - e).toNat) := Nat.pow_le_pow_right (by decide) hShift
        _ = 2 ^ m₁.log2 * 2 ^ (e₁ - e₂ - e).toNat := pow_add ..
        _ ≤ m₁ * 2 ^ (e₁ - e₂ - e).toNat := Nat.mul_le_mul_right _ (Nat.log2_self_le h₁.ne')
    have hLog := (Nat.le_log2 (Nat.pos_of_ne_zero (by omega)).ne').mpr hQuotient
    omega

/-- Dividing two doubles gives the double in whose interval the quotient lies. -/
theorem div_finite_eq {size : Magnitude} (hCanonical : size.Canonical)
    (hNearest : size.Nearest ((m₁ * 2 ^ e₁) / (m₂ * 2 ^ e₂))) (s₁ s₂ : Sign) :
    UnpackedFloat.div .binary64 (.finite s₁ m₁ e₁ h₁) (.finite s₂ m₂ e₂ h₂) =
      .finite (s₁ / s₂) size.significand size.exponent hCanonical.positive := by
  refine roundWithAccuracy_eq ?_ (divCore_exponent_le h₁ h₂ e₁ e₂) hCanonical hNearest (s₁ / s₂)
  simp only [divCore]
  generalize hExponent : min (e₁ - e₂) _ = e
  have hQuotient : (m₁ * 2 ^ e₁ / (m₂ * 2 ^ e₂) / 2 ^ e : ℚ) = (m₁ <<< (e₁ - e₂ - e).toNat : ℕ) / m₂ := by
    have hShift : e₁ = e₂ + e + ((e₁ - e₂ - e).toNat : ℤ) := by omega
    have hPower : (2 : ℚ) ^ e₁ = 2 ^ (e₁ - e₂ - e).toNat * (2 ^ e₂ * 2 ^ e) := by
      rw [← zpow_add₀ two_ne_zero, ← two_zpow_add, ← hShift]
    rw [hPower, Nat.shiftLeft_eq]
    have hDen : (m₂ : ℚ) ≠ 0 := by exact_mod_cast h₂.ne'
    push_cast
    field_simp
  rw [hQuotient]
  exact cutFrom_div _ h₂

/-! Products -/

/-- Multiplying two doubles gives the double in whose interval the product lies. The product is not too short for a
whole significand. -/
theorem mul_finite_eq (hFull : 2 ^ 52 ≤ m₁ * m₂) {size : Magnitude} (hCanonical : size.Canonical)
    (hNearest : size.Nearest ((m₁ * 2 ^ e₁) * (m₂ * 2 ^ e₂))) (s₁ s₂ : Sign) :
    UnpackedFloat.mul .binary64 (.finite s₁ m₁ e₁ h₁) (.finite s₂ m₂ e₂ h₂) =
      .finite (s₁ * s₂) size.significand size.exponent hCanonical.positive := by
  have hProduct : ((m₁ * 2 ^ e₁) * (m₂ * 2 ^ e₂) / 2 ^ (e₁ + e₂) : ℚ) = (m₁ * m₂ : ℕ) := by
    rw [zpow_add₀ two_ne_zero]
    push_cast
    field_simp
  have hLog := (Nat.le_log2 (Nat.mul_pos h₁ h₂).ne').mpr hFull
  refine roundWithAccuracy_eq ?_ ?_ hCanonical hNearest (s₁ * s₂)
  · rw [hProduct]
    exact cutFrom_exact _
  · rw [target_eq_max]
    omega

end Operands

end Metasearch.Decimal
