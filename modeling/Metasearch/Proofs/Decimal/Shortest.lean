import Metasearch.Decimal.Layout
import Metasearch.Proofs.Decimal.Rounding

/-! The shortest decimal of a double. The search for it ends with a decimal that rounds to the double, at
seventeen digits at the latest. -/
namespace Metasearch.Decimal

/-- The number that a decimal stands for. -/
def Unsigned.value (d : Unsigned) : ℚ :=
  d.digits * 10 ^ d.exponent

/-- The number that a magnitude stands for. -/
def Magnitude.value (size : Magnitude) : ℚ :=
  size.significand * 2 ^ size.exponent

theorem scaled_den_pos (n : ℕ) {b : ℕ} (hBase : 0 < b) (e : ℤ) : 0 < (scaled n b e).2 := by
  unfold scaled
  split
  · exact Nat.one_pos
  · exact Nat.pow_pos hBase

/-- Scaling gives numerator and denominator of the product. -/
theorem scaled_eq (n b : ℕ) (e : ℤ) :
    ((scaled n b e).1 : ℚ) / (scaled n b e).2 = n * (b : ℚ) ^ e := by
  unfold scaled
  split
  case h_1 k => simp
  case h_2 k =>
    rw [zpow_negSucc]
    simp [div_eq_mul_inv]

theorem compare_mul_eq (a b c d : ℕ) (hLeft : 0 < b) (hRight : 0 < d) :
    compare (a * d) (c * b) = compare ((a : ℚ) / b) (c / d) := by
  have hLeft : (0 : ℚ) < b := by exact_mod_cast hLeft
  have hRight : (0 : ℚ) < d := by exact_mod_cast hRight
  rcases lt_trichotomy (a * d) (c * b) with hLess | hSame | hMore
  · rw [compare_lt_iff_lt.mpr hLess, eq_comm, compare_lt_iff_lt, div_lt_div_iff₀ hLeft hRight]
    exact_mod_cast hLess
  · rw [compare_eq_iff_eq.mpr hSame, eq_comm, compare_eq_iff_eq, div_eq_div_iff hLeft.ne' hRight.ne']
    exact_mod_cast hSame
  · rw [compare_gt_iff_gt.mpr hMore, eq_comm, compare_gt_iff_gt, div_lt_div_iff₀ hRight hLeft]
    exact_mod_cast hMore

/-- Numbers are compared as they stand, whatever the sign of their exponents. -/
theorem compareScaled_eq (n : ℕ) (e : ℤ) (m : ℕ) (f : ℤ) :
    compareScaled n e m f = compare ((n : ℚ) * 2 ^ e) (m * 10 ^ f) := by
  have hLeft := scaled_eq n 2 e
  have hRight := scaled_eq m 10 f
  push_cast at hLeft hRight
  rw [← hLeft, ← hRight]
  exact compare_mul_eq _ _ _ _ (scaled_den_pos n two_pos e) (scaled_den_pos m (by decide) f)

/-- A decimal rounds to a magnitude exactly if it lies in the interval of the magnitude. -/
theorem Magnitude.rounds_iff {size : Magnitude} (hPositive : 0 < size.significand) (d : Unsigned) :
    size.rounds d = true ↔ size.Nearest d.value := by
  have hQuarter (k : ℚ) : 4 * k * 2 ^ (size.exponent - 2) = k * 2 ^ size.exponent := by
    rw [zpow_sub₀ two_ne_zero]
    norm_num
    ring
  have hLow : ((4 * size.significand -
      (if size.significand = hiddenBit ∧ size.exponent > -1074 then 1 else 2) : ℕ) : ℚ) *
        2 ^ (size.exponent - 2) = (size.significand - size.below) * 2 ^ size.exponent := by
    rw [← hQuarter, below]
    congr 1
    split
    · rw [Nat.cast_sub (by omega)]
      push_cast
      ring
    · rw [Nat.cast_sub (by omega)]
      push_cast
      ring
  have hHigh : ((4 * size.significand + 2 : ℕ) : ℚ) * 2 ^ (size.exponent - 2) =
      (size.significand + 1 / 2) * 2 ^ size.exponent := by
    rw [← hQuarter]
    push_cast
    ring
  rw [rounds]
  simp only [compareScaled_eq, hLow, hHigh, ← Unsigned.value.eq_1, decide_eq_true_eq, compare_lt_iff_lt,
    compare_eq_iff_eq, compare_gt_iff_gt]
  constructor
  · rintro ⟨hLower, hUpper⟩
    refine ⟨hLower.elim le_of_lt fun hEnd => hEnd.2.le, ?_, hUpper.elim le_of_lt fun hEnd => hEnd.2.ge, ?_⟩
    · exact fun hEnd => hLower.elim (fun hThis => absurd hEnd hThis.ne) And.left
    · exact fun hEnd => hUpper.elim (fun hThis => absurd hEnd hThis.ne) And.left
  · rintro ⟨hLower, hLowerEven, hUpper, hUpperEven⟩
    exact ⟨hLower.lt_or_eq.imp_right fun hEnd => ⟨hLowerEven hEnd, hEnd⟩,
      hUpper.lt_or_eq.imp_right fun hEnd => ⟨hUpperEven hEnd, hEnd.symm⟩⟩

/-- All numbers less than a quarter of the last place away round to a magnitude. -/
theorem Magnitude.nearest_of_close {size : Magnitude} {x : ℚ} (h : |x - size.value| < 2 ^ size.exponent / 4) :
    size.Nearest x := by
  have hPower : (0 : ℚ) < 2 ^ size.exponent := two_zpow_pos _
  obtain ⟨hLower, hUpper⟩ := abs_lt.mp h
  rw [value] at hLower hUpper
  have hBelow : 1 / 4 ≤ size.below := by
    unfold below
    split <;> norm_num
  have hLow : (size.significand - size.below) * 2 ^ size.exponent < x := by
    have hStep := mul_le_mul_of_nonneg_right hBelow hPower.le
    linarith
  have hHigh : x < (size.significand + 1 / 2) * 2 ^ size.exponent := by linarith
  exact ⟨hLow.le, fun hEnd => absurd hEnd hLow.ne, hHigh.le, fun hEnd => absurd hEnd hHigh.ne⟩

/-! The search -/

/-- Powers of two bases are compared by one pair of powers that is known. -/
theorem pow_le_pow_of_ratio {a b p q n k : ℕ} (hBase : 0 < b) (hPositive : q ≠ 0) (hKnown : a ^ q ≤ b ^ p)
    (hRatio : p * n ≤ k * q) : a ^ n ≤ b ^ k := by
  refine (Nat.pow_le_pow_iff_left hPositive).mp ?_
  calc (a ^ n) ^ q = (a ^ q) ^ n := Nat.pow_right_comm ..
    _ ≤ (b ^ p) ^ n := Nat.pow_le_pow_left hKnown n
    _ = b ^ (p * n) := (Nat.pow_mul ..).symm
    _ ≤ b ^ (k * q) := Nat.pow_le_pow_right hBase hRatio
    _ = (b ^ k) ^ q := Nat.pow_mul ..

-- The logarithm of two lies between 59 / 196 and 28 / 93, close enough to 0.30103 below 2400.
theorem two_pow_le_ten_pow {n k : ℕ} (h : 28 * n ≤ k * 93) : 2 ^ n ≤ 10 ^ k :=
  pow_le_pow_of_ratio (by decide) (by decide) (by norm_num) h

theorem ten_pow_le_two_pow {n k : ℕ} (h : 196 * k ≤ n * 59) : 10 ^ k ≤ 2 ^ n :=
  pow_le_pow_of_ratio (by decide) (by decide) (by norm_num) h

/-- The logarithm of a power of two is estimated well enough. -/
theorem ten_pow_estimate : ∀ n < 2400, 10 ^ (n * 30103 / 100000) ≤ 10 * 2 ^ n ∧
    2 ^ (n + 1) ≤ 10 ^ (n * 30103 / 100000 + 2) ∧ 2 ^ n ≤ 10 ^ ((n * 30103 + 99999) / 100000 + 1) := by
  intro n hFew
  refine ⟨?_, two_pow_le_ten_pow (by omega), two_pow_le_ten_pow (by omega)⟩
  calc 10 ^ (n * 30103 / 100000) ≤ 2 ^ (n + 3) := ten_pow_le_two_pow (by omega)
    _ = 2 ^ 3 * 2 ^ n := by rw [pow_add, mul_comm]
    _ ≤ 10 * 2 ^ n := Nat.mul_le_mul_right _ (by decide)

theorem ten_zpow_estimate_le {e : ℤ} (hLow : -1074 ≤ e) (hHigh : e ≤ 1024) :
    (10 : ℚ) ^ (e * 30103 / 100000 - 1) ≤ 2 ^ e := by
  obtain ⟨n, rfl | rfl⟩ := Int.eq_nat_or_neg e
  · have hEstimate : ((10 ^ (n * 30103 / 100000) : ℕ) : ℚ) ≤ (10 * 2 ^ n : ℕ) :=
      Nat.cast_le.mpr (ten_pow_estimate n (by omega)).1
    push_cast at hEstimate
    have hExponent : (n : ℤ) * 30103 / 100000 = (n * 30103 / 100000 : ℕ) := by norm_cast
    rw [hExponent, zpow_sub_one₀ (by norm_num), zpow_natCast, zpow_natCast]
    linarith
  · have hEstimate : ((2 ^ n : ℕ) : ℚ) ≤ (10 ^ ((n * 30103 + 99999) / 100000 + 1) : ℕ) :=
      Nat.cast_le.mpr (ten_pow_estimate n (by omega)).2.2
    push_cast at hEstimate
    have hExponent : -(n : ℤ) * 30103 / 100000 - 1 = -((n * 30103 + 99999) / 100000 + 1 : ℕ) := by omega
    rw [hExponent, zpow_neg, zpow_neg, zpow_natCast, zpow_natCast]
    exact inv_anti₀ (by positivity) hEstimate

namespace Magnitude

variable {size : Magnitude}

theorem Canonical.two_zpow_le (h : size.Canonical) :
    (2 : ℚ) ^ ((size.significand.log2 : ℤ) + size.exponent) ≤ size.value := by
  rw [add_comm, two_zpow_add]
  have hLog : (2 ^ size.significand.log2 : ℚ) ≤ size.significand := by
    exact_mod_cast Nat.log2_self_le h.positive.ne'
  exact mul_le_mul_of_nonneg_right hLog (two_zpow_pos _).le

theorem Canonical.log2_lt (h : size.Canonical) : size.significand.log2 < 53 :=
  (Nat.log2_lt h.positive.ne').mpr h.bounded

/-- No decimal digit stands before the leading one. -/
theorem Canonical.ten_zpow_leading_le (h : size.Canonical) (hGreatest : size.exponent ≤ 971) :
    (10 : ℚ) ^ size.leading ≤ size.value := by
  have hLeast := h.least
  have hLog := h.log2_lt
  have hEstimate :
      (10 : ℚ) ^ (((size.significand.log2 : ℤ) + size.exponent) * 30103 / 100000 - 1) ≤ size.value :=
    (ten_zpow_estimate_le (by omega) (by omega)).trans h.two_zpow_le
  simp only [leading, compareScaled_eq, Nat.cast_one, one_mul, ← value.eq_1]
  split
  case isTrue hAbove => simpa [compare_lt_iff_lt] using hAbove
  case isFalse =>
    split
    case isTrue => exact hEstimate
    case isFalse hBelow => simpa [compare_lt_iff_lt] using hBelow

end Magnitude

/-- A quotient rounded to a whole number is at most a half away from it. -/
theorem abs_roundedQuotient_sub_le (num : ℕ) {den : ℕ} (hDen : 0 < den) :
    |((roundedQuotient num den : ℕ) : ℚ) - num / den| ≤ 1 / 2 := by
  have hPositive : (0 : ℚ) < den := by exact_mod_cast hDen
  have hRest := Nat.mod_lt num hDen
  have hDigits : (num : ℚ) / den = (num / den : ℕ) + (num % den : ℕ) / den := by
    have hParts : (num : ℚ) = den * (num / den : ℕ) + (num % den : ℕ) := by
      exact_mod_cast (Nat.div_add_mod num den).symm
    rw [div_eq_iff hPositive.ne', add_mul, div_mul_cancel₀ _ hPositive.ne', mul_comm]
    exact hParts
  have hCases : roundedQuotient num den = num / den ∧ 2 * (num % den) ≤ den ∨
      roundedQuotient num den = num / den + 1 ∧ den ≤ 2 * (num % den) := by
    unfold roundedQuotient
    simp only
    split_ifs <;> omega
  generalize num % den = rest at *
  rw [hDigits, abs_le]
  rcases hCases with ⟨hSame, hSide⟩ | ⟨hSame, hSide⟩
  · have hHalf : (rest : ℚ) / den ≤ 1 / 2 := by
      rw [div_le_div_iff₀ hPositive two_pos, one_mul, mul_comm]
      exact_mod_cast hSide
    have hZero : (0 : ℚ) ≤ rest / den := by positivity
    rw [hSame]
    constructor <;> linarith
  · have hHalf : 1 / 2 ≤ (rest : ℚ) / den := by
      rw [div_le_div_iff₀ two_pos hPositive, one_mul, mul_comm]
      exact_mod_cast hSide
    have hOne : (rest : ℚ) / den < 1 := by
      rw [div_lt_one hPositive]
      exact_mod_cast hRest
    rw [hSame]
    push_cast
    constructor <;> linarith

namespace Magnitude

variable {size : Magnitude} {exponent : ℤ} {d : Unsigned}

/-- The multiple on a grid that is nearest to a magnitude. -/
def nearestOnGrid (size : Magnitude) (exponent : ℤ) : Unsigned :=
  let (a, b) := scaled size.significand 2 size.exponent
  let (c, d) := scaled 1 10 exponent
  ⟨roundedQuotient (a * d) (b * c), exponent⟩

/-- On a grid the nearest multiple is tried first, and then a second one. -/
theorem onGrid_eq (size : Magnitude) (exponent : ℤ) :
    ∃ other, size.onGrid exponent =
      if size.rounds (size.nearestOnGrid exponent) then some (size.nearestOnGrid exponent)
      else if size.rounds ⟨other, exponent⟩ then some ⟨other, exponent⟩ else none :=
  ⟨_, rfl⟩

/-- What is found on a grid stands on it and rounds to the magnitude. -/
theorem onGrid_spec (h : size.onGrid exponent = some d) : size.rounds d = true ∧ d.exponent = exponent := by
  obtain ⟨other, hGrid⟩ := onGrid_eq size exponent
  rw [hGrid] at h
  split at h
  case isTrue hNearest => exact Option.some.inj h ▸ ⟨hNearest, rfl⟩
  case isFalse =>
    split at h
    case isTrue hOther => exact Option.some.inj h ▸ ⟨hOther, rfl⟩
    case isFalse => contradiction

theorem abs_nearestOnGrid_sub_le (size : Magnitude) (exponent : ℤ) :
    |(size.nearestOnGrid exponent).value - size.value| ≤ 10 ^ exponent / 2 := by
  have hSize := scaled_eq size.significand 2 size.exponent
  have hStep := scaled_eq 1 10 exponent
  have hSizeDen := scaled_den_pos size.significand two_pos size.exponent
  have hStepDen := scaled_den_pos 1 (by decide : 0 < 10) exponent
  rw [nearestOnGrid, Unsigned.value, value]
  generalize scaled size.significand 2 size.exponent = fraction at *
  generalize scaled 1 10 exponent = step at *
  obtain ⟨a, b⟩ := fraction
  obtain ⟨c, d⟩ := step
  push_cast at hSize hStep hSizeDen hStepDen ⊢
  rw [one_mul] at hStep
  have hPower : (0 : ℚ) < 10 ^ exponent := by positivity
  have hC : 0 < c := by
    refine Nat.pos_of_ne_zero fun hZero => hPower.ne ?_
    rw [← hStep, hZero, Nat.cast_zero, zero_div]
  have hHalf := abs_roundedQuotient_sub_le (a * d) (Nat.mul_pos hSizeDen hC)
  have hQuotient : ((a * d : ℕ) : ℚ) / (b * c : ℕ) * 10 ^ exponent = size.significand * 2 ^ size.exponent := by
    rw [← hSize, ← hStep]
    have hB : (b : ℚ) ≠ 0 := by exact_mod_cast hSizeDen.ne'
    have hC' : (c : ℚ) ≠ 0 := by exact_mod_cast hC.ne'
    have hD : (d : ℚ) ≠ 0 := by exact_mod_cast hStepDen.ne'
    push_cast
    field_simp
  rw [← hQuotient, ← sub_mul, abs_mul, abs_of_pos hPower]
  linarith [mul_le_mul_of_nonneg_right hHalf hPower.le]

/-- A grid is fine enough if everything within half a step rounds to the magnitude. -/
theorem exists_onGrid (hPositive : 0 < size.significand)
    (hFine : ∀ x, |x - size.value| ≤ 10 ^ exponent / 2 → size.Nearest x) :
    ∃ d, size.onGrid exponent = some d := by
  obtain ⟨other, hGrid⟩ := onGrid_eq size exponent
  have hNearest := (rounds_iff hPositive _).mpr (hFine _ (abs_nearestOnGrid_sub_le size exponent))
  exact ⟨_, hGrid.trans (if_pos hNearest)⟩

/-- Once some grid is fine enough, the search ends on a grid. -/
theorem onGrid_firstGrid (count : ℕ) (hFound : ∃ k < count, ∃ d, size.onGrid (exponent - k) = some d) :
    ∃ k < count, size.onGrid (exponent - k) = some (size.firstGrid exponent count) := by
  induction count generalizing exponent with
  | zero => simp at hFound
  | succ count ih =>
      rw [firstGrid]
      cases hHere : size.onGrid exponent with
      | some d => exact ⟨0, count.succ_pos, by simpa using hHere⟩
      | none =>
          have hFiner (k : ℕ) : exponent - (k + 1 : ℕ) = exponent - 1 - k := by omega
          obtain ⟨k, hCount, d, hGrid⟩ := hFound
          cases k with
          | zero => simp [hHere] at hGrid
          | succ k =>
              obtain ⟨j, hLess, hEnd⟩ := ih ⟨k, by omega, d, hFiner k ▸ hGrid⟩
              exact ⟨j + 1, by omega, hFiner j ▸ hEnd⟩

end Magnitude

theorem value_withoutZeros (d : Unsigned) (count : ℕ) : (d.withoutZeros count).value = d.value := by
  induction count generalizing d with
  | zero => rfl
  | succ count ih =>
      rw [Unsigned.withoutZeros]
      split
      case isTrue hZero =>
        have hDigits : (d.digits : ℚ) = 10 * (d.digits / 10 : ℕ) := by
          exact_mod_cast (Nat.mul_div_cancel' (Nat.dvd_of_mod_eq_zero hZero.2)).symm
        rw [ih, Unsigned.value, Unsigned.value, zpow_add_one₀ (by norm_num), hDigits]
        ring
      case isFalse => rfl

theorem Unsigned.le_exponent_withoutZeros (d : Unsigned) (count : ℕ) :
    d.exponent ≤ (d.withoutZeros count).exponent := by
  induction count generalizing d with
  | zero => exact le_rfl
  | succ count ih =>
      rw [withoutZeros]
      split
      case isTrue => exact (Int.le_add_one le_rfl).trans (ih _)
      case isFalse => exact le_rfl

/-- Seventeen digits are enough for every double. -/
theorem Magnitude.exists_onGrid_leading {size : Magnitude} (hCanonical : size.Canonical)
    (hGreatest : size.exponent ≤ 971) : ∃ d, size.onGrid (size.leading - 17) = some d := by
  refine exists_onGrid hCanonical.positive fun x hx => nearest_of_close (hx.trans_lt ?_)
  have hLeading := hCanonical.ten_zpow_leading_le hGreatest
  have hPower := two_zpow_pos size.exponent
  have hBounded : (size.significand : ℚ) < 2 ^ 53 := by exact_mod_cast hCanonical.bounded
  have hValue : size.value < 2 ^ 53 * 2 ^ size.exponent := mul_lt_mul_of_pos_right hBounded hPower
  have hStep : (10 : ℚ) ^ (size.leading - 17) = 10 ^ size.leading / 10 ^ 17 := by
    rw [zpow_sub₀ (by norm_num)]
    norm_num
  rw [hStep]
  norm_num at hValue ⊢
  linarith

section Canonical

variable {size : Magnitude} (hCanonical : size.Canonical) (hGreatest : size.exponent ≤ 971)
include hCanonical hGreatest

theorem Magnitude.onGrid_firstGrid_leading :
    ∃ k : ℕ, k < 18 ∧ size.onGrid (size.leading - k) = some (size.firstGrid size.leading 18) :=
  onGrid_firstGrid 18 ⟨17, by decide, exists_onGrid_leading hCanonical hGreatest⟩

/-- The shortest decimal of a magnitude rounds to it. -/
theorem Magnitude.nearest_shortest : size.Nearest size.shortest.value := by
  obtain ⟨k, -, hGrid⟩ := onGrid_firstGrid_leading hCanonical hGreatest
  rw [shortest, value_withoutZeros]
  exact (rounds_iff hCanonical.positive _).mp (onGrid_spec hGrid).1

theorem Magnitude.le_exponent_shortest : -342 ≤ size.shortest.exponent := by
  obtain ⟨k, hCount, hGrid⟩ := onGrid_firstGrid_leading hCanonical hGreatest
  have hLeast := hCanonical.least
  have hExponent := (onGrid_spec hGrid).2
  have hZeros := (size.firstGrid size.leading 18).le_exponent_withoutZeros 18
  have hLeading : -325 ≤ size.leading := by
    simp only [leading]
    split_ifs <;> omega
  rw [shortest]
  omega

end Canonical

end Metasearch.Decimal
