import Metasearch.Decimal.Read
import Metasearch.Proofs.Decimal.Packing
import Metasearch.Proofs.Decimal.Shortest

/-! Decimals read as doubles. A decimal is read as the double to which it rounds. -/
namespace Metasearch.Decimal

open Float.Model Float.Model.UnpackedFloat

/-! Whole numbers -/

/-- A whole number of at most fifty-three bits, with as many as a significand has. -/
def wholeMagnitude (m : ℕ) : Magnitude :=
  ⟨m * 2 ^ (52 - m.log2), m.log2 - 52⟩

theorem log2_mul_two_pow {m : ℕ} (hPositive : 0 < m) (n : ℕ) : (m * 2 ^ n).log2 = m.log2 + n := by
  refine (Nat.log2_eq_iff (Nat.mul_pos hPositive (Nat.two_pow_pos n)).ne').mpr ⟨?_, ?_⟩
  · rw [pow_add]
    exact Nat.mul_le_mul_right _ (Nat.log2_self_le hPositive.ne')
  · rw [Nat.add_right_comm, pow_add]
    exact Nat.mul_lt_mul_of_pos_right Nat.lt_log2_self (Nat.two_pow_pos n)

section Whole

variable {m : ℕ} (hPositive : 0 < m) (hSmall : m < 2 ^ 53)
include hPositive hSmall

theorem log2_le_of_lt : m.log2 ≤ 52 :=
  Nat.le_of_lt_succ ((Nat.log2_lt hPositive.ne').mpr hSmall)

theorem full_wholeMagnitude : 2 ^ 52 ≤ (wholeMagnitude m).significand := by
  have hLog := log2_le_of_lt hPositive hSmall
  have hSome : 0 < m * 2 ^ (52 - m.log2) := Nat.mul_pos hPositive (Nat.two_pow_pos _)
  refine (Nat.le_log2 hSome.ne').mp ?_
  rw [log2_mul_two_pow hPositive]
  omega

theorem canonical_wholeMagnitude : (wholeMagnitude m).Canonical := by
  have hLog := log2_le_of_lt hPositive hSmall
  have hSome : 0 < m * 2 ^ (52 - m.log2) := Nat.mul_pos hPositive (Nat.two_pow_pos _)
  have hBits : (m * 2 ^ (52 - m.log2)).log2 = 52 := by
    rw [log2_mul_two_pow hPositive]
    omega
  obtain ⟨hFull, hBounded⟩ := (Nat.log2_eq_iff hSome.ne').mp hBits
  exact ⟨hSome, hBounded, by simp only [wholeMagnitude]; omega, .inl hFull⟩

theorem value_wholeMagnitude : (wholeMagnitude m).value = m := by
  have hLog := log2_le_of_lt hPositive hSmall
  have hExponent : (m.log2 : ℤ) - 52 = -((52 - m.log2 : ℕ) : ℤ) := by omega
  rw [Magnitude.value, wholeMagnitude, hExponent, zpow_neg, zpow_natCast]
  push_cast
  exact mul_inv_cancel_right₀ (by positivity) _

/-- A small whole number is a double. -/
theorem unpack_toFloat : m.toUInt64.toFloat.toModel.unpack =
    .finite .positive (wholeMagnitude m).significand (wholeMagnitude m).exponent
      (canonical_wholeMagnitude hPositive hSmall).positive := by
  have hLog := log2_le_of_lt hPositive hSmall
  have hCanonical := canonical_wholeMagnitude hPositive hSmall
  have hShift : (0 - Format.binary64.targetExponent (totalExponent m 0)).toNat = 52 - m.log2 := by
    have hTarget := target_eq_max m 0
    rw [target] at hTarget
    omega
  have hNearest : (wholeMagnitude m).Nearest (m : ℚ) := by
    refine Magnitude.nearest_of_close ?_
    rw [value_wholeMagnitude hPositive hSmall, sub_self, abs_zero]
    exact div_pos (two_zpow_pos _) (by norm_num)
  have hRound : UnpackedFloat.round .binary64 .positive m 0 =
      .finite .positive (wholeMagnitude m).significand (wholeMagnitude m).exponent hCanonical.positive := by
    simp only [UnpackedFloat.round, decreaseExponent, hShift]
    refine roundWithAccuracy_eq (x := m) ?_ ?_ hCanonical hNearest .positive
    · have hScaled : (m : ℚ) / 2 ^ (0 - ((52 - m.log2 : ℕ) : ℤ)) = (m <<< (52 - m.log2) : ℕ) := by
        rw [zero_sub, zpow_neg, zpow_natCast, div_inv_eq_mul, Nat.shiftLeft_eq]
        push_cast
        rfl
      rw [hScaled]
      exact cutFrom_exact _
    · rw [Nat.shiftLeft_eq, target_eq_max, log2_mul_two_pow hPositive]
      omega
  have hWord : m.toUInt64.toNat = m := UInt64.toNat_ofNat_of_lt' (hSmall.trans (by decide))
  have hFloat : m.toUInt64.toFloat = packed (normalize .binary64 (m.toUInt64.toNat : ℤ) 0 .positive) := rfl
  have hNormal : normalize .binary64 (m : ℤ) 0 .positive = UnpackedFloat.round .binary64 .positive m 0 := by
    have hAbove : compare (m : ℤ) 0 = .gt := compare_gt_iff_gt.mpr (Int.natCast_pos.mpr hPositive)
    simp only [UnpackedFloat.normalize, hAbove, Int.toNat_natCast]
  rw [hFloat, hWord, hNormal, hRound]
  exact unpack_packed hCanonical (by simp only [wholeMagnitude]; omega) .positive

end Whole

/-! Powers of ten -/

/-- The significand and the exponent of a positive finite double. -/
def positiveParts : UnpackedFloat → Option (ℕ × ℤ)
  | .finite .positive m e _ => some (m, e)
  | _ => none

theorem powersOfTen_parts : ∀ e : Fin 23,
    (positiveParts (getElem Float.exactlyRepresentablePowersOfTen e.val e.isLt).toModel.unpack).any
      (fun (m, f) => -60 ≤ f ∧ m * 2 ^ (f + 60).toNat = 10 ^ e.val * 2 ^ 60) = true := by
  decide +kernel

/-- The table of powers of ten is exact. -/
theorem unpack_powerOfTen {e : ℕ} (h : e < 23) :
    ∃ m f hPositive,
      (getElem Float.exactlyRepresentablePowersOfTen e h).toModel.unpack = .finite .positive m f hPositive ∧
        (m : ℚ) * 2 ^ f = 10 ^ e := by
  have hParts := powersOfTen_parts ⟨e, h⟩
  generalize (getElem Float.exactlyRepresentablePowersOfTen e h).toModel.unpack = u at hParts ⊢
  match u with
  | .finite .positive m f hPositive =>
      simp only [positiveParts, Option.any_some, decide_eq_true_eq] at hParts
      refine ⟨m, f, hPositive, rfl, ?_⟩
      have hScaled : (m : ℚ) * 2 ^ (f + 60).toNat = 10 ^ e * 2 ^ 60 := by exact_mod_cast hParts.2
      have hShift : f + ((60 : ℕ) : ℤ) = ((f + 60).toNat : ℕ) := by omega
      have hPower : (2 : ℚ) ^ (f + 60).toNat = 2 ^ 60 * 2 ^ f := by
        rw [← two_zpow_add, hShift, zpow_natCast]
      rw [hPower] at hScaled
      have hNonzero : (2 : ℚ) ^ 60 ≠ 0 := by positivity
      exact mul_right_cancel₀ hNonzero (by linarith)

section Scientific

variable {size : Magnitude} (hCanonical : size.Canonical) {m : ℕ} (hPositive : 0 < m)
include hPositive

/-- A quotient by a power of ten is read as the double to which it rounds. -/
theorem ofScientific_eq {e : ℕ} (hLow : 0 < e) (hHigh : e ≤ 400) (hNearest : size.Nearest (m / 10 ^ e)) :
    Float.ofScientific m true e =
      packed (.finite .positive size.significand size.exponent hCanonical.positive) := by
  unfold Float.ofScientific
  split
  case isTrue hFast =>
    obtain ⟨n, f, hPower, hUnpack, hValue⟩ := unpack_powerOfTen (Nat.lt_succ_of_le hFast.2)
    have hQuotient : size.Nearest
        ((wholeMagnitude m).significand * 2 ^ (wholeMagnitude m).exponent / (n * 2 ^ f)) := by
      rwa [hValue, ← Magnitude.value.eq_1, value_wholeMagnitude hPositive hFast.1]
    have hDiv := div_finite_eq (canonical_wholeMagnitude hPositive hFast.1).positive hPower _ f hCanonical
      hQuotient .positive .positive
    rw [← unpack_toFloat hPositive hFast.1, ← hUnpack] at hDiv
    exact congrArg packed hDiv
  case isFalse =>
    have hQuotient : size.Nearest (m * 2 ^ (0 : ℤ) / ((10 ^ e : ℕ) * 2 ^ (0 : ℤ))) := by
      push_cast
      simpa using hNearest
    have hDiv := div_finite_eq hPositive (Nat.pow_pos (by decide) : 0 < 10 ^ e) 0 0 hCanonical hQuotient
      .positive .positive
    have hSign : Int.negOfNat e = -(e : ℤ) := Int.negOfNat_eq
    have hModel : UnpackedFloat.ofScientific .binary64 m (-(e : ℤ)) =
        UnpackedFloat.div .binary64 (.finite .positive m 0 hPositive)
          (.finite .positive (10 ^ e) 0 (Nat.pow_pos (by decide))) := by
      have hUpper : ¬-(e : ℤ) > 2 ^ Format.binary64.exponentBits := by simp only; omega
      have hLower : ¬-(e : ℤ) < -((2 ^ Format.binary64.exponentBits : ℤ) + m.log2) := by simp only; omega
      have hNegative : ¬0 ≤ -(e : ℤ) := by omega
      rw [UnpackedFloat.ofScientific, dif_neg hPositive.ne', if_neg hUpper, if_neg hLower, if_neg hNegative]
      simp only [neg_neg, Int.toNat_natCast]
    rw [← hModel] at hDiv
    simp only [if_true, hSign]
    exact congrArg packed hDiv

/-- A product with a power of ten is read as the double to which it rounds. -/
theorem ofScientific_product_eq {e : ℕ} (hHigh : e ≤ 400) (hNearest : size.Nearest (m * 10 ^ e)) :
    Float.ofScientific m false e =
      packed (.finite .positive size.significand size.exponent hCanonical.positive) := by
  unfold Float.ofScientific
  split
  case isTrue hFast =>
    obtain ⟨n, f, hPower, hUnpack, hValue⟩ := unpack_powerOfTen (Nat.lt_succ_of_le hFast.2)
    have hWhole := canonical_wholeMagnitude hPositive hFast.1
    have hProduct : size.Nearest
        ((wholeMagnitude m).significand * 2 ^ (wholeMagnitude m).exponent * (n * 2 ^ f)) := by
      rwa [hValue, ← Magnitude.value.eq_1, value_wholeMagnitude hPositive hFast.1]
    have hMul := mul_finite_eq hWhole.positive hPower _ f
      ((full_wholeMagnitude hPositive hFast.1).trans (Nat.le_mul_of_pos_right _ hPower)) hCanonical hProduct
      .positive .positive
    rw [← unpack_toFloat hPositive hFast.1, ← hUnpack] at hMul
    exact congrArg packed hMul
  case isFalse =>
    have hShifted : 0 < m <<< 53 := by rw [Nat.shiftLeft_eq]; positivity
    have hProduct : size.Nearest
        ((m <<< 53 : ℕ) * 2 ^ (-53 : ℤ) * ((10 ^ e : ℕ) * 2 ^ (0 : ℤ))) := by
      have hValue : ((m <<< 53 : ℕ) * 2 ^ (-53 : ℤ) : ℚ) = m := by
        rw [Nat.shiftLeft_eq, zpow_neg]
        push_cast
        exact mul_inv_cancel_right₀ (by positivity) _
      rw [hValue]
      push_cast
      simpa using hNearest
    have hFull : 2 ^ 52 ≤ m <<< 53 * 10 ^ e := by
      rw [Nat.shiftLeft_eq]
      calc 2 ^ 52 ≤ 1 * 2 ^ 53 * 1 := by norm_num
        _ ≤ m * 2 ^ 53 * 10 ^ e := Nat.mul_le_mul (Nat.mul_le_mul_right _ hPositive) (Nat.pow_pos (by decide))
    have hMul := mul_finite_eq hShifted (Nat.pow_pos (by decide) : 0 < 10 ^ e) (-53) 0 hFull hCanonical hProduct
      .positive .positive
    have hModel : UnpackedFloat.ofScientific .binary64 m (e : ℤ) =
        UnpackedFloat.mul .binary64 (.finite .positive (m <<< 53) (-53) hShifted)
          (.finite .positive (10 ^ e) 0 (Nat.pow_pos (by decide))) := by
      have hUpper : ¬(e : ℤ) > 2 ^ Format.binary64.exponentBits := by simp only; omega
      have hLower : ¬(e : ℤ) < -((2 ^ Format.binary64.exponentBits : ℤ) + m.log2) := by simp only; omega
      rw [UnpackedFloat.ofScientific, dif_neg hPositive.ne', if_neg hUpper, if_neg hLower,
        if_pos (Int.natCast_nonneg e)]
      rfl
    rw [← hModel] at hMul
    exact congrArg packed hMul

end Scientific

/-! Decimals -/

namespace Magnitude.Nearest

variable {size : Magnitude} {x : ℚ} (hNearest : size.Nearest x) (hCanonical : size.Canonical)
include hNearest hCanonical

theorem lower_bound : (10 : ℚ) ^ (-324 : ℤ) ≤ x := by
  have hBelow := size.below_le
  have hPositive : (1 : ℚ) ≤ size.significand := by exact_mod_cast hCanonical.positive
  have hLeast : (2 : ℚ) ^ (-1074 : ℤ) ≤ 2 ^ size.exponent := zpow_le_zpow_right₀ one_le_two hCanonical.least
  have hPower : (2 : ℚ) ^ 1075 ≤ 10 ^ 324 := by
    exact_mod_cast two_pow_le_ten_pow (n := 1075) (k := 324) (by decide)
  calc (10 : ℚ) ^ (-324 : ℤ) ≤ 2 ^ (-1075 : ℤ) := by
        rw [zpow_neg, zpow_neg]
        exact inv_anti₀ (by positivity) hPower
    _ = 1 / 2 * 2 ^ (-1074 : ℤ) := by rw [one_div, ← zpow_neg_one, ← zpow_add₀ two_ne_zero]; rfl
    _ ≤ 1 / 2 * 2 ^ size.exponent := by linarith
    _ ≤ (size.significand - size.below) * 2 ^ size.exponent :=
      mul_le_mul_of_nonneg_right (by linarith) (two_zpow_pos _).le
    _ ≤ x := hNearest.low

theorem upper_bound (hGreatest : size.exponent ≤ 971) : x < 2 ^ 1024 := by
  have hExponent : (2 : ℚ) ^ (size.exponent + 53) ≤ 2 ^ ((1024 : ℕ) : ℤ) :=
    zpow_le_zpow_right₀ one_le_two (by push_cast; omega)
  rw [zpow_natCast] at hExponent
  exact (hNearest.lt_two_zpow hCanonical).trans_le hExponent

end Magnitude.Nearest

/-- The count of digits settles the reading of no decimal that rounds to a double. -/
theorem leading_bounds {d : Unsigned} (hPlaces : -400 ≤ d.exponent)
    (hLow : (10 : ℚ) ^ (-324 : ℤ) ≤ d.value) (hHigh : d.value < 2 ^ 1024) :
    -400 ≤ (Nat.log2 d.digits : ℤ) * 30103 / 100000 + d.exponent ∧
      (Nat.log2 d.digits : ℤ) * 30103 / 100000 + d.exponent ≤ 400 := by
  have hTen : (1 : ℚ) < 10 := by norm_num
  have hPower : (0 : ℚ) < 10 ^ d.exponent := by positivity
  have hSome : d.digits ≠ 0 := by
    intro hZero
    rw [Unsigned.value, hZero, Nat.cast_zero, zero_mul] at hLow
    exact absurd hLow (not_le.mpr (by positivity))
  have hFew : d.digits.log2 < 2400 := by
    refine (Nat.log2_lt hSome).mpr ?_
    have hScale : (10 : ℚ) ^ (-400 : ℤ) ≤ 10 ^ d.exponent := zpow_le_zpow_right₀ hTen.le hPlaces
    have hProduct : (d.digits : ℚ) * 10 ^ (-400 : ℤ) < 2 ^ 1024 :=
      (mul_le_mul_of_nonneg_left hScale (Nat.cast_nonneg _)).trans_lt hHigh
    have hPowers : (2 : ℚ) ^ 1024 * 10 ^ 400 ≤ 2 ^ 2400 := by
      calc (2 : ℚ) ^ 1024 * 10 ^ 400 ≤ 2 ^ 1024 * 2 ^ 1376 :=
            mul_le_mul_of_nonneg_left (mod_cast ten_pow_le_two_pow (n := 1376) (k := 400) (by decide)) (by positivity)
        _ = 2 ^ 2400 := (pow_add ..).symm
    rw [zpow_neg, ← div_eq_mul_inv, div_lt_iff₀ (by positivity)] at hProduct
    exact_mod_cast hProduct.trans_le hPowers
  obtain ⟨hEstimateLow, hEstimateHigh, -⟩ := ten_pow_estimate d.digits.log2 hFew
  have hExponent : (d.digits.log2 : ℤ) * 30103 / 100000 = (d.digits.log2 * 30103 / 100000 : ℕ) := by norm_cast
  rw [hExponent]
  generalize d.digits.log2 * 30103 / 100000 = g at *
  constructor
  · have hDigits : (d.digits : ℚ) < 10 ^ (g + 2) := by
      exact_mod_cast Nat.lt_log2_self.trans_le hEstimateHigh
    have hBound : (10 : ℚ) ^ (-324 : ℤ) < 10 ^ ((g + 2 : ℕ) + d.exponent) := by
      rw [zpow_add₀ (by norm_num), zpow_natCast]
      exact hLow.trans_lt (mul_lt_mul_of_pos_right hDigits hPower)
    have hOrder := (zpow_lt_zpow_iff_right₀ hTen).mp hBound
    push_cast at hOrder
    omega
  · have hDigits : (10 : ℚ) ^ g ≤ 10 * d.digits := by
      exact_mod_cast hEstimateLow.trans (Nat.mul_le_mul_left 10 (Nat.log2_self_le hSome))
    have hGreat : (2 : ℚ) ^ 1024 ≤ 10 ^ 309 := by
      exact_mod_cast two_pow_le_ten_pow (n := 1024) (k := 309) (by decide)
    have hBound : (10 : ℚ) ^ ((g : ℤ) + d.exponent) < 10 ^ ((310 : ℕ) : ℤ) := by
      rw [zpow_add₀ (by norm_num), zpow_natCast, zpow_natCast]
      calc (10 : ℚ) ^ g * 10 ^ d.exponent ≤ 10 * d.digits * 10 ^ d.exponent :=
            mul_le_mul_of_nonneg_right hDigits hPower.le
        _ = 10 * d.value := mul_assoc ..
        _ < 10 * 10 ^ 309 := mul_lt_mul_of_pos_left (hHigh.trans_le hGreat) (by norm_num)
        _ = 10 ^ 310 := (pow_succ' ..).symm
    have hOrder := (zpow_lt_zpow_iff_right₀ hTen).mp hBound
    push_cast at hOrder
    omega

/-- A decimal is read as the double to which it rounds. -/
theorem toFloat_eq {size : Magnitude} (hCanonical : size.Canonical) (hGreatest : size.exponent ≤ 971)
    {d : Unsigned} (hPlaces : -400 ≤ d.exponent) (hNearest : size.Nearest d.value) :
    d.toFloat = packed (.finite .positive size.significand size.exponent hCanonical.positive) := by
  have hLow := hNearest.lower_bound hCanonical
  obtain ⟨hAbove, hBelow⟩ := leading_bounds hPlaces hLow (hNearest.upper_bound hCanonical hGreatest)
  obtain ⟨digits, exponent⟩ := d
  have hSome : 0 < digits := by
    refine Nat.pos_of_ne_zero fun hZero => ?_
    rw [Unsigned.value, hZero, Nat.cast_zero, zero_mul] at hLow
    exact absurd hLow (not_le.mpr (by positivity))
  simp only at hAbove hBelow hPlaces
  rw [Unsigned.toFloat]
  simp only [hSome.ne', if_false, if_neg (not_lt.mpr hAbove), if_neg (not_lt.mpr hBelow), gt_iff_lt]
  cases exponent with
  | ofNat k =>
      have hProduct : size.Nearest (digits * 10 ^ k) := by
        rwa [Unsigned.value, Int.ofNat_eq_natCast, zpow_natCast] at hNearest
      rw [Int.ofNat_eq_natCast] at hBelow
      exact ofScientific_product_eq hCanonical hSome (by omega) hProduct
  | negSucc k =>
      have hQuotient : size.Nearest (digits / 10 ^ (k + 1)) := by
        rwa [Unsigned.value, zpow_negSucc, ← div_eq_mul_inv] at hNearest
      exact ofScientific_eq hCanonical hSome k.succ_pos (by omega) hQuotient

end Metasearch.Decimal
