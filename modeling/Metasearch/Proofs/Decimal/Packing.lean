import Metasearch.Proofs.Decimal.Rounding
import Metasearch.Proofs.Ranking.TotalOrder

/-! The bits of doubles. Unpacking and packing undo each other, and the magnitude of a double is what unpacking
gives. -/
namespace Metasearch.Decimal

open Float.Model Float.Model.UnpackedFloat
open Ranking (toNat_unpackExponent toNat_unpackMantissa)

abbrev Bits := BitVec Format.binary64.numBits

theorem toNat_lt_bits (bits : Bits) : bits.toNat < 2 ^ 64 := bits.isLt

theorem toNat_unpackSign (bits : Bits) : (unpackSign bits).toNat = bits.toNat / 2 ^ 63 := by
  have hBits := toNat_lt_bits bits
  simp [unpackSign, Nat.shiftRight_eq_div_pow]
  omega

theorem toNat_packComponents (sign : Sign) (exponent : BitVec 11) (mantissa : BitVec 52) :
    (packComponents .binary64 sign exponent mantissa).toNat =
      sign.toBitVec.toNat * 2 ^ 63 + exponent.toNat * 2 ^ 52 + mantissa.toNat := by
  have hFields : (packComponents .binary64 sign exponent mantissa).toNat =
      (sign.toBitVec.toNat <<< 11 ||| exponent.toNat) <<< 52 ||| mantissa.toNat := rfl
  rw [hFields, ← Nat.shiftLeft_add_eq_or_of_lt mantissa.isLt, ← Nat.shiftLeft_add_eq_or_of_lt exponent.isLt,
    Nat.shiftLeft_eq, Nat.shiftLeft_eq]
  omega

theorem toBitVec_ofBitVec (bit : BitVec 1) : (Sign.ofBitVec bit).toBitVec = bit := by
  revert bit
  decide

/-- A bit pattern is put together again from its parts. -/
theorem packComponents_unpack (bits : Bits) :
    packComponents .binary64 (.ofBitVec (unpackSign bits)) (unpackExponent bits) (unpackMantissa bits) =
      bits := by
  apply BitVec.eq_of_toNat_eq
  rw [toNat_packComponents, toBitVec_ofBitVec, toNat_unpackSign, toNat_unpackExponent, toNat_unpackMantissa]
  omega

theorem unpackSign_packComponents (sign : Sign) (exponent : BitVec 11) (mantissa : BitVec 52) :
    unpackSign (packComponents .binary64 sign exponent mantissa) = sign.toBitVec := by
  apply BitVec.eq_of_toNat_eq
  have hExponent := exponent.isLt
  have hMantissa := mantissa.isLt
  rw [toNat_unpackSign, toNat_packComponents]
  omega

section Pack

variable {sign : Sign} {m : ℕ} {e : ℤ} (hPositive : 0 < m)

theorem pack_normal (hLow : 2 ^ 52 ≤ m) (hHigh : m < 2 ^ 53) (hLeast : -1074 ≤ e) (hGreatest : e ≤ 971) :
    UnpackedFloat.pack .binary64 (.finite sign m e hPositive) =
      packComponents .binary64 sign (.ofNat 11 (e + 1075).toNat) (.ofNat 52 m) := by
  have hLog : m.log2 = 52 := (Nat.log2_eq_iff hPositive.ne').mpr ⟨hLow, hHigh⟩
  have hBias : e + (Format.binary64.exponentBias : ℕ) + (52 : ℕ) = e + 1075 := by
    have hThis : Format.binary64.exponentBias = 1023 := by decide
    rw [hThis]
    push_cast
    ring
  have hFinite : ¬2 ^ 11 ≤ (e + 1075).toNat + 1 := by omega
  simp only [UnpackedFloat.pack, hBias, hLog, if_neg hFinite]
  rfl

theorem pack_subnormal (hHigh : m < 2 ^ 52) :
    UnpackedFloat.pack .binary64 (.finite sign m (-1074) hPositive) =
      packComponents .binary64 sign 0 (.ofNat 52 m) := by
  have hLog : m.log2 < 52 := (Nat.log2_lt hPositive.ne').mpr hHigh
  have hBits : Format.binary64.mantissaBits = 53 := rfl
  have hFew : ¬m.log2 + 1 = 53 := by omega
  simp only [UnpackedFloat.pack, hBits, if_neg hFew]
  rfl

end Pack

/-! Parts -/

def signOf (bits : Bits) : Sign := .ofBitVec (unpackSign bits)

def fieldOf (bits : Bits) : ℕ := bits.toNat / 2 ^ 52 % 2048

def fractionOf (bits : Bits) : ℕ := bits.toNat % 2 ^ 52

/-- What a bit pattern is unpacked to, told by its exponent field and its fraction. -/
inductive Unpacked (bits : Bits) : UnpackedFloat → Prop where
  | infinity (hField : fieldOf bits = 2047) (hFraction : fractionOf bits = 0) :
      Unpacked bits (.infinity (signOf bits))
  | notANumber (hField : fieldOf bits = 2047) (hFraction : fractionOf bits ≠ 0) : Unpacked bits .notANumber
  | zero (hField : fieldOf bits = 0) (hFraction : fractionOf bits = 0) : Unpacked bits (.zero (signOf bits))
  | subnormal (hField : fieldOf bits = 0) (hFraction : 0 < fractionOf bits) :
      Unpacked bits (.finite (signOf bits) (fractionOf bits) (-1074) hFraction)
  | normal (hLow : 0 < fieldOf bits) (hHigh : fieldOf bits < 2047) :
      Unpacked bits (.finite (signOf bits) (2 ^ 52 + fractionOf bits) (fieldOf bits - 1075)
        (Nat.add_pos_left (by decide) _))

theorem unpackExponent_eq_iff (bits : Bits) (exponent : BitVec 11) :
    unpackExponent bits = exponent ↔ fieldOf bits = exponent.toNat := by
  rw [← BitVec.toNat_inj, toNat_unpackExponent]
  rfl

theorem unpackMantissa_eq_zero_iff (bits : Bits) : unpackMantissa bits = 0#52 ↔ fractionOf bits = 0 := by
  rw [← BitVec.toNat_inj, toNat_unpackMantissa]
  rfl

theorem unpacked (bits : Bits) : Unpacked bits (UnpackedFloat.unpack .binary64 bits) := by
  have hBias : (Format.binary64.exponentBias : ℤ) + (52 : ℕ) = 1075 := by decide
  have hField : (unpackExponent bits).toNat = fieldOf bits := toNat_unpackExponent bits
  have hFraction : (unpackMantissa bits).toNat = fractionOf bits := toNat_unpackMantissa bits
  have hTop := unpackExponent_eq_iff bits (-1#11)
  have hZero := unpackExponent_eq_iff bits 0#11
  have hNone := unpackMantissa_eq_zero_iff bits
  have hSmall : fieldOf bits < 2048 := Nat.mod_lt _ (by decide)
  simp only [UnpackedFloat.unpack]
  split
  case isTrue hInfinite =>
    split
    case isTrue hEmpty => exact .infinity (hTop.mp hInfinite) (hNone.mp hEmpty)
    case isFalse hSome => exact .notANumber (hTop.mp hInfinite) (mt hNone.mpr hSome)
  case isFalse hFinite =>
    split
    case isTrue hLeast =>
      split
      case isTrue hEmpty => exact .zero (hZero.mp hLeast) (hNone.mp hEmpty)
      case isFalse hSome =>
        convert Unpacked.subnormal (hZero.mp hLeast) (Nat.pos_of_ne_zero (mt hNone.mpr hSome)) using 2
        · rfl
        · rw [hField, hBias, hZero.mp hLeast]
          rfl
    case isFalse hMore =>
      have hLow : fieldOf bits ≠ 0 := mt hZero.mpr hMore
      have hHigh : fieldOf bits ≠ 2047 := mt hTop.mpr hFinite
      convert Unpacked.normal (Nat.pos_of_ne_zero hLow) (by omega : fieldOf bits < 2047) using 2
      · rfl
      · have hHidden : (1#1 ++ unpackMantissa bits).toNat = 1 <<< 52 ||| (unpackMantissa bits).toNat := rfl
        rw [hHidden, ← Nat.shiftLeft_add_eq_or_of_lt (unpackMantissa bits).isLt, hFraction]
        rfl
      · rw [hField, hBias]

/-- Packing what was unpacked from valid bits gives the bits. -/
theorem pack_unpack {bits : Bits} (hValid : Format.binary64.Valid bits) :
    UnpackedFloat.pack .binary64 (UnpackedFloat.unpack .binary64 bits) = bits := by
  have hParts := packComponents_unpack bits
  have hFraction : (unpackMantissa bits).toNat = fractionOf bits := toNat_unpackMantissa bits
  have hSmall : fractionOf bits < 2 ^ 52 := Nat.mod_lt _ (by decide)
  have hMantissa : unpackMantissa bits = .ofNat 52 (fractionOf bits) := by
    rw [← hFraction, BitVec.ofNat_toNat, BitVec.setWidth_eq]
  have hUnpacked := unpacked bits
  generalize UnpackedFloat.unpack .binary64 bits = u at hUnpacked ⊢
  cases hUnpacked with
  | infinity hField hEmpty =>
      rw [(unpackExponent_eq_iff bits (-1#11)).mpr hField,
        (unpackMantissa_eq_zero_iff bits).mpr hEmpty] at hParts
      exact hParts
  | notANumber hField hSome =>
      exact (hValid.eq_packedNaN ((unpackExponent_eq_iff bits (-1#11)).mpr hField)
        (mt (unpackMantissa_eq_zero_iff bits).mp hSome)).symm
  | zero hField hEmpty =>
      rw [(unpackExponent_eq_iff bits 0#11).mpr hField, (unpackMantissa_eq_zero_iff bits).mpr hEmpty] at hParts
      exact hParts
  | subnormal hField hSome =>
      rw [(unpackExponent_eq_iff bits 0#11).mpr hField, hMantissa] at hParts
      rw [pack_subnormal hSome hSmall]
      exact hParts
  | normal hLow hHigh =>
      have hExponent : ((fieldOf bits : ℤ) - 1075 + 1075).toNat = fieldOf bits := by omega
      have hField : unpackExponent bits = .ofNat 11 (fieldOf bits) :=
        (unpackExponent_eq_iff bits _).mpr (by rw [BitVec.toNat_ofNat]; omega)
      have hHidden : BitVec.ofNat 52 (2 ^ 52 + fractionOf bits) = .ofNat 52 (fractionOf bits) := by
        apply BitVec.eq_of_toNat_eq
        simp
      rw [pack_normal _ (Nat.le_add_right ..) (by omega) (by omega) (by omega), hExponent, hHidden, ← hField,
        ← hMantissa]
      exact hParts

section Parts

variable (sign : Sign) (exponent : BitVec 11) (mantissa : BitVec 52)

theorem signOf_packComponents : signOf (packComponents .binary64 sign exponent mantissa) = sign := by
  rw [signOf, unpackSign_packComponents]
  cases sign <;> rfl

theorem fieldOf_packComponents :
    fieldOf (packComponents .binary64 sign exponent mantissa) = exponent.toNat := by
  have hField := toNat_unpackExponent (packComponents .binary64 sign exponent mantissa)
  rwa [unpackExponent_packComponents, eq_comm] at hField

theorem fractionOf_packComponents :
    fractionOf (packComponents .binary64 sign exponent mantissa) = mantissa.toNat := by
  have hFraction := toNat_unpackMantissa (packComponents .binary64 sign exponent mantissa)
  rwa [unpackMantissa_packComponents, eq_comm] at hFraction

end Parts

/-- Unpacking what was packed from a magnitude that doubles have gives the magnitude. -/
theorem unpack_pack {size : Magnitude} (hCanonical : size.Canonical) (hGreatest : size.exponent ≤ 971)
    (sign : Sign) :
    UnpackedFloat.unpack .binary64
        (UnpackedFloat.pack .binary64 (.finite sign size.significand size.exponent hCanonical.positive)) =
      .finite sign size.significand size.exponent hCanonical.positive := by
  obtain ⟨m, e⟩ := size
  have hPositive : 0 < m := hCanonical.positive
  have hHigh : m < 2 ^ 53 := hCanonical.bounded
  have hLeast : -1074 ≤ e := hCanonical.least
  have hFull : 2 ^ 52 ≤ m ∨ e = -1074 := hCanonical.full
  replace hGreatest : e ≤ 971 := hGreatest
  by_cases hLow : 2 ^ 52 ≤ m
  · rw [pack_normal hPositive hLow hHigh hLeast hGreatest]
    generalize hBits : packComponents .binary64 sign (.ofNat 11 (e + 1075).toNat) (.ofNat 52 m) = bits
    have hSign : signOf bits = sign := hBits ▸ signOf_packComponents ..
    have hField : fieldOf bits = (e + 1075).toNat := by
      rw [← hBits, fieldOf_packComponents, BitVec.toNat_ofNat]
      omega
    have hFraction : 2 ^ 52 + fractionOf bits = m := by
      rw [← hBits, fractionOf_packComponents, BitVec.toNat_ofNat]
      omega
    have hUnpacked := unpacked bits
    generalize UnpackedFloat.unpack .binary64 bits = u at hUnpacked ⊢
    cases hUnpacked with
    | normal =>
      congr 1
      show (fieldOf bits : ℤ) - 1075 = e
      omega
    | _ => omega
  · obtain rfl : e = -1074 := hFull.resolve_left hLow
    rw [pack_subnormal hPositive (by omega)]
    generalize hBits : packComponents .binary64 sign 0 (.ofNat 52 m) = bits
    have hSign : signOf bits = sign := hBits ▸ signOf_packComponents ..
    have hField : fieldOf bits = 0 := by
      rw [← hBits, fieldOf_packComponents]
      rfl
    have hFraction : fractionOf bits = m := by
      rw [← hBits, fractionOf_packComponents, BitVec.toNat_ofNat]
      omega
    have hUnpacked := unpacked bits
    generalize UnpackedFloat.unpack .binary64 bits = u at hUnpacked ⊢
    cases hUnpacked with
    | subnormal => congr 1
    | _ => omega

/-! Floats -/

/-- The double that a model is packed to. -/
def packed (u : UnpackedFloat) : Float :=
  .ofModel (.pack u)

theorem packed_unpack (x : Float) : packed x.toModel.unpack = x := by
  obtain ⟨⟨bits, hValid⟩⟩ := x
  simp only [packed, Float.Model.pack, Float.Model.unpack, pack_unpack hValid, UInt64.ofBitVec_toBitVec]

theorem unpack_packed {size : Magnitude} (hCanonical : size.Canonical) (hGreatest : size.exponent ≤ 971)
    (sign : Sign) :
    (packed (.finite sign size.significand size.exponent hCanonical.positive)).toModel.unpack =
      .finite sign size.significand size.exponent hCanonical.positive :=
  unpack_pack hCanonical hGreatest sign

theorem neg_packed {size : Magnitude} (hCanonical : size.Canonical) (hGreatest : size.exponent ≤ 971)
    (sign : Sign) :
    -packed (.finite sign size.significand size.exponent hCanonical.positive) =
      packed (.finite (-sign) size.significand size.exponent hCanonical.positive) :=
  congrArg (packed ∘ UnpackedFloat.neg) (unpack_packed hCanonical hGreatest sign)

/-- The parts of a finite double that is not zero. -/
theorem finite_parts {x : Float} {sign : Sign} {m : ℕ} {e : ℤ} {hPositive : 0 < m}
    (h : x.toModel.unpack = .finite sign m e hPositive) :
    Magnitude.ofFloat x = ⟨m, e⟩ ∧ (⟨m, e⟩ : Magnitude).Canonical ∧ e ≤ 971 := by
  have hUnpacked := unpacked x.toModel.toBits.toBitVec
  have hFraction : fractionOf x.toModel.toBits.toBitVec = x.toBits.toNat % hiddenBit := rfl
  have hField : fieldOf x.toModel.toBits.toBitVec = x.toBits.toNat / hiddenBit % 2048 := rfl
  have hHidden : hiddenBit = 2 ^ 52 := rfl
  have hSmall : fractionOf x.toModel.toBits.toBitVec < 2 ^ 52 := Nat.mod_lt _ (by decide)
  rw [Magnitude.ofFloat]
  simp only [← hFraction, ← hField]
  rw [Float.Model.unpack] at h
  rw [h] at hUnpacked
  cases hUnpacked with
  | subnormal hLeast =>
      rw [if_pos hLeast]
      exact ⟨rfl, ⟨hPositive, by simp only; omega, le_refl _, .inr rfl⟩, by decide⟩
  | normal hLow hHigh =>
      rw [if_neg hLow.ne', hHidden]
      exact ⟨rfl, ⟨hPositive, by simp only; omega, by simp only; omega, .inl (by simp only; omega)⟩, by omega⟩

theorem signOf_eq_negative_iff (bits : Bits) : signOf bits = .negative ↔ 2 ^ 63 ≤ bits.toNat := by
  have hBits := toNat_lt_bits bits
  have hZero : unpackSign bits = 0#1 ↔ bits.toNat < 2 ^ 63 := by
    rw [← BitVec.toNat_inj, toNat_unpackSign, BitVec.toNat_ofNat]
    omega
  rw [signOf, Sign.ofBitVec]
  split
  case isTrue hSign => simpa using hZero.mp hSign
  case isFalse hSign => simpa using mt hZero.mpr hSign

theorem isNegative_iff (x : Float) : isNegative x = true ↔ signOf x.toModel.toBits.toBitVec = .negative :=
  decide_eq_true_iff.trans (signOf_eq_negative_iff _).symm

/-- The signs of what a double is unpacked to. -/
theorem isNegative_of_unpack {x : Float} {sign : Sign}
    (h : x.toModel.unpack = .infinity sign ∨ x.toModel.unpack = .zero sign ∨
      ∃ m e hPositive, x.toModel.unpack = .finite sign m e hPositive) :
    isNegative x = true ↔ sign = .negative := by
  rw [isNegative_iff]
  have hUnpacked := unpacked x.toModel.toBits.toBitVec
  rw [Float.Model.unpack] at h
  generalize UnpackedFloat.unpack .binary64 x.toModel.toBits.toBitVec = u at h hUnpacked
  rcases h with rfl | rfl | ⟨m, e, hPositive, rfl⟩ <;> cases hUnpacked <;> rfl

end Metasearch.Decimal
