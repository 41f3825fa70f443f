import Metasearch.Proofs.Toml.Numbers

/-! Doubles of TOML. A double is written with the fewest digits that tell it from its neighbours, and reads
back as it was. -/
namespace Metasearch.Toml

open Document Decimal Float.Model

variable {x : Float}

theorem writeFloat_of_isInf (hInfinite : x.isInf = true) (hNumber : x.isNaN = false) :
    writeFloat x = signChars (isNegative x) ++ ['i', 'n', 'f'] := by
  simp only [writeFloat, hNumber, hInfinite, Bool.false_eq_true, if_false, if_true]
  simp [toList_signText]

theorem exists_writeFloat (hFinite : x.isInf = false) (hNumber : x.isNaN = false) : ∃ whole fraction,
    writeFloat x = signChars (isNegative x) ++ (whole ++ '.' :: fraction) ∧
      Positional (shortest x) whole fraction := by
  obtain ⟨whole, fraction, hText, hParts⟩ := exists_positional (shortest x)
  refine ⟨whole, fraction, ?_, hParts⟩
  simp only [writeFloat, hNumber, hFinite, Bool.false_eq_true, if_false]
  simp [toList_signText, hText]

/-- A number that is written begins with its sign or a digit, or is infinite. -/
theorem writeFloat_eq_cons (hNumber : x.isNaN = false) :
    ∃ c more, writeFloat x = c :: more ∧ StartsNumber c := by
  cases hFinite : x.isInf with
  | true =>
      rw [writeFloat_of_isInf hFinite hNumber]
      cases isNegative x with
      | true => exact ⟨_, _, rfl, .inl rfl⟩
      | false => exact ⟨_, _, rfl, .inr (.inl rfl)⟩
  | false =>
      obtain ⟨whole, fraction, hText, hParts⟩ := exists_writeFloat hFinite hNumber
      exact hText ▸ startsNumber_numeral _ hParts.numeral _

theorem readScalar_infinity (negative : Bool) (rest : List Char) :
    readScalar (signChars negative ++ 'i' :: 'n' :: 'f' :: rest) =
      some (.float (packed (.infinity (if negative then .negative else .positive))), rest) := by
  have hPositive : (1.0 / 0.0 : Float) = packed (.infinity .positive) := by decide +kernel
  have hNegative : (-1.0 / 0.0 : Float) = packed (.infinity .negative) := by decide +kernel
  have hMoment : startsMoment (signChars negative ++ 'i' :: 'n' :: 'f' :: rest) = false := by
    cases negative with
    | true => exact startsMoment_cons (by decide) _
    | false => exact startsMoment_cons (by decide) _
  rw [readScalar, hMoment, if_neg Bool.false_ne_true]
  cases negative with
  | true => simp [readNumber, readSpecial, takeSign, signChars, hNegative]
  | false => simp [readNumber, readSpecial, takeSign, signChars, hPositive]

theorem readScalar_writeFloat (hNumber : x.isNaN = false) {rest : List Char} (hRest : EndsValue rest) :
    readScalar (writeFloat x ++ rest) = some (.float x, rest) := by
  cases hFinite : x.isInf with
  | true =>
      match hUnpack : x.toModel.unpack with
      | .infinity sign =>
          have hSame : x = packed (.infinity sign) := by rw [← hUnpack, packed_unpack]
          have hSign := isNegative_of_unpack (.inl hUnpack)
          have hFloat : packed (.infinity (if isNegative x then .negative else .positive)) = x := by
            cases sign with
            | positive => rw [if_neg (by simp [hSign]), ← hSame]
            | negative => rw [if_pos (hSign.mpr rfl), ← hSame]
          rw [writeFloat_of_isInf hFinite hNumber, List.append_assoc]
          exact (readScalar_infinity (isNegative x) rest).trans (by rw [hFloat])
      | .notANumber | .zero _ | .finite .. =>
          cases (congrArg UnpackedFloat.isInf hUnpack).symm.trans hFinite
  | false =>
      obtain ⟨whole, fraction, hText, hParts⟩ := exists_writeFloat hFinite hNumber
      have hSame := signedFloat_positional hFinite hNumber hParts
      have hRead := readScalar_fraction (isNegative x) hParts.numeral hParts.full hParts.digits hRest
        (hSame.symm ▸ hFinite)
      rw [hText, List.append_assoc, List.append_assoc, List.cons_append, hRead, hSame]

end Metasearch.Toml
