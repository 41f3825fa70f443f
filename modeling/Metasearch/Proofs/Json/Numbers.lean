import Metasearch.Json.Printer
import Metasearch.Json.Reader
import Metasearch.Proofs.Decimal.Numerals

/-! Numbers of JSON. A number is read up to what cannot belong to it. A whole number that fits a word and every
finite double are read from what is written of them, whether in place or with an exponent. -/
namespace Metasearch.Json

open Document Decimal

/-- What stands after a value: nothing, or what separates it from the next or closes around it. -/
def EndsValue (rest : List Char) : Prop :=
  ∀ c ∈ rest.head?, c = ',' ∨ c = ']' ∨ c = '\x7d'

theorem endsValue_nil : EndsValue [] := fun _ hHead => by cases hHead

theorem endsValue_comma (rest : List Char) : EndsValue (',' :: rest) := by rintro c ⟨⟩; exact .inl rfl

theorem endsValue_bracket (rest : List Char) : EndsValue (']' :: rest) := by rintro c ⟨⟩; exact .inr (.inl rfl)

theorem endsValue_brace (rest : List Char) : EndsValue ('\x7d' :: rest) := by rintro c ⟨⟩; exact .inr (.inr rfl)

/-! Parts of a number -/

/-- Nothing that could belong to a run of digits before it. -/
def EndsDigits (rest : List Char) : Prop :=
  ∀ c ∈ rest.head?, isDigit c = false

theorem endsDigits_cons {c : Char} (hOther : isDigit c = false) (rest : List Char) : EndsDigits (c :: rest) := by
  rintro d ⟨⟩
  exact hOther

theorem EndsValue.endsDigits {rest : List Char} (h : EndsValue rest) : EndsDigits rest := by
  intro c hHead
  rcases h c hHead with rfl | rfl | rfl <;> decide

theorem takeWhile_digits {digits rest : List Char} (hDigits : ∀ c ∈ digits, isDigit c = true)
    (hRest : EndsDigits rest) :
    (digits ++ rest).takeWhile isDigit = digits ∧ (digits ++ rest).dropWhile isDigit = rest := by
  rw [List.takeWhile_append_of_pos hDigits, List.dropWhile_append_of_pos hDigits]
  cases rest with
  | nil => simp
  | cons c rest => simp [hRest c rfl]

theorem takeFraction_digits {fraction rest : List Char} (hFull : fraction ≠ [])
    (hDigits : ∀ c ∈ fraction, isDigit c = true) (hRest : EndsDigits rest) :
    takeFraction ('.' :: (fraction ++ rest)) = some (some fraction, rest) := by
  obtain ⟨hTake, hDrop⟩ := takeWhile_digits hDigits hRest
  simp only [takeFraction, hTake, hDrop, List.isEmpty_iff, if_neg hFull]

theorem takeFraction_none {rest : List Char} (hRest : ∀ c ∈ rest.head?, c ≠ '.') :
    takeFraction rest = some (none, rest) := by
  rw [takeFraction]
  rintro more rfl
  exact hRest '.' rfl rfl

theorem takeExponent_toString (n : ℤ) {rest : List Char} (hRest : EndsDigits rest) :
    takeExponent ('e' :: ((toString n).toList ++ rest)) = some (some n, rest) := by
  have hNumeral := numeral_toDigits n.natAbs
  obtain ⟨hTake, hDrop⟩ := takeWhile_digits hNumeral.digits hRest
  have hValue := exponentOf_toDigits n
  rw [toList_toString_int, List.append_assoc]
  cases hSign : decide (n < 0) with
  | true =>
      rw [hSign] at hValue
      simp [takeExponent, signChars, hTake, hDrop, hNumeral.full, hValue]
  | false =>
      rw [hSign] at hValue
      obtain ⟨c, more, hDigits, hHead⟩ := hNumeral.eq_cons
      have hMinus : c ≠ '-' := ne_of_isDigit hHead (by decide)
      have hPlus : c ≠ '+' := ne_of_isDigit hHead (by decide)
      rw [hDigits] at hTake hDrop hValue ⊢
      rw [List.cons_append] at hTake hDrop
      simp [takeExponent, signChars, hTake, hDrop, hMinus, hPlus, hValue]

/-- No part of a number begins where its value ends. -/
theorem EndsValue.takeFraction {rest : List Char} (h : EndsValue rest) :
    takeFraction rest = some (none, rest) := by
  refine takeFraction_none fun c hHead => ?_
  rcases h c hHead with rfl | rfl | rfl <;> decide

theorem EndsValue.takeExponent {rest : List Char} (h : EndsValue rest) :
    takeExponent rest = some (none, rest) := by
  cases rest with
  | nil => rfl
  | cons c rest => rcases h c rfl with rfl | rfl | rfl <;> rfl

/-- A number is read by its sign, its digits before the point, its fraction and its exponent. -/
theorem readNumber_numeral (negative : Bool) {whole rest afterFraction after : List Char} (h : Numeral whole)
    (hRest : EndsDigits rest) {fraction : Option (List Char)} {exponent : Option ℤ}
    (hFraction : takeFraction rest = some (fraction, afterFraction))
    (hExponent : takeExponent afterFraction = some (exponent, after)) :
    readNumber (signChars negative ++ (whole ++ rest)) =
      some (numberValue negative whole fraction exponent, after) := by
  obtain ⟨hTake, hDrop⟩ := takeWhile_digits h.digits hRest
  have hAlone : (whole.isEmpty || whole.length > 1 && whole.head? == some '0') = false := by
    have hFull := h.full
    have hLeading := h.leading
    grind
  cases negative with
  | true =>
      have hText : signChars true ++ (whole ++ rest) = '-' :: (whole ++ rest) := rfl
      rw [hText, readNumber]
      simp [hTake, hDrop, hAlone, hFraction, hExponent]
  | false =>
      have hText : signChars false ++ (whole ++ rest) = whole ++ rest := rfl
      rw [hText, readNumber]
      · simp [hTake, hDrop, hAlone, hFraction, hExponent]
      · obtain ⟨c, more, rfl, hDigit⟩ := h.eq_cons
        exact fun _ hSame => ne_of_isDigit hDigit (by decide) (List.cons.inj hSame).1

/-! Whole numbers and doubles -/

/-- A whole number of one word, with a sign or without. -/
def FitsWord (n : ℤ) : Prop :=
  -((UInt64.size / 2 : ℕ) : ℤ) ≤ n ∧ n < (UInt64.size : ℕ)

theorem numberValue_toDigits {n : ℤ} (hFits : FitsWord n) :
    numberValue (n < 0) (Nat.toDigits 10 n.natAbs) none none = .int n := by
  have hValue : digitsValue (Nat.toDigits 10 n.natAbs) = n.natAbs := by
    rw [digitsValue_eq_ofDigitChars, Nat.ofDigitChars_ten_toDigits]
  obtain ⟨hLow, hHigh⟩ := hFits
  rw [numberValue, hValue]
  by_cases hNegative : n < 0
  · have hSmall : 0 < n.natAbs ∧ n.natAbs ≤ UInt64.size / 2 := by omega
    have hSame : -(n.natAbs : ℤ) = n := by omega
    simp only [Option.isSome_none, Bool.or_self, Bool.false_eq_true, decide_eq_true_eq, if_pos hNegative,
      if_pos hSmall, hSame, if_false]
  · have hSmall : n.natAbs < UInt64.size := by omega
    have hSame : (n.natAbs : ℤ) = n := by omega
    simp only [Option.isSome_none, Bool.or_self, Bool.false_eq_true, decide_eq_true_eq, if_neg hNegative,
      if_pos hSmall, hSame, if_false]

/-- A whole number of one word is read as itself. -/
theorem readNumber_toString {n : ℤ} (hFits : FitsWord n) {rest : List Char} (hRest : EndsValue rest) :
    readNumber ((toString n).toList ++ rest) = some (.int n, rest) := by
  rw [toList_toString_int, List.append_assoc,
    readNumber_numeral (n < 0) (numeral_toDigits n.natAbs) hRest.endsDigits hRest.takeFraction
      hRest.takeExponent, numberValue_toDigits hFits]

theorem readNumber_scientific (negative : Bool) {d : Unsigned} {first : Char} {digits : List Char}
    (h : Scientific d first digits) {rest : List Char} (hRest : EndsDigits rest) :
    readNumber (signChars negative ++ (scientificChars first digits (digits.length + d.exponent) ++ rest)) =
      some (numberValue negative [first] (if digits = [] then none else some digits)
        (some (digits.length + d.exponent)), rest) := by
  have hExponent := takeExponent_toString (digits.length + d.exponent) hRest
  have hMark := endsDigits_cons (by decide : isDigit 'e' = false)
    ((toString (digits.length + d.exponent)).toList ++ rest)
  by_cases hNone : digits = []
  · have hFraction : takeFraction ('e' :: ((toString (digits.length + d.exponent)).toList ++ rest)) =
        some (none, _) := takeFraction_none (by rintro c ⟨⟩; decide)
    have hRead := readNumber_numeral negative h.numeral hMark hFraction hExponent
    simpa [scientificChars, hNone] using hRead
  · have hFraction := takeFraction_digits hNone h.isDigit_of_mem hMark
    have hRead := readNumber_numeral negative h.numeral (endsDigits_cons (by decide) _) hFraction hExponent
    simpa [scientificChars, hNone] using hRead

theorem toList_writeFloat {x : Float} (hFinite : x.isInf = false) (hNumber : x.isNaN = false) :
    writeFloat x = signChars (isNegative x) ++ (shortest x).compact.toList := by
  rw [writeFloat, hFinite, hNumber]
  simp only [Bool.or_self, Bool.false_eq_true, if_false, String.toList_append, toList_signText]

/-- A finite double is read as itself, whichever form it has. -/
theorem readNumber_writeFloat {x : Float} (hFinite : x.isInf = false) (hNumber : x.isNaN = false)
    {rest : List Char} (hRest : EndsValue rest) : readNumber (writeFloat x ++ rest) = some (.float x, rest) := by
  rw [toList_writeFloat hFinite hNumber, List.append_assoc]
  rcases compact_cases (shortest x) with ⟨whole, fraction, hText, hParts⟩ | ⟨first, digits, hText, hParts⟩
  · have hSame := signedFloat_positional hFinite hNumber hParts
    rw [hText, List.append_assoc, List.cons_append,
      readNumber_numeral (isNegative x) hParts.numeral (endsDigits_cons (by decide) _)
        (takeFraction_digits hParts.full hParts.digits hRest.endsDigits) hRest.takeExponent]
    simp [numberValue, hSame, hFinite]
  · have hSame := signedFloat_shortest hFinite hNumber
    rw [← hParts.ofParts_eq] at hSame
    rw [hText, readNumber_scientific (isNegative x) hParts hRest.endsDigits]
    by_cases hNone : digits = [] <;> simp_all [numberValue]

/-- What a number begins with. -/
def StartsNumber (c : Char) : Prop :=
  c = '-' ∨ isDigit c = true

theorem startsNumber_toString (n : ℤ) (rest : List Char) :
    ∃ c more, (toString n).toList ++ rest = c :: more ∧ StartsNumber c := by
  rw [toList_toString_int, List.append_assoc]
  exact (numeral_toDigits n.natAbs).signed_eq_cons (n < 0) rest

theorem startsNumber_writeFloat {x : Float} (hFinite : x.isInf = false) (hNumber : x.isNaN = false)
    (rest : List Char) : ∃ c more, writeFloat x ++ rest = c :: more ∧ StartsNumber c := by
  rw [toList_writeFloat hFinite hNumber, List.append_assoc]
  rcases compact_cases (shortest x) with ⟨whole, fraction, hText, hParts⟩ | ⟨first, digits, hText, hParts⟩
  · rw [hText, List.append_assoc]
    exact hParts.numeral.signed_eq_cons (isNegative x) _
  · rw [hText]
    exact hParts.numeral.signed_eq_cons (isNegative x) _

end Metasearch.Json
