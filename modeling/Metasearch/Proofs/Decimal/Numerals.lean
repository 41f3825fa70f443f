import Metasearch.Decimal.Layout
import Metasearch.Proofs.Decimal.Reading

/-! Decimals written in digits. A decimal is written in place or with an exponent, and what is read from
either has its value; of a finite double the shortest decimal gives back the double. -/
namespace Metasearch.Decimal

open Float.Model

/-! Numerals -/

theorem digitsValue_eq_ofDigitChars (digits : List Char) :
    Decimal.digitsValue digits = Nat.ofDigitChars 10 digits 0 := rfl

theorem ne_of_isDigit {c d : Char} (hDigit : c.isDigit = true) (hOther : d.isDigit = false) : c ≠ d := by
  rintro rfl
  exact Bool.false_ne_true (hOther.symm.trans hDigit)

/-- The digits of a whole number, without a zero that leads others. -/
structure Numeral (whole : List Char) : Prop where
  full : whole ≠ []
  digits : ∀ c ∈ whole, c.isDigit = true
  leading : whole.head? = some '0' → whole = ['0']

theorem Numeral.eq_cons {whole : List Char} (h : Numeral whole) :
    ∃ c more, whole = c :: more ∧ c.isDigit = true := by
  obtain ⟨c, more, rfl⟩ := List.exists_cons_of_ne_nil h.full
  exact ⟨c, more, rfl, h.digits c (List.mem_cons_self ..)⟩

/-- The sign of a number as it is written. -/
def signChars (negative : Bool) : List Char :=
  if negative then ['-'] else []

theorem Numeral.signed_eq_cons {whole : List Char} (h : Numeral whole) (negative : Bool) (rest : List Char) :
    ∃ c more, signChars negative ++ (whole ++ rest) = c :: more ∧ (c = '-' ∨ c.isDigit = true) := by
  cases negative with
  | true => exact ⟨'-', whole ++ rest, rfl, .inl rfl⟩
  | false =>
      obtain ⟨c, more, rfl, hDigit⟩ := h.eq_cons
      exact ⟨c, more ++ rest, rfl, .inr hDigit⟩

theorem eq_zero_of_head?_toDigits {n : Nat} (h : (Nat.toDigits 10 n).head? = some '0') : n = 0 := by
  induction n using Nat.strongRecOn with
  | ind n ih =>
      rw [Nat.toDigits_eq_if (by decide)] at h
      split at h
      · have hDigit : Nat.digitChar n = '0' := by simpa using h
        exact (Nat.digitChar_eq_zero).mp hDigit
      · obtain ⟨c, rest, hDigits⟩ := List.exists_cons_of_ne_nil (Nat.toDigits_ne_nil (n := n / 10) (b := 10))
        have hSmaller : n / 10 = 0 := ih _ (by omega) (by rw [hDigits] at h ⊢; exact h)
        omega

theorem numeral_toDigits (n : Nat) : Numeral (Nat.toDigits 10 n) where
  full := Nat.toDigits_ne_nil
  digits _ hDigit := Nat.isDigit_of_mem_toDigits (by decide) (by decide) hDigit
  leading hZero := by rw [eq_zero_of_head?_toDigits hZero, Nat.toDigits_zero]

theorem toList_toString_int (n : Int) :
    (toString n).toList = signChars (n < 0) ++ Nat.toDigits 10 n.natAbs := by
  rw [Int.toString_eq_repr]
  cases n with
  | ofNat n => simp [Int.repr, signChars]
  | negSucc n => simp [Int.repr, signChars, Int.negSucc_lt_zero]

/-- Digits after a sign are read as the whole number that they write. -/
theorem exponentOf_toDigits (n : ℤ) : exponentOf (n < 0) (Nat.toDigits 10 n.natAbs) = n := by
  rw [exponentOf, digitsValue_eq_ofDigitChars, Nat.ofDigitChars_ten_toDigits]
  split
  case isTrue hNegative =>
    have hBelow := of_decide_eq_true hNegative
    omega
  case isFalse hPositive =>
    have hAbove : ¬n < 0 := fun hBelow => hPositive (decide_eq_true hBelow)
    omega

/-! Digits in place -/

/-- A decimal in whole and fraction, as both are read. -/
structure Positional (d : Unsigned) (whole fraction : List Char) : Prop where
  numeral : Numeral whole
  full : fraction ≠ []
  digits : ∀ c ∈ fraction, c.isDigit = true
  short : (fraction.length : ℤ) ≤ max 1 (-d.exponent)
  value : (Unsigned.ofParts whole fraction 0).value = d.value

theorem isDigit_replicate {n : ℕ} : ∀ c ∈ List.replicate n '0', c.isDigit = true := by
  intro c hZero
  rw [List.eq_of_mem_replicate hZero]
  rfl

theorem positional_whole (n k : ℕ) :
    Positional ⟨n, k⟩ (Nat.toDigits 10 n ++ if n = 0 then [] else List.replicate k '0') ['0'] := by
  have hNumeral := numeral_toDigits n
  refine ⟨⟨?_, ?_, ?_⟩, List.cons_ne_nil _ _, isDigit_replicate (n := 1), le_max_left .., ?_⟩
  · simp [hNumeral.full]
  · intro c hDigit
    rcases List.mem_append.mp hDigit with hDigit | hZero
    · exact hNumeral.digits c hDigit
    · split at hZero
      case isTrue => simp at hZero
      case isFalse => exact isDigit_replicate c hZero
  · intro hHead
    rw [List.head?_append_of_ne_nil _ hNumeral.full] at hHead
    simp [eq_zero_of_head?_toDigits hHead]
  · have hDigits : digitsValue ((Nat.toDigits 10 n ++ if n = 0 then [] else List.replicate k '0') ++ ['0']) =
        10 * (10 ^ k * n) := by
      rw [digitsValue_eq_ofDigitChars, Nat.ofDigitChars_append, Nat.ofDigitChars_append,
        Nat.ofDigitChars_ten_toDigits]
      split
      case isTrue hZero => simp [hZero, Nat.ofDigitChars_cons]
      case isFalse => simp [Nat.ofDigitChars_cons]
    simp only [Unsigned.ofParts, Unsigned.value, hDigits, List.length_singleton]
    push_cast
    rw [zpow_neg_one, zpow_natCast]
    ring

section Fraction

variable {n k : ℕ} {padded : List Char}
  (hPadded : padded = List.replicate (k + 2 - (Nat.toDigits 10 n).length) '0' ++ Nat.toDigits 10 n)
include hPadded

theorem length_padded : padded.length = max (k + 2) (Nat.toDigits 10 n).length := by
  rw [hPadded, List.length_append, List.length_replicate]
  omega

theorem length_drop_padded : (padded.drop (padded.length - (k + 1))).length = k + 1 := by
  have hLength := length_padded hPadded
  rw [List.length_drop]
  omega

theorem positional_fraction : Positional ⟨n, .negSucc k⟩ (padded.take (padded.length - (k + 1)))
    (padded.drop (padded.length - (k + 1))) := by
  have hNumeral := numeral_toDigits n
  have hLength := length_padded hPadded
  have hPlaces := length_drop_padded hPadded
  have hDigits : ∀ c ∈ padded, c.isDigit = true := by
    intro c hDigit
    rw [hPadded] at hDigit
    exact (List.mem_append.mp hDigit).elim (isDigit_replicate c) (hNumeral.digits c)
  refine ⟨⟨?_, fun c hc => hDigits c (List.mem_of_mem_take hc), ?_⟩, ?_,
    fun c hc => hDigits c (List.mem_of_mem_drop hc), ?_, ?_⟩
  · refine List.ne_nil_of_length_pos ?_
    rw [List.length_take]
    omega
  · intro hHead
    by_cases hMany : k + 2 ≤ (Nat.toDigits 10 n).length
    · -- without zeros in front, only the numeral of zero begins with one
      rw [hPadded, Nat.sub_eq_zero_of_le hMany, List.replicate_zero, List.nil_append,
        List.head?_take, if_neg (by omega)] at hHead
      simp [eq_zero_of_head?_toDigits hHead] at hMany
    · have hOne : padded.length - (k + 1) = 1 := by omega
      rw [hOne] at hHead ⊢
      match padded with
      | [] => simp at hHead
      | c :: more => simpa using hHead
  · exact List.ne_nil_of_length_pos (hPlaces.symm ▸ k.succ_pos)
  · rw [hPlaces]
    simp only [Int.negSucc_eq]
    omega
  · have hValue : digitsValue padded = n := by
      rw [digitsValue_eq_ofDigitChars, hPadded, Nat.ofDigitChars_append, Nat.ofDigitChars_replicate_zero,
        Nat.mul_zero, Nat.ofDigitChars_ten_toDigits]
    rw [Unsigned.ofParts, List.take_append_drop, hValue, hPlaces, zero_sub, Unsigned.value, Unsigned.value,
      Int.negSucc_eq, Nat.cast_succ]

theorem toList_positional_negSucc : ((⟨n, .negSucc k⟩ : Unsigned).positional 1).toList =
    padded.take (padded.length - (k + 1)) ++ '.' :: padded.drop (padded.length - (k + 1)) := by
  have hText : (zeros (k + 2 - (digitsText n).length) ++ digitsText n).toList = padded := by
    simp [hPadded, digitsText, zeros, ← String.length_toList]
  have hPlaces := length_drop_padded hPadded
  have hNone : 1 - (k + 1) = 0 := by omega
  simp only [Unsigned.positional, hText, String.length_ofList, hPlaces, hNone]
  split
  case isTrue hEmpty => simp_all [zeros]
  case isFalse => simp [zeros]

end Fraction

/-- Digits in place are read with the value of the decimal. -/
theorem exists_positional (d : Unsigned) : ∃ whole fraction,
    (d.positional 1).toList = whole ++ '.' :: fraction ∧ Positional d whole fraction := by
  obtain ⟨n, k | k⟩ := d
  · refine ⟨_, _, ?_, positional_whole n k⟩
    by_cases hZero : n = 0 <;> simp [Unsigned.positional, digitsText, zeros, hZero]
  · exact ⟨_, _, toList_positional_negSucc rfl, positional_fraction rfl⟩

/-! Digits with an exponent -/

/-- A decimal that is not zero by its first digit and the others. -/
structure Scientific (d : Unsigned) (first : Char) (rest : List Char) : Prop where
  digits : Nat.toDigits 10 d.digits = first :: rest
  nonzero : d.digits ≠ 0

namespace Scientific

variable {d : Unsigned} {first : Char} {rest : List Char}

theorem numeral (h : Scientific d first rest) : Numeral [first] where
  full := List.cons_ne_nil _ _
  digits c hDigit := by
    rw [List.mem_singleton] at hDigit
    exact hDigit ▸ (numeral_toDigits d.digits).digits first (h.digits ▸ List.mem_cons_self ..)
  leading hHead := by rw [Option.some.inj hHead]

theorem isDigit_of_mem (h : Scientific d first rest) : ∀ c ∈ rest, c.isDigit = true := fun c hDigit =>
  (numeral_toDigits d.digits).digits c (h.digits ▸ List.mem_cons_of_mem _ hDigit)

theorem ofParts_eq (h : Scientific d first rest) :
    Unsigned.ofParts [first] rest (rest.length + d.exponent) = d := by
  rw [Unsigned.ofParts, List.singleton_append, ← h.digits, digitsValue_eq_ofDigitChars,
    Nat.ofDigitChars_ten_toDigits, add_sub_cancel_left]

end Scientific

/-- A decimal of which the point stands behind the first digit. -/
def scientificChars (first : Char) (rest : List Char) (exponent : ℤ) : List Char :=
  first :: ((if rest = [] then [] else '.' :: rest) ++ 'e' :: (toString exponent).toList)

/-- The compact form has all digits in place or an exponent. -/
theorem compact_cases (d : Unsigned) :
    (∃ whole fraction, d.compact.toList = whole ++ '.' :: fraction ∧ Positional d whole fraction) ∨
      ∃ first rest, d.compact.toList = scientificChars first rest (rest.length + d.exponent) ∧
        Scientific d first rest := by
  have hText : (digitsText d.digits).toList = Nat.toDigits 10 d.digits := Nat.toList_repr
  rw [Unsigned.compact]
  split_ifs with hZero hPlace
  · refine .inl ⟨['0'], ['0'], rfl, numeral_toDigits 0, List.cons_ne_nil _ _, isDigit_replicate (n := 1),
      le_max_left .., ?_⟩
    simp [Unsigned.value, Unsigned.ofParts, digitsValue, hZero]
  · exact .inl (exists_positional d)
  · obtain ⟨first, rest, hDigits⟩ := List.exists_cons_of_ne_nil (numeral_toDigits d.digits).full
    have hPoint : ((digitsText d.digits).length : ℤ) + d.exponent - 1 = rest.length + d.exponent := by
      rw [← String.length_toList, hText, hDigits, List.length_cons]
      omega
    refine .inr ⟨first, rest, ?_, hDigits, hZero⟩
    simp only [hPoint, hText, hDigits]
    cases rest with
    | nil => simp [scientificChars, hText, hDigits]
    | cons second rest => simp [scientificChars]

/-! Doubles -/

variable {x : Float}

theorem toList_signText (x : Float) : (signText x).toList = signChars (isNegative x) := by
  unfold signText signChars
  split <;> rfl

/-- A finite double, as its shortest decimal is found. -/
inductive FiniteForm (x : Float) : Prop where
  | zero (sign : UnpackedFloat.Sign) (hSame : x = packed (.zero sign)) (hShortest : shortest x = ⟨0, 0⟩)
  | nonzero (sign : UnpackedFloat.Sign) (size : Magnitude) (hCanonical : size.Canonical)
      (hGreatest : size.exponent ≤ 971)
      (hSame : x = packed (.finite sign size.significand size.exponent hCanonical.positive))
      (hSign : isNegative x = true ↔ sign = .negative) (hShortest : shortest x = size.shortest)

section Finite

variable (hFinite : x.isInf = false) (hNumber : x.isNaN = false)
include hFinite hNumber

theorem finiteForm : FiniteForm x := by
  match hUnpack : x.toModel.unpack with
  | .notANumber => cases (congrArg UnpackedFloat.isNaN hUnpack).symm.trans hNumber
  | .infinity sign => cases (congrArg UnpackedFloat.isInf hUnpack).symm.trans hFinite
  | .zero sign =>
      have hSame : x = packed (.zero sign) := by rw [← hUnpack, packed_unpack]
      refine .zero sign hSame ?_
      rw [hSame]
      cases sign <;> decide +kernel
  | .finite sign m e hPositive =>
      obtain ⟨hMagnitude, hCanonical, hGreatest⟩ := finite_parts hUnpack
      have hSame : x = packed (.finite sign m e hPositive) := by rw [← hUnpack, packed_unpack]
      have hSign := isNegative_of_unpack (.inr (.inr ⟨m, e, hPositive, hUnpack⟩))
      refine .nonzero sign ⟨m, e⟩ hCanonical hGreatest hSame hSign ?_
      rw [shortest, hMagnitude]
      exact if_neg hPositive.ne'

theorem le_exponent_shortest : -342 ≤ (shortest x).exponent := by
  cases finiteForm hFinite hNumber with
  | zero sign hSame hShortest => simp [hShortest]
  | nonzero sign size hCanonical hGreatest hSame hSign hShortest =>
      rw [hShortest]
      exact Magnitude.le_exponent_shortest hCanonical hGreatest

/-- A decimal with the value of the shortest one is read as the double. -/
theorem signedFloat_of_value_eq {d : Unsigned} (hPlaces : -400 ≤ d.exponent)
    (hValue : d.value = (shortest x).value) : signedFloat (isNegative x) d = x := by
  cases finiteForm hFinite hNumber with
  | zero sign hSame hShortest =>
      have hDigits : d.digits = 0 := by
        rw [hShortest] at hValue
        simpa [Unsigned.value, zpow_ne_zero] using hValue
      have hFloat : d.toFloat = packed (.zero .positive) := by
        rw [Unsigned.toFloat, if_pos hDigits]
        decide +kernel
      rw [signedFloat, hFloat, hSame]
      cases sign <;> decide +kernel
  | nonzero sign size hCanonical hGreatest hSame hSign hShortest =>
      have hNearest := Magnitude.nearest_shortest hCanonical hGreatest
      rw [← hShortest, ← hValue] at hNearest
      have hFloat := toFloat_eq hCanonical hGreatest hPlaces hNearest
      cases sign with
      | positive =>
          rw [signedFloat, if_neg (by simp [hSign]), hFloat]
          exact hSame.symm
      | negative =>
          rw [signedFloat, if_pos (hSign.mpr rfl), hFloat, neg_packed hCanonical hGreatest]
          exact hSame.symm

/-- The shortest decimal of a finite double is read as the double. -/
theorem signedFloat_shortest : signedFloat (isNegative x) (shortest x) = x := by
  have hExponent := le_exponent_shortest hFinite hNumber
  exact signedFloat_of_value_eq hFinite hNumber (by omega) rfl

theorem signedFloat_positional {whole fraction : List Char} (hParts : Positional (shortest x) whole fraction) :
    signedFloat (isNegative x) (.ofParts whole fraction 0) = x := by
  have hExponent := le_exponent_shortest hFinite hNumber
  have hShort := hParts.short
  exact signedFloat_of_value_eq hFinite hNumber (by simp only [Unsigned.ofParts]; omega) hParts.value

end Finite

end Metasearch.Decimal
