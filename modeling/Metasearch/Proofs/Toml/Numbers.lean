import Metasearch.Proofs.Decimal.Numerals
import Metasearch.Toml.Printer
import Metasearch.Toml.Scalar

/-! Numbers of TOML. A numeral is read up to what cannot belong to it, and a whole number reads back as it
was. -/
namespace Metasearch.Toml

open Document Decimal

/-- What stands after a value in a line or in a list. -/
def EndsValue (rest : List Char) : Prop :=
  ∃ c more, rest = c :: more ∧ (c = '\n' ∨ c = ',' ∨ c = ']')

theorem endsValue_newline (rest : List Char) : EndsValue ('\n' :: rest) := ⟨_, rest, rfl, .inl rfl⟩

theorem endsValue_comma (rest : List Char) : EndsValue (',' :: rest) := ⟨_, rest, rfl, .inr (.inl rfl)⟩

theorem endsValue_bracket (rest : List Char) : EndsValue (']' :: rest) := ⟨_, rest, rfl, .inr (.inr rfl)⟩

theorem takeDigits_append {digits : List Char} (hFull : digits ≠ [])
    (hDigits : ∀ c ∈ digits, isDigit c = true) {d : Char} (hStop : isDigit d = false) (hJoin : d ≠ '_')
    (rest : List Char) : takeDigits isDigit (digits ++ d :: rest) = some (digits, d :: rest) := by
  induction digits with
  | nil => contradiction
  | cons c digits ih =>
      have hHead := hDigits c (List.mem_cons_self ..)
      match digits with
      | [] => simp [takeDigits, hHead, hStop]
      | e :: digits =>
          have hNext := hDigits e (by simp)
          have hUnder : e ≠ '_' := ne_of_isDigit hNext (by decide)
          have hMore := ih (by simp) fun c hc => hDigits c (List.mem_cons_of_mem _ hc)
          rw [List.cons_append] at hMore
          simp [takeDigits, hHead, hNext, hMore, prepend]

theorem takeWhole_numeral {whole : List Char} (h : Numeral whole) {d : Char}
    (hStop : isDigit d = false) (hJoin : d ≠ '_') (rest : List Char) :
    takeWhole (whole ++ d :: rest) = some (whole, d :: rest) := by
  by_cases hZero : whole.head? = some '0'
  · simp [h.leading hZero, Toml.takeWhole]
  · rw [Toml.takeWhole]
    · exact takeDigits_append h.full h.digits hStop hJoin rest
    · intro more hMore
      obtain ⟨c, tail, rfl, -⟩ := h.eq_cons
      simp_all

/-- A field of digits in a numeral ends within the numeral or with it. -/
theorem takeField_append {digits : List Char} (hDigits : ∀ c ∈ digits, isDigit c = true) {d : Char}
    (hStop : isDigit d = false) {rest more : List Char} {count lo hi n : Nat} (hCount : 0 < count) {c : Char}
    (h : takeField count lo hi (digits ++ d :: rest) = some (n, c :: more)) :
    isDigit c = true ∨ digits ≠ [] ∧ c = d := by
  simp only [takeField, Option.ite_none_right_eq_some, Option.some.injEq, Prod.mk.injEq] at h
  obtain ⟨⟨-, hField, -⟩, -, hRest⟩ := h
  rcases Nat.lt_trichotomy count digits.length with hShort | hSame | hLong
  · rw [List.drop_append_of_le_length (Nat.le_of_lt hShort), List.drop_eq_getElem_cons hShort] at hRest
    obtain ⟨rfl, -⟩ := List.cons.inj hRest
    exact .inl (hDigits _ (List.getElem_mem _))
  · rw [hSame, List.drop_left] at hRest
    exact .inr ⟨List.ne_nil_of_length_pos (by omega), (List.cons.inj hRest).1.symm⟩
  · obtain ⟨extra, hExtra⟩ := Nat.exists_eq_add_of_lt hLong
    have hMem : d ∈ (digits ++ d :: rest).take count := by
      simp [hExtra, Nat.add_assoc, List.take_append]
    simp [List.all_eq_true.mp hField d hMem] at hStop

/-- No moment begins with digits that neither a dash nor a colon follows. -/
theorem startsMoment_append {digits : List Char} (hDigits : ∀ c ∈ digits, isDigit c = true) {d : Char}
    (hStop : isDigit d = false) (hMark : digits = [] ∨ d ≠ '-' ∧ d ≠ ':') (rest : List Char) :
    startsMoment (digits ++ d :: rest) = false := by
  unfold startsMoment startsTime
  split
  case h_1 h =>
    rcases takeField_append hDigits hStop (by decide) h with hDash | ⟨hFull, rfl⟩
    · simp [isDigit] at hDash
    · exact absurd rfl (hMark.resolve_left hFull).1
  case h_2 =>
    split
    case h_1 h =>
      rcases takeField_append hDigits hStop (by decide) h with hColon | ⟨hFull, rfl⟩
      · simp [isDigit] at hColon
      · exact absurd rfl (hMark.resolve_left hFull).2
    case h_2 => rfl

theorem startsMoment_cons {d : Char} (hStop : isDigit d = false) (rest : List Char) :
    startsMoment (d :: rest) = false :=
  startsMoment_append (List.forall_mem_nil _) hStop (.inl rfl) rest

theorem takeSign_numeral (negative : Bool) {whole : List Char} (h : Numeral whole) (rest : List Char) :
    takeSign (signChars negative ++ (whole ++ rest)) = (negative, whole ++ rest) := by
  cases negative with
  | true => rfl
  | false =>
      obtain ⟨c, more, rfl, hDigit⟩ := h.eq_cons
      have hMinus : c ≠ '-' := ne_of_isDigit hDigit (by decide)
      have hPlus : c ≠ '+' := ne_of_isDigit hDigit (by decide)
      simp [signChars, takeSign, hMinus, hPlus]

theorem startsMoment_numeral (negative : Bool) {whole : List Char} (h : Numeral whole) {d : Char}
    (hStop : isDigit d = false) (hDash : d ≠ '-') (hColon : d ≠ ':') (rest : List Char) :
    startsMoment (signChars negative ++ (whole ++ d :: rest)) = false := by
  cases negative with
  | true => exact startsMoment_cons (by decide) _
  | false => exact startsMoment_append h.digits hStop (.inr ⟨hDash, hColon⟩) rest

theorem readSpecial_numeral (negative : Bool) {whole : List Char} (h : Numeral whole) (rest : List Char) :
    readSpecial (signChars negative ++ (whole ++ rest)) = none := by
  rw [readSpecial, takeSign_numeral negative h]
  obtain ⟨c, more, rfl, hDigit⟩ := h.eq_cons
  have hInfinity : c ≠ 'i' := ne_of_isDigit hDigit (by decide)
  have hNaN : c ≠ 'n' := ne_of_isDigit hDigit (by decide)
  simp [hInfinity, hNaN]

/-- No base is marked in a numeral, which is decimal therefore. -/
theorem readNumber_numeral (negative : Bool) {whole : List Char} (h : Numeral whole) {d : Char}
    (hBase : d ≠ 'x' ∧ d ≠ 'o' ∧ d ≠ 'b') (rest : List Char) :
    readNumber (signChars negative ++ (whole ++ d :: rest)) =
      readDecimal (signChars negative ++ (whole ++ d :: rest)) := by
  have hMark {mark : Char} {more : List Char}
      (hSame : signChars negative ++ (whole ++ d :: rest) = '0' :: mark :: more) : mark = d := by
    cases negative with
    | true => simp [signChars] at hSame
    | false =>
        have hZero : whole = ['0'] := by
          obtain ⟨c, tail, rfl, -⟩ := h.eq_cons
          exact h.leading (by simp_all [signChars])
        simp_all [signChars]
  unfold readNumber
  split
  case h_1 hSame => exact absurd (hMark hSame).symm hBase.1
  case h_2 hSame => exact absurd (hMark hSame).symm hBase.2.1
  case h_3 hSame => exact absurd (hMark hSame).symm hBase.2.2
  case h_4 => rw [readSpecial_numeral negative h, Option.none_or]

/-- Whole numbers are read with their sign, if they are not too large. -/
theorem readScalar_whole (negative : Bool) {whole : List Char} (h : Numeral whole) {rest : List Char}
    (hRest : EndsValue rest) :
    readScalar (signChars negative ++ (whole ++ rest)) = (signedInt (exponentOf negative whole)).map (·, rest) := by
  obtain ⟨d, more, rfl, hEnd⟩ := hRest
  have hStop : isDigit d = false := by rcases hEnd with rfl | rfl | rfl <;> decide
  have hJoin : d ≠ '_' ∧ d ≠ '-' ∧ d ≠ ':' ∧ d ≠ 'x' ∧ d ≠ 'o' ∧ d ≠ 'b' := by
    rcases hEnd with rfl | rfl | rfl <;> decide
  have hFraction : takeFraction (d :: more) = some (none, d :: more) := by
    rcases hEnd with rfl | rfl | rfl <;> rfl
  have hExponent : takeExponent (d :: more) = some (none, d :: more) := by
    rcases hEnd with rfl | rfl | rfl <;> rfl
  rw [readScalar, startsMoment_numeral negative h hStop hJoin.2.1 hJoin.2.2.1, if_neg Bool.false_ne_true,
    readNumber_numeral negative h hJoin.2.2.2, readDecimal]
  simp only [takeSign_numeral negative h, takeWhole_numeral h hStop hJoin.1, hFraction, hExponent,
    Option.bind_eq_bind, Option.bind_some, Option.isNone_none, Bool.and_self, if_true]
  rw [Option.map_eq_bind]
  rfl

/-- Numbers with a fraction are read as the nearest double. -/
theorem readScalar_fraction (negative : Bool) {whole fraction : List Char} (h : Numeral whole)
    (hFraction : fraction ≠ []) (hDigits : ∀ c ∈ fraction, isDigit c = true) {rest : List Char}
    (hRest : EndsValue rest)
    (hFinite : (signedFloat negative (.ofParts whole fraction 0)).isInf = false) :
    readScalar (signChars negative ++ (whole ++ '.' :: (fraction ++ rest))) =
      some (.float (signedFloat negative (.ofParts whole fraction 0)), rest) := by
  obtain ⟨d, more, rfl, hEnd⟩ := hRest
  have hStop : isDigit d = false := by rcases hEnd with rfl | rfl | rfl <;> decide
  have hJoin : d ≠ '_' := by rcases hEnd with rfl | rfl | rfl <;> decide
  have hTake : takeFraction ('.' :: (fraction ++ d :: more)) = some (some fraction, d :: more) := by
    simp [takeFraction, takeDigits_append hFraction hDigits hStop hJoin]
  have hExponent : takeExponent (d :: more) = some (none, d :: more) := by
    rcases hEnd with rfl | rfl | rfl <;> rfl
  rw [readScalar, startsMoment_numeral negative h (by decide) (by decide) (by decide),
    if_neg Bool.false_ne_true, readNumber_numeral negative h (by decide), readDecimal]
  simp [takeSign_numeral negative h, takeWhole_numeral h, hTake, hExponent, hFinite, isDigit]

/-- What a number can begin with; infinity is written by its name. -/
def StartsNumber (c : Char) : Prop :=
  c = '-' ∨ c = 'i' ∨ isDigit c = true

theorem startsNumber_numeral (negative : Bool) {whole : List Char} (h : Numeral whole) (rest : List Char) :
    ∃ c more, signChars negative ++ (whole ++ rest) = c :: more ∧ StartsNumber c := by
  obtain ⟨c, more, hText, hHead⟩ := h.signed_eq_cons negative rest
  exact ⟨c, more, hText, hHead.imp_right .inr⟩

/-- A whole number that fits reads back as it was. -/
theorem readScalar_toString {n : Int} (hFits : fitsSigned n = true) {rest : List Char}
    (hRest : EndsValue rest) : readScalar ((toString n).toList ++ rest) = some (.int n, rest) := by
  rw [toList_toString_int, List.append_assoc, readScalar_whole _ (numeral_toDigits _) hRest,
    exponentOf_toDigits, signedInt, if_pos hFits]
  rfl

end Metasearch.Toml
