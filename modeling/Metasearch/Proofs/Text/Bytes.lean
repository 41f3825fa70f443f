import Mathlib.Data.List.Basic
import Metasearch.Text.Utf8

/-! A text is read back from its bytes, whether broken bytes are refused or replaced. The first byte of a
character tells how many bytes follow, and in which range the second one lies. -/
namespace Metasearch.Text.Utf8

theorem encode_append (cs ds : List Char) : encode (cs ++ ds) = encode cs ++ encode ds :=
  List.flatMap_append

theorem encode_singleton {c : Char} (h : c.toNat < 0x80) : encode [c] = [UInt8.ofNat c.toNat] := by
  have hLow : c.toNat ≤ 0x7F := Nat.le_of_lt_succ h
  simp [encode, String.utf8EncodeChar, hLow]

theorem isContinuation_iff {b : UInt8} : isContinuation b = true ↔ 0x80 ≤ b.toNat ∧ b.toNat ≤ 0xBF := by
  simp [isContinuation, UInt8.le_iff_toNat_le]

section Head

variable {a b c d : UInt8} {rest : List UInt8}

theorem head_one (ha : a.toNat < 0x80) : head a rest = .char (Char.ofNat a.toNat) 1 := by
  have hFirst : a < 0x80 := UInt8.lt_iff_toNat_lt.mpr ha
  simp [head, hFirst]

theorem not_lt_of_le (ha : 0x80 ≤ a.toNat) : ¬a < 0x80 :=
  fun hLess => Nat.not_lt.mpr ha (UInt8.lt_iff_toNat_lt.mp hLess)

theorem head_two (ha : 0xC2 ≤ a.toNat ∧ a.toNat ≤ 0xDF) (hb : 0x80 ≤ b.toNat ∧ b.toNat ≤ 0xBF) :
    head a (b :: rest) = .char (Char.ofNat (a.toNat % 32 * 64 + payload b)) 2 := by
  have hLead : leadRange a = some (0x80, 0xBF, 1) := by
    simp [leadRange, UInt8.le_iff_toNat_le, ha]
  simp [head, not_lt_of_le (a := a) (by omega), hLead, UInt8.le_iff_toNat_le, hb]

theorem head_three (ha : 0xE0 ≤ a.toNat ∧ a.toNat ≤ 0xEF) (hb : 0x80 ≤ b.toNat ∧ b.toNat ≤ 0xBF)
    (hLow : a.toNat = 0xE0 → 0xA0 ≤ b.toNat) (hHigh : a.toNat = 0xED → b.toNat ≤ 0x9F)
    (hc : 0x80 ≤ c.toNat ∧ c.toNat ≤ 0xBF) :
    head a (b :: c :: rest) =
      .char (Char.ofNat (a.toNat % 16 * 4096 + payload b * 64 + payload c)) 3 := by
  obtain ⟨lo, hi, hLead, hRange⟩ : ∃ lo hi, leadRange a = some (lo, hi, 2) ∧ lo ≤ b ∧ b ≤ hi := by
    simp only [leadRange, UInt8.le_iff_toNat_le, ← UInt8.toNat_inj]
    by_cases hFirst : a.toNat = 0xE0
    · exact ⟨0xA0, 0xBF, by simp [hFirst], hLow hFirst, hb.2⟩
    · by_cases hGap : a.toNat = 0xED
      · exact ⟨0x80, 0x9F, by simp [hGap], hb.1, hHigh hGap⟩
      · exact ⟨0x80, 0xBF, by grind, hb⟩
  simp [head, not_lt_of_le (a := a) (by omega), hLead, hRange, isContinuation_iff, hc]

theorem head_four (ha : 0xF0 ≤ a.toNat ∧ a.toNat ≤ 0xF4) (hb : 0x80 ≤ b.toNat ∧ b.toNat ≤ 0xBF)
    (hLow : a.toNat = 0xF0 → 0x90 ≤ b.toNat) (hHigh : a.toNat = 0xF4 → b.toNat ≤ 0x8F)
    (hc : 0x80 ≤ c.toNat ∧ c.toNat ≤ 0xBF) (hd : 0x80 ≤ d.toNat ∧ d.toNat ≤ 0xBF) :
    head a (b :: c :: d :: rest) =
      .char (Char.ofNat (a.toNat % 8 * 262144 + payload b * 4096 + payload c * 64 + payload d)) 4 := by
  obtain ⟨lo, hi, hLead, hRange⟩ : ∃ lo hi, leadRange a = some (lo, hi, 3) ∧ lo ≤ b ∧ b ≤ hi := by
    simp only [leadRange, UInt8.le_iff_toNat_le, ← UInt8.toNat_inj]
    by_cases hFirst : a.toNat = 0xF0
    · exact ⟨0x90, 0xBF, by simp [hFirst], hLow hFirst, hb.2⟩
    · by_cases hLast : a.toNat = 0xF4
      · exact ⟨0x80, 0x8F, by simp [hLast], hb.1, hHigh hLast⟩
      · exact ⟨0x80, 0xBF, by grind, hb⟩
  simp [head, not_lt_of_le (a := a) (by omega), hLead, hRange, isContinuation_iff, hc, hd]

end Head

/-- The bytes of a character are read as this character, whatever follows them. -/
theorem head_utf8EncodeChar (c : Char) : ∃ first more, String.utf8EncodeChar c = first :: more ∧
    ∀ rest, head first (more ++ rest) = .char c (more.length + 1) := by
  have hByte : ∀ n, n < 256 → (UInt8.ofNat n).toNat = n := fun n hn => UInt8.toNat_ofNat_of_lt' hn
  have hValid : c.toNat < 0xD800 ∨ (0xDFFF < c.toNat ∧ c.toNat < 0x110000) := c.valid
  have hSame : ∀ n, n = c.toNat → Char.ofNat n = c := by
    rintro _ rfl
    exact Char.ofNat_toNat c
  have hNat : c.val.toNat = c.toNat := rfl
  have hLast := hByte (c.toNat % 64 + 0x80) (by omega)
  by_cases hOne : c.toNat ≤ 0x7F
  · have hFirst := hByte c.toNat (by omega)
    refine ⟨UInt8.ofNat c.toNat, [], by simp [String.utf8EncodeChar, hNat, hOne], fun rest => ?_⟩
    rw [List.nil_append, head_one (by omega), hSame _ hFirst]
    rfl
  by_cases hTwo : c.toNat ≤ 0x7FF
  · have hFirst := hByte (c.toNat / 64 % 0x20 + 0xC0) (by omega)
    refine ⟨UInt8.ofNat (c.toNat / 64 % 0x20 + 0xC0), [UInt8.ofNat (c.toNat % 64 + 0x80)],
      by simp [String.utf8EncodeChar, hNat, hOne, hTwo], fun rest => ?_⟩
    rw [List.cons_append, head_two (by omega) (by omega)]
    exact congrArg (Head.char · 2) (hSame _ (by unfold payload; omega))
  have hSecond := hByte (c.toNat / 64 % 64 + 0x80) (by omega)
  by_cases hThree : c.toNat ≤ 0xFFFF
  · have hFirst := hByte (c.toNat / 4096 % 0x10 + 0xE0) (by omega)
    refine ⟨UInt8.ofNat (c.toNat / 4096 % 0x10 + 0xE0),
      [UInt8.ofNat (c.toNat / 64 % 64 + 0x80), UInt8.ofNat (c.toNat % 64 + 0x80)],
      by simp [String.utf8EncodeChar, hNat, hOne, hTwo, hThree], fun rest => ?_⟩
    rw [List.cons_append, List.cons_append,
      head_three (by omega) (by omega) (by omega) (by omega) (by omega)]
    exact congrArg (Head.char · 3) (hSame _ (by unfold payload; omega))
  · have hFirst := hByte (c.toNat / 262144 % 0x08 + 0xF0) (by omega)
    have hThird := hByte (c.toNat / 4096 % 64 + 0x80) (by omega)
    refine ⟨UInt8.ofNat (c.toNat / 262144 % 0x08 + 0xF0), [UInt8.ofNat (c.toNat / 4096 % 64 + 0x80),
      UInt8.ofNat (c.toNat / 64 % 64 + 0x80), UInt8.ofNat (c.toNat % 64 + 0x80)],
      by simp [String.utf8EncodeChar, hNat, hOne, hTwo, hThree], fun rest => ?_⟩
    rw [List.cons_append, List.cons_append, List.cons_append,
      head_four (by omega) (by omega) (by omega) (by omega) (by omega) (by omega)]
    exact congrArg (Head.char · 4) (hSame _ (by unfold payload; omega))

theorem decodeLenientFrom_length_append (skipped rest : List UInt8) :
    decodeLenientFrom skipped.length (skipped ++ rest) = decodeLenientFrom 0 rest := by
  induction skipped with
  | nil => rfl
  | cons byte skipped ih => exact ih

theorem decodeFrom?_length_append (skipped rest : List UInt8) :
    decodeFrom? skipped.length (skipped ++ rest) = decodeFrom? 0 rest := by
  induction skipped with
  | nil => rfl
  | cons byte skipped ih => exact ih

/-- Lenient decoding gives back every text. -/
theorem decodeLenient_encode (cs : List Char) : decodeLenient (encode cs) = cs := by
  unfold decodeLenient encode
  induction cs with
  | nil => rfl
  | cons c rest ih =>
      obtain ⟨first, more, hBytes, hHead⟩ := head_utf8EncodeChar c
      rw [List.flatMap_cons, hBytes, List.cons_append, decodeLenientFrom, hHead]
      simp only [Nat.add_sub_cancel, decodeLenientFrom_length_append, ih]

/-- Strict decoding accepts the bytes of every text. -/
theorem decode?_encode (cs : List Char) : decode? (encode cs) = some cs := by
  unfold decode? encode
  induction cs with
  | nil => rfl
  | cons c rest ih =>
      obtain ⟨first, more, hBytes, hHead⟩ := head_utf8EncodeChar c
      rw [List.flatMap_cons, hBytes, List.cons_append, decodeFrom?, hHead]
      simp only [Nat.add_sub_cancel, decodeFrom?_length_append, ih, Option.map_some]

end Metasearch.Text.Utf8
