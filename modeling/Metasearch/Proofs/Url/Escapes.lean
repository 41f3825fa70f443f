import Metasearch.Proofs.Text.Bytes
import Metasearch.Url.Percent

/-! What percent-encoding leaves in a text: characters that stand for themselves, percent signs and digits.
Escaped bytes are read back, and a text that holds nothing to escape is kept. -/
namespace Metasearch.Url.Percent

open Text

/-- The digits of an escape are ASCII, and each is read as the value it was written for. -/
theorem hexDigit_spec {n : Nat} (h : n < 16) :
    (hexDigit n).toNat < 0x80 ∧ (hexDigit n).isAlphanum = true ∧
      hexByteValue? (UInt8.ofNat (hexDigit n).toNat) = some (UInt8.ofNat n) := by
  have hAll : ∀ n : Fin 16, (hexDigit n).toNat < 0x80 ∧ (hexDigit n).isAlphanum = true ∧
      hexByteValue? (UInt8.ofNat (hexDigit n).toNat) = some (UInt8.ofNat n) := by decide
  exact hAll ⟨n, h⟩

/-- The bytes of an escape: the percent sign and two digits. -/
theorem encode_escapeByte (b : UInt8) :
    Utf8.encode (escapeByte b) = [0x25, UInt8.ofNat (hexDigit (b.toNat / 16)).toNat,
      UInt8.ofNat (hexDigit (b.toNat % 16)).toNat] := by
  have hByte := b.toNat_lt
  have hHigh := (hexDigit_spec (n := b.toNat / 16) (by omega)).1
  have hLow := (hexDigit_spec (n := b.toNat % 16) (by omega)).1
  have hParts : escapeByte b =
      ['%'] ++ ([hexDigit (b.toNat / 16)] ++ [hexDigit (b.toNat % 16)]) := rfl
  rw [hParts, Utf8.encode_append, Utf8.encode_append, Utf8.encode_singleton hHigh, Utf8.encode_singleton hLow,
    Utf8.encode_singleton (by decide)]
  rfl

theorem decode_cons_of_ne {b : UInt8} (h : b ≠ 0x25) (rest : List UInt8) :
    decode (b :: rest) = b :: decode rest := by
  rw [decode]
  rintro high low rest' rfl
  exact absurd rfl h

/-- An escaped byte is read back, whatever follows it. -/
theorem decode_encode_escapeByte (b : UInt8) (rest : List UInt8) :
    decode (Utf8.encode (escapeByte b) ++ rest) = b :: decode rest := by
  have hByte := b.toNat_lt
  have hHigh := (hexDigit_spec (n := b.toNat / 16) (by omega)).2.2
  have hLow := (hexDigit_spec (n := b.toNat % 16) (by omega)).2.2
  rw [encode_escapeByte, List.cons_append, List.cons_append, List.cons_append, List.nil_append, decode,
    hHigh, hLow]
  have hSame : UInt8.ofNat (b.toNat / 16) * 16 + UInt8.ofNat (b.toNat % 16) = b := by
    rw [← UInt8.toNat_inj]
    simp
    omega
  simp only [hSame]

theorem mem_escapeByte {b : UInt8} {c : Char} (h : c ∈ escapeByte b) :
    c = '%' ∨ ∃ n < 16, c = hexDigit n := by
  have hByte := b.toNat_lt
  simp only [escapeByte, List.mem_cons, List.not_mem_nil, or_false] at h
  rcases h with rfl | rfl | rfl
  · exact Or.inl rfl
  · exact Or.inr ⟨b.toNat / 16, by omega, rfl⟩
  · exact Or.inr ⟨b.toNat % 16, by omega, rfl⟩

/-- A character that no escape is written with was in the text before. -/
theorem mem_of_mem_escape {inSet : Char → Bool} {cs : List Char} {c : Char} (hMark : c ≠ '%')
    (hDigits : ∀ n < 16, c ≠ hexDigit n) (h : c ∈ escape inSet cs) : c ∈ cs := by
  obtain ⟨d, hd, hc⟩ := List.mem_flatMap.mp h
  rw [escapeChar] at hc
  split at hc
  · obtain ⟨b, -, hc⟩ := List.mem_flatMap.mp hc
    rcases mem_escapeByte hc with hc | ⟨n, hn, hc⟩
    · exact absurd hc hMark
    · exact absurd hc (hDigits n hn)
  · rwa [List.mem_singleton.mp hc]

/-- The character stands for itself where a set of characters is escaped. -/
def Kept (inSet : Char → Bool) (c : Char) : Prop :=
  c.toNat < 0x80 ∧ inSet c = false

instance (inSet : Char → Bool) : DecidablePred (Kept inSet) := fun c =>
  inferInstanceAs (Decidable (c.toNat < 0x80 ∧ inSet c = false))

/-- A text without anything to escape is kept. -/
theorem escape_of_kept {inSet : Char → Bool} {cs : List Char} (h : ∀ c ∈ cs, Kept inSet c) :
    escape inSet cs = cs := by
  induction cs with
  | nil => rfl
  | cons c rest ih =>
      obtain ⟨hAscii, hSet⟩ := h c (List.mem_cons_self ..)
      have hRest := ih fun d hd => h d (List.mem_cons_of_mem _ hd)
      unfold escape at hRest ⊢
      rw [List.flatMap_cons, hRest, escapeChar, if_neg (by simp [hSet, hAscii])]
      rfl

/-- What is escaped holds nothing more to escape, unless escapes themselves are to be. -/
theorem kept_of_mem_escape {inSet : Char → Bool} (hMark : inSet '%' = false)
    (hDigits : ∀ n < 16, inSet (hexDigit n) = false) {cs : List Char} {c : Char}
    (h : c ∈ escape inSet cs) : Kept inSet c := by
  obtain ⟨d, -, hc⟩ := List.mem_flatMap.mp h
  rw [escapeChar] at hc
  split at hc
  · obtain ⟨b, -, hc⟩ := List.mem_flatMap.mp hc
    rcases mem_escapeByte hc with rfl | ⟨n, hn, rfl⟩
    · exact ⟨by decide, hMark⟩
    · exact ⟨(hexDigit_spec hn).1, hDigits n hn⟩
  · rename_i hOut
    rw [List.mem_singleton.mp hc]
    simpa [Kept] using hOut

end Metasearch.Url.Percent
