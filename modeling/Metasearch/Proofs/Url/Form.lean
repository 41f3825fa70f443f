import Metasearch.Proofs.Text.Pieces
import Metasearch.Proofs.Url.Escapes
import Metasearch.Url.Form

/-! Queries are read back from their encoding. The marks between pairs and between a name and its value are
escaped inside both, so every list of pairs has an encoding of its own. -/
namespace Metasearch.Url.Form

open Text

/-- The bytes that stand for themselves are characters that no query escapes, other than its marks. -/
theorem isPlain_spec {b : UInt8} (h : isPlain b = true) :
    b ≠ 0x25 ∧ b ≠ 0x2B ∧ (Char.ofNat b.toNat).toNat = b.toNat ∧
      Percent.Kept Percent.specialQuerySet (Char.ofNat b.toNat) ∧
      Char.ofNat b.toNat ≠ '&' ∧ Char.ofNat b.toNat ≠ '=' := by
  have hAll : ∀ n < 256, isPlain (UInt8.ofNat n) = true →
      UInt8.ofNat n ≠ 0x25 ∧ UInt8.ofNat n ≠ 0x2B ∧ (Char.ofNat n).toNat = n ∧
        Percent.Kept Percent.specialQuerySet (Char.ofNat n) ∧ Char.ofNat n ≠ '&' ∧ Char.ofNat n ≠ '=' := by
    decide +kernel
  have hByte := hAll b.toNat b.toNat_lt
  rw [UInt8.ofNat_toNat] at hByte
  exact hByte h

/-- The bytes of an encoded text, plus signs read as blanks. -/
def blanked (cs : List Char) : List UInt8 :=
  (Utf8.encode cs).map fun b => if b = 0x2B then 0x20 else b

theorem blanked_append (cs ds : List Char) : blanked (cs ++ ds) = blanked cs ++ blanked ds := by
  rw [blanked, Utf8.encode_append, List.map_append]
  rfl

/-- An encoded byte is read back, whatever follows it. -/
theorem decode_blanked_encodeByte (b : UInt8) (rest : List UInt8) :
    Percent.decode (blanked (encodeByte b) ++ rest) = b :: Percent.decode rest := by
  unfold encodeByte
  split
  · rename_i hPlain
    obtain ⟨hPercent, hPlus, hSame, hKept, -, -⟩ := isPlain_spec hPlain
    have hByte : blanked [Char.ofNat b.toNat] = [b] := by
      rw [blanked, Utf8.encode_singleton hKept.1, hSame]
      simp [hPlus]
    rw [hByte]
    exact Percent.decode_cons_of_ne hPercent rest
  · split
    · rename_i hBlank
      subst hBlank
      exact Percent.decode_cons_of_ne (by decide) rest
    · have hDigits : ∀ n < 16, UInt8.ofNat (Percent.hexDigit n).toNat ≠ 0x2B := by decide
      have hByte := b.toNat_lt
      have hKept : blanked (Percent.escapeByte b) = Utf8.encode (Percent.escapeByte b) := by
        rw [blanked, Percent.encode_escapeByte]
        simp [hDigits (b.toNat / 16) (by omega), hDigits (b.toNat % 16) (by omega)]
      rw [hKept]
      exact Percent.decode_encode_escapeByte b rest

theorem decode_blanked_flatMap_encodeByte (bytes : List UInt8) :
    Percent.decode (blanked (bytes.flatMap encodeByte)) = bytes := by
  induction bytes with
  | nil => rfl
  | cons b rest ih => rw [List.flatMap_cons, blanked_append, decode_blanked_encodeByte, ih]

theorem decodeText_encodeText (cs : List Char) : decodeText (encodeText cs) = cs := by
  have hBytes := decode_blanked_flatMap_encodeByte (Utf8.encode cs)
  rw [blanked] at hBytes
  rw [decodeText, encodeText, hBytes, Utf8.decodeLenient_encode]

/-- Neither a mark of a query nor anything that a query escapes is left in an encoded text. -/
theorem spec_of_mem_encodeText {cs : List Char} {c : Char} (h : c ∈ encodeText cs) :
    Percent.Kept Percent.specialQuerySet c ∧ c ≠ '&' ∧ c ≠ '=' := by
  obtain ⟨b, -, hc⟩ := List.mem_flatMap.mp h
  rw [encodeByte] at hc
  split at hc
  · rename_i hPlain
    rw [List.mem_singleton.mp hc]
    exact (isPlain_spec hPlain).2.2.2
  · split at hc
    · rw [List.mem_singleton.mp hc]
      decide
    · rcases Percent.mem_escapeByte hc with rfl | ⟨n, hn, rfl⟩
      · decide
      · have hAll : ∀ n < 16, Percent.Kept Percent.specialQuerySet (Percent.hexDigit n) ∧
            Percent.hexDigit n ≠ '&' ∧ Percent.hexDigit n ≠ '=' := by decide
        exact hAll n hn

theorem decodePair_encodePair (pair : Pair) : decodePair (encodePair pair) = pair := by
  have hName : ∀ c ∈ encodeText pair.1, (c != '=') = true := fun c hc => by
    simpa using (spec_of_mem_encodeText hc).2.2
  rw [decodePair, encodePair, List.takeWhile_append_of_pos hName, List.dropWhile_append_of_pos hName]
  simp [decodeText_encodeText]

theorem ne_of_mem_encodePair {pair : Pair} {c : Char} (h : c ∈ encodePair pair) : c ≠ '&' := by
  rcases List.mem_append.mp h with hName | hRest
  · exact (spec_of_mem_encodeText hName).2.1
  · rcases List.mem_cons.mp hRest with rfl | hValue
    · decide
    · exact (spec_of_mem_encodeText hValue).2.1

/-- Every list of pairs is read back from its encoding. -/
theorem decode_encode (pairs : List Pair) : decode (encode pairs) = pairs := by
  rcases pairs with _ | ⟨first, rest⟩
  · rfl
  · have hPieces : ∀ piece ∈ (first :: rest).map encodePair, ∀ c ∈ piece, (c == '&') = false := by
      intro piece hPiece c hc
      obtain ⟨pair, -, rfl⟩ := List.mem_map.mp hPiece
      simpa using ne_of_mem_encodePair hc
    have hSome : ∀ piece ∈ (first :: rest).map encodePair, (!piece.isEmpty) = true := by
      intro piece hPiece
      obtain ⟨pair, -, rfl⟩ := List.mem_map.mp hPiece
      simp [encodePair]
    rw [decode, encode, splitAtMarks_joinWith (by rfl) hPieces (List.cons_ne_nil _ _),
      List.filter_eq_self.mpr hSome, List.map_map]
    exact List.map_id'' decodePair_encodePair _

/-- An encoding holds nothing that would have to be escaped in a query. -/
theorem kept_of_mem_encode (pairs : List Pair) :
    ∀ c ∈ encode pairs, Percent.Kept Percent.specialQuerySet c := by
  refine forall_mem_joinWith (List.forall_mem_singleton.mpr (by decide)) fun piece hPiece => ?_
  obtain ⟨pair, -, rfl⟩ := List.mem_map.mp hPiece
  rw [encodePair, List.forall_mem_append, List.forall_mem_cons]
  exact ⟨fun c hc => (spec_of_mem_encodeText hc).1, by decide, fun c hc => (spec_of_mem_encodeText hc).1⟩

theorem encode_injective : Function.Injective encode :=
  Function.LeftInverse.injective decode_encode

end Metasearch.Url.Form
