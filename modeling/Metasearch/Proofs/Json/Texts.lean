import Metasearch.Json.Printer
import Metasearch.Json.Reader

/-! Texts of JSON. Whatever characters a text has, its string is read up to the closing quote and denotes the
text. -/
namespace Metasearch.Json

/-- The unit of a string that a character is read as: itself, or the number of a control character. -/
inductive ReadAs (c : Char) : Piece → Prop where
  | itself : ReadAs c (.char c)
  | number (hControl : c.toNat < 0x20) : ReadAs c (.code c.toNat)

theorem ReadAs.joinPieces {c : Char} {piece : Piece} (h : ReadAs c piece) (pieces : List Piece) :
    joinPieces (piece :: pieces) = (joinPieces pieces).map (c :: ·) := by
  cases h with
  | itself => rw [Json.joinPieces]
  | number hControl =>
      have hPlain : ¬(0xD800 ≤ c.toNat ∧ c.toNat ≤ 0xDBFF) ∧ ¬(0xDC00 ≤ c.toNat ∧ c.toNat ≤ 0xDFFF) := by omega
      rw [Json.joinPieces.eq_def]
      simp only [if_neg hPlain.1, if_neg hPlain.2, Char.ofNat_toNat]

/-- Two hexadecimal digits lead back to the number of a control character. -/
theorem hexValue_control {c : Char} (hControl : c.toNat < 0x20) :
    let digits := ['0', '0', lowerHexDigit (c.toNat / 16), lowerHexDigit (c.toNat % 16)]
    digits.all isHexDigit = true ∧ Text.hexValue digits = c.toNat := by
  have hDigits : ∀ n : Fin 32,
      ['0', '0', lowerHexDigit (n.val / 16), lowerHexDigit (n.val % 16)].all isHexDigit = true ∧
        Text.hexValue ['0', '0', lowerHexDigit (n.val / 16), lowerHexDigit (n.val % 16)] = n.val := by decide
  exact hDigits ⟨c.toNat, hControl⟩

/-- A character inside a string is read as one unit. -/
theorem readPieces_escapeChar (c : Char) : ∃ piece, ReadAs c piece ∧ ∀ rest,
    readPieces (escapeChar c ++ rest) =
      (readPieces rest).map fun (pieces, after) => (piece :: pieces, after) := by
  unfold escapeChar
  split
  case h_8 hQuote hSlash _ _ _ _ _ =>
    split
    case isTrue hControl =>
      obtain ⟨hHex, hValue⟩ := hexValue_control hControl
      refine ⟨_, .number hControl, fun rest => ?_⟩
      simp [readPieces, hHex, hValue]
    case isFalse hControl =>
      have hOther : c ≠ '\\' := hSlash
      have hPlain : ¬(decide (c.toNat < 0x20) || c == '\\') = true := by simpa [hOther] using hControl
      refine ⟨_, .itself, fun rest => ?_⟩
      rw [List.singleton_append, readPieces, if_neg hPlain]
      all_goals simp_all
  all_goals
    refine ⟨_, .itself, fun rest => ?_⟩
    simp [readPieces, shortEscape?]

theorem readPieces_escaped (cs rest : List Char) : ∃ pieces,
    readPieces (cs.flatMap escapeChar ++ '"' :: rest) = some (pieces, rest) ∧ joinPieces pieces = some cs := by
  induction cs with
  | nil => exact ⟨[], rfl, rfl⟩
  | cons c cs ih =>
      obtain ⟨pieces, hRead, hJoin⟩ := ih
      obtain ⟨piece, hPiece, hFirst⟩ := readPieces_escapeChar c
      refine ⟨piece :: pieces, ?_, ?_⟩
      · rw [List.flatMap_cons, List.append_assoc, hFirst, hRead, Option.map_some]
      · rw [hPiece.joinPieces, hJoin, Option.map_some]

theorem writeString_append (s : String) (rest : List Char) :
    writeString s ++ rest = '"' :: (s.toList.flatMap escapeChar ++ '"' :: rest) := by
  simp [writeString]

/-- A text is read from its string, after the opening quote. -/
theorem readString_escaped (s : String) (rest : List Char) :
    readString (s.toList.flatMap escapeChar ++ '"' :: rest) = some (some s, rest) := by
  obtain ⟨pieces, hRead, hJoin⟩ := readPieces_escaped s.toList rest
  rw [readString, hRead, Option.map_some]
  simp only [hJoin, Option.map_some, String.ofList_toList]

end Metasearch.Json
