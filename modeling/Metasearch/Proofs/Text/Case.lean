import Mathlib.Algebra.GroupWithZero.Nat
import Mathlib.Algebra.Order.BigOperators.Group.List
import Metasearch.Proofs.Text.Pieces
import Metasearch.Text.Case

/-! Lower case beside trimming. No character is lost in lower case, so a text with blanks at its ends is
told from the text without them even when case does not matter. -/
namespace Metasearch.Text

theorem splitAtMarks_ne_nil (isMark : Char → Bool) (cs : List Char) : splitAtMarks isMark cs ≠ [] := by
  rw [splitAtMarks_eq_splitOnP]
  exact List.splitOnP_ne_nil _ _

/-- A search in a table finds nothing but what it began with or an entry of the table. -/
theorem mem_of_lastAtMost {α : Type} {key : α → Nat} {table : Array α} {n lo hi : Nat}
    {best : Option α} {hHi : hi ≤ table.size} {entry : α}
    (h : lastAtMost key table n best lo hi hHi = some entry) : best = some entry ∨ entry ∈ table := by
  fun_induction lastAtMost key table n best lo hi hHi with
  | case1 best lo hi hHi hWindow mid hMid hAtMost ih =>
      rcases ih h with hFound | hLater
      · exact Or.inr (Option.some.inj hFound ▸ Array.getElem_mem hMid)
      · exact Or.inr hLater
  | case2 best lo hi hHi hWindow mid hMid hAbove ih => exact ih h
  | case3 best lo hi hHi hEmpty => exact Or.inl h

theorem CharMap.Entry.target_ofToken_ne_nil (token : List Char) : (ofToken token).target ≠ [] := by
  unfold ofToken
  split
  · simpa using splitAtMarks_ne_nil _ _
  · rename_i hNone
    exact absurd hNone (splitAtMarks_ne_nil _ _)

/-- A character map that is read from a text maps no character to nothing. -/
theorem CharMap.ne_nil_of_get? {text : String} {c : Char} {cs : List Char}
    (h : (CharMap.ofText text).get? c = some cs) : cs ≠ [] := by
  obtain ⟨codes, hCodes, rfl⟩ := Option.map_eq_some_iff.mp h
  unfold codes? at hCodes
  split at hCodes
  · rename_i entry hEntry
    have hTarget : entry.target ≠ [] := by
      rcases mem_of_lastAtMost hEntry with hNone | hMem
      · cases hNone
      · obtain ⟨token, -, rfl⟩ := Array.mem_map.mp hMem
        exact Entry.target_ofToken_ne_nil token
    split at hCodes
    · split at hCodes <;> cases hCodes
      · simp
      · simpa using hTarget
    · cases hCodes
  · cases hCodes

theorem lowerChar_ne_nil (c : Char) : lowerChar c ≠ [] := by
  unfold lowerChar
  split
  · split <;> simp
  · cases hImage : lowercaseTable.get? c with
    | none => simp
    | some image => exact CharMap.ne_nil_of_get? hImage

/-- The number of characters that one character becomes in lower case. -/
def lowerLength (c : Char) : Nat :=
  if c = 'Σ' then 1 else (lowerChar c).length

theorem lowerLength_pos (c : Char) : 0 < lowerLength c := by
  unfold lowerLength
  split
  · exact Nat.one_pos
  · exact List.length_pos_iff.mpr (lowerChar_ne_nil c)

theorem length_lowerAfter (before cs : List Char) :
    (lowerAfter before cs).length = (cs.map lowerLength).sum := by
  induction cs generalizing before with
  | nil => rfl
  | cons c rest ih =>
      rw [lowerAfter, List.length_append, ih, List.map_cons, List.sum_cons, lowerLength]
      split <;> rfl

/-- Only the text itself, of all that is left of it when something is cut off at its ends, has its lower
case. -/
theorem eq_of_isInfix_of_lowerChars_eq {part cs : List Char} (hPart : part <:+: cs)
    (hLower : lowerChars part = lowerChars cs) : part = cs := by
  obtain ⟨before, after, rfl⟩ := hPart
  have hLengths := congrArg List.length hLower
  simp only [lowerChars, length_lowerAfter, List.map_append, List.sum_append] at hLengths
  have hEmpty : ∀ ds : List Char, (ds.map lowerLength).sum = 0 → ds = [] := by
    intro ds hSum
    cases ds with
    | nil => rfl
    | cons d rest =>
        have hPos := lowerLength_pos d
        rw [List.map_cons, List.sum_cons] at hSum
        omega
  rw [hEmpty before (by omega), hEmpty after (by omega), List.nil_append, List.append_nil]

theorem isInfix_trimChars (cs : List Char) : trimChars cs <:+: cs := by
  have hHead : trimChars cs <+: cs.dropWhile isBlank := List.rdropWhile_prefix isBlank (cs.dropWhile isBlank)
  exact hHead.isInfix.trans (List.dropWhile_suffix isBlank).isInfix

theorem lower_eq_lower_iff {a b : String} :
    lower a = lower b ↔ lowerChars a.toList = lowerChars b.toList :=
  String.ofList_inj

/-- In lower case a text is the same without the blanks at its ends exactly if it has none. -/
theorem lower_trim_eq_lower_iff {text : String} : lower (trim text) = lower text ↔ trim text = text := by
  constructor
  · intro hLower
    have hChars := lower_eq_lower_iff.mp hLower
    rw [trim, String.toList_ofList] at hChars
    rw [trim, eq_of_isInfix_of_lowerChars_eq (isInfix_trimChars _) hChars, String.ofList_toList]
  · intro hTrim
    rw [hTrim]

theorem lower_eq_empty_iff {text : String} : lower text = "" ↔ text = "" := by
  constructor
  · intro hLower
    have hSame : lower "" = lower text := hLower.symm
    have hChars : lowerChars [] = lowerChars text.toList := lower_eq_lower_iff.mp hSame
    exact String.toList_eq_nil_iff.mp (eq_of_isInfix_of_lowerChars_eq List.nil_infix hChars).symm
  · rintro rfl
    rfl

end Metasearch.Text
