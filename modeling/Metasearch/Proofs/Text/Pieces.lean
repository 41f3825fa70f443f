import Mathlib.Data.List.DropRight
import Metasearch.Text.Blank
import Metasearch.Text.Ranges

/-! Texts cut at marks and joined again. The pieces of a text hold no mark, and pieces without marks are
found again in what they are joined to. -/
namespace Metasearch.Text

theorem dropTailWhile_eq_rdropWhile (p : Char → Bool) (cs : List Char) :
    dropTailWhile p cs = cs.rdropWhile p := rfl

theorem joinWith_eq_intercalate (separator : List Char) (pieces : List (List Char)) :
    joinWith separator pieces = separator.intercalate pieces := by
  induction pieces with
  | nil => rfl
  | cons first rest ih =>
      cases rest with
      | nil => simp [joinWith]
      | cons second rest => simp [joinWith, ih]

/-- What holds of the characters of the pieces and of the separator holds of those of the whole. -/
theorem forall_mem_joinWith {p : Char → Prop} {separator : List Char} {pieces : List (List Char)}
    (hSeparator : ∀ c ∈ separator, p c) (hPieces : ∀ piece ∈ pieces, ∀ c ∈ piece, p c) :
    ∀ c ∈ joinWith separator pieces, p c := by
  induction pieces with
  | nil => exact List.forall_mem_nil p
  | cons first rest ih =>
      obtain ⟨hFirst, hRest⟩ := List.forall_mem_cons.mp hPieces
      cases rest with
      | nil => exact hFirst
      | cons second rest =>
          rw [joinWith, List.forall_mem_append, List.forall_mem_append]
          · exact ⟨⟨hFirst, hSeparator⟩, ih hRest⟩
          · exact List.cons_ne_nil _ _

/-- Nothing is dropped at the ends of a text in which nothing is to be dropped. -/
theorem trimmed_eq_self {p : Char → Bool} {text : List Char} (h : ∀ c ∈ text, p c = false) :
    dropTailWhile p (text.dropWhile p) = text := by
  have hHead : text.dropWhile p = text := by
    cases text with
    | nil => rfl
    | cons c rest => exact List.dropWhile_cons_of_neg (by simp [h])
  rw [hHead, dropTailWhile_eq_rdropWhile, List.rdropWhile_eq_self_iff]
  intro hSome
  simp [h _ (List.getLast_mem hSome)]

section Stop

variable {p : Char → Bool} {stop : Char} (hStop : p stop = false) (before after : List Char)
include hStop

theorem takeWhile_append_stop : (before ++ stop :: after).takeWhile p = before.takeWhile p := by
  induction before with
  | nil => simp [hStop]
  | cons c rest ih => simp [List.takeWhile_cons, ih]

theorem dropWhile_append_stop :
    (before ++ stop :: after).dropWhile p = before.dropWhile p ++ stop :: after := by
  induction before with
  | nil => simp [hStop]
  | cons c rest ih =>
      rw [List.cons_append, List.dropWhile_cons, List.dropWhile_cons, ih]
      split <;> rfl

theorem dropTailWhile_append_stop :
    dropTailWhile p (before ++ stop :: after) = before ++ stop :: dropTailWhile p after := by
  have hParts : (before ++ stop :: after).reverse = after.reverse ++ stop :: before.reverse := by simp
  rw [dropTailWhile, hParts, dropWhile_append_stop hStop]
  simp [dropTailWhile]

end Stop

/-- A list is cut in one way only at the first of its marks. -/
theorem append_mark_inj {β : Type} {mark : β} {before before' after after' : List β} (h : mark ∉ before)
    (h' : mark ∉ before') :
    before ++ mark :: after = before' ++ mark :: after' ↔ before = before' ∧ after = after' := by
  induction before generalizing before' with
  | nil =>
      cases before' with
      | nil => simp
      | cons c rest =>
          have hFirst : mark ≠ c := fun hSame => h' (hSame ▸ List.mem_cons_self ..)
          simp [hFirst]
  | cons c rest ih =>
      cases before' with
      | nil =>
          have hFirst : c ≠ mark := fun hSame => h (hSame ▸ List.mem_cons_self ..)
          simp [hFirst]
      | cons c' rest' =>
          have hRest : rest ++ mark :: after = rest' ++ mark :: after' ↔ _ :=
            ih (fun hc => h (List.mem_cons_of_mem _ hc)) fun hc => h' (List.mem_cons_of_mem _ hc)
          simp [hRest, and_assoc]

/-- A list is cut in one way only at the last of its marks. -/
theorem append_last_mark_inj {β : Type} {mark : β} {before before' after after' : List β} (h : mark ∉ after)
    (h' : mark ∉ after') :
    before ++ mark :: after = before' ++ mark :: after' ↔ before = before' ∧ after = after' := by
  have hReversed : after.reverse ++ mark :: before.reverse = after'.reverse ++ mark :: before'.reverse ↔ _ :=
    append_mark_inj (by simpa using h) (by simpa using h')
  rw [List.reverse_inj, List.reverse_inj, and_comm] at hReversed
  rw [← hReversed, ← List.reverse_inj]
  simp

variable {isMark : Char → Bool}

theorem splitAtMarks_eq_splitOnP (cs : List Char) : splitAtMarks isMark cs = cs.splitOnP isMark := by
  induction cs with
  | nil => rfl
  | cons c rest ih =>
      rw [splitAtMarks, ih, List.splitOnP_cons_eq_if_modifyHead]
      cases hPieces : rest.splitOnP isMark with
      | nil => exact absurd hPieces (List.splitOnP_ne_nil _ _)
      | cons piece pieces => rfl

theorem not_isMark_of_mem_splitAtMarks {cs piece : List Char} (hPiece : piece ∈ splitAtMarks isMark cs)
    {c : Char} (hc : c ∈ piece) : isMark c = false := by
  induction cs generalizing piece with
  | nil =>
      rw [List.mem_singleton.mp hPiece] at hc
      cases hc
  | cons first rest ih =>
      rw [splitAtMarks] at hPiece
      split at hPiece
      · rcases List.mem_cons.mp hPiece with rfl | hPiece
        · cases hc
        · exact ih hPiece hc
      · rename_i hFirst
        split at hPiece
        · rw [List.mem_singleton.mp hPiece, List.mem_singleton] at hc
          simpa [hc] using hFirst
        · rename_i head tail hSplit
          rcases List.mem_cons.mp hPiece with rfl | hPiece
          · rcases List.mem_cons.mp hc with rfl | hc
            · simpa using hFirst
            · exact ih (hSplit ▸ List.mem_cons_self ..) hc
          · exact ih (hSplit ▸ List.mem_cons_of_mem _ hPiece) hc

theorem splitAtMarks_joinWith {mark : Char} (hMark : isMark mark = true) {pieces : List (List Char)}
    (hPieces : ∀ piece ∈ pieces, ∀ c ∈ piece, isMark c = false) (hSome : pieces ≠ []) :
    splitAtMarks isMark (joinWith [mark] pieces) = pieces := by
  rw [splitAtMarks_eq_splitOnP, joinWith_eq_intercalate]
  induction pieces with
  | nil => exact absurd rfl hSome
  | cons first rest ih =>
      have hFirst := hPieces first (List.mem_cons_self ..)
      cases rest with
      | nil => simpa using List.splitOnP_eq_singleton hFirst
      | cons second rest =>
          rw [List.intercalate_cons_cons, List.append_assoc, List.singleton_append,
            List.splitOnP_append_cons_of_forall_mem hFirst _ hMark,
            ih (fun piece hPiece => hPieces piece (List.mem_cons_of_mem _ hPiece)) (List.cons_ne_nil _ _)]

end Metasearch.Text
