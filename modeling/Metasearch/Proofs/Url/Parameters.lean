import Mathlib.Data.Char
import Metasearch.Url.Normal

/-! The order of query parameters. It is linear, so parameters that are the same but for their order are the
same when they are sorted. -/
namespace Metasearch.Url

theorem textLe_total (a b : List Char) : (textLe a b || textLe b a) = true := by
  induction a generalizing b with
  | nil => rfl
  | cons c cs ih =>
      cases b with
      | nil => rfl
      | cons d ds =>
          rcases lt_trichotomy c d with h | rfl | h
          · simp [textLe, h]
          · simpa [textLe] using ih ds
          · simp [textLe, h]

theorem textLe_trans {a b c : List Char} (hab : textLe a b = true) (hbc : textLe b c = true) :
    textLe a c = true := by
  induction a generalizing b c with
  | nil => rfl
  | cons x xs ih =>
      cases b with
      | nil => cases hab
      | cons y ys =>
          cases c with
          | nil => cases hbc
          | cons z zs =>
              simp only [textLe, Bool.or_eq_true, Bool.and_eq_true, decide_eq_true_eq, beq_iff_eq] at *
              rcases hab with hxy | ⟨rfl, hxs⟩
              · rcases hbc with hyz | ⟨rfl, -⟩
                · exact Or.inl (lt_trans hxy hyz)
                · exact Or.inl hxy
              · rcases hbc with hyz | ⟨rfl, hys⟩
                · exact Or.inl hyz
                · exact Or.inr ⟨rfl, ih hxs hys⟩

theorem textLe_antisymm {a b : List Char} (hab : textLe a b = true) (hba : textLe b a = true) : a = b := by
  induction a generalizing b with
  | nil =>
      cases b with
      | nil => rfl
      | cons y ys => cases hba
  | cons x xs ih =>
      cases b with
      | nil => cases hab
      | cons y ys =>
          simp only [textLe, Bool.or_eq_true, Bool.and_eq_true, decide_eq_true_eq, beq_iff_eq] at *
          rcases hab with hxy | ⟨rfl, hxs⟩
          · rcases hba with hyx | ⟨rfl, -⟩
            · exact absurd hyx (lt_asymm hxy)
            · exact absurd hxy (lt_irrefl _)
          · rcases hba with hxx | ⟨-, hys⟩
            · exact absurd hxx (lt_irrefl _)
            · rw [ih hxs hys]

theorem pairLe_total (a b : Form.Pair) : (pairLe a b || pairLe b a) = true := by
  by_cases hName : a.1 = b.1
  · simpa [pairLe, hName] using textLe_total a.2 b.2
  · simpa [pairLe, hName, Ne.symm hName] using textLe_total a.1 b.1

theorem pairLe_antisymm {a b : Form.Pair} (hab : pairLe a b = true) (hba : pairLe b a = true) : a = b := by
  unfold pairLe at hab hba
  by_cases hName : a.1 = b.1
  · rw [if_pos hName] at hab
    rw [if_pos hName.symm] at hba
    exact Prod.ext hName (textLe_antisymm hab hba)
  · rw [if_neg hName] at hab
    rw [if_neg (Ne.symm hName)] at hba
    exact absurd (textLe_antisymm hab hba) hName

theorem pairLe_trans {a b c : Form.Pair} (hab : pairLe a b = true) (hbc : pairLe b c = true) :
    pairLe a c = true := by
  unfold pairLe at *
  by_cases hFirst : a.1 = b.1
  · rw [if_pos hFirst] at hab
    rw [hFirst]
    split
    · rename_i hSecond
      rw [if_pos hSecond] at hbc
      exact textLe_trans hab hbc
    · rename_i hSecond
      rwa [if_neg hSecond] at hbc
  · rw [if_neg hFirst] at hab
    by_cases hSecond : b.1 = c.1
    · rwa [← hSecond, if_neg hFirst]
    · rw [if_neg hSecond] at hbc
      have hEnds : a.1 ≠ c.1 := fun hSame => hSecond (textLe_antisymm hbc (hSame ▸ hab))
      rw [if_neg hEnds]
      exact textLe_trans hab hbc

/-- The parameters of a URL that choose the page, in the order in which it gives them. -/
def pagePairs (url : Url) : List Form.Pair :=
  (Form.decode (url.query.getD [])).filter (!isTracking ·)

theorem pairwise_pageParameters (url : Url) :
    (pageParameters url).Pairwise fun a b => pairLe a b = true :=
  @List.pairwise_mergeSort _ pairLe (fun _ _ _ hab hbc => pairLe_trans hab hbc) pairLe_total _

theorem pageParameters_eq_iff {url other : Url} :
    pageParameters url = pageParameters other ↔ (pagePairs url).Perm (pagePairs other) := by
  have hPerm : ∀ url, (pageParameters url).Perm (pagePairs url) := fun url => List.mergeSort_perm _ _
  constructor
  · intro hSame
    exact (hPerm url).symm.trans (hSame ▸ hPerm other)
  · intro h
    exact List.Perm.eq_of_pairwise (fun _ _ _ _ hab hba => pairLe_antisymm hab hba)
      (pairwise_pageParameters url) (pairwise_pageParameters other)
      ((hPerm url).trans (h.trans (hPerm other).symm))

end Metasearch.Url
