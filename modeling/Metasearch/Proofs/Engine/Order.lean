import Mathlib.Data.List.Perm.Basic
import Mathlib.Data.String.Basic
import Mathlib.Order.Defs.Unbundled
import Metasearch.Engine.Id

/-! The order of engines. It is linear, so a set of engines is listed in one way only, however often and in
whatever order its engines were named. -/
namespace Metasearch.EngineId

variable {a b c : EngineId}

theorem lt_irrefl (a : EngineId) : ¬ a < a := by
  rintro (h | ⟨-, h⟩) <;> exact String.lt_irrefl _ h

theorem lt_trans (hab : a < b) (hbc : b < c) : a < c := by
  rcases hab with hab | ⟨hab, hab'⟩ <;> rcases hbc with hbc | ⟨hbc, hbc'⟩
  · exact Or.inl (hab.trans hbc)
  · exact Or.inl (hbc ▸ hab)
  · exact Or.inl (hab ▸ hbc)
  · exact Or.inr ⟨hab.trans hbc, hab'.trans hbc'⟩

theorem lt_of_not_lt_of_ne (hNot : ¬ a < b) (hNe : b ≠ a) : b < a := by
  obtain ⟨nameA, categoryA⟩ := a
  obtain ⟨nameB, categoryB⟩ := b
  obtain ⟨hName, hCategory⟩ := not_or.mp hNot
  rcases lt_or_eq_of_le (not_lt.mp hName) with hLess | rfl
  · exact Or.inl hLess
  · refine Or.inr ⟨rfl, lt_of_le_of_ne (not_lt.mp fun hLess => hCategory ⟨rfl, hLess⟩) ?_⟩
    rintro rfl
    exact hNe rfl

instance : IsStrictTotalOrder EngineId (· < ·) where
  trichotomous a b hLess hGreater := by
    by_contra hNe
    exact hGreater (lt_of_not_lt_of_ne hLess (Ne.symm hNe))
  irrefl := lt_irrefl
  trans _ _ _ := lt_trans

theorem lt_of_lt_of_not_lt (hab : a < b) (hNot : ¬ c < b) : a < c := by
  by_cases hSame : c = b
  · exact hSame ▸ hab
  · exact lt_trans hab (lt_of_not_lt_of_ne hNot (Ne.symm hSame))

theorem pairwise_sort (ids : List EngineId) : (sort ids).Pairwise fun a b => ¬ b < a := by
  have hTrans : ∀ a b c : EngineId, le a b = true → le b c = true → le a c = true := by
    intro a b c hab hbc
    rw [le, decide_eq_true_eq] at hab hbc ⊢
    exact fun hLess => hbc (lt_of_lt_of_not_lt hLess hab)
  have hTotal : ∀ a b : EngineId, (le a b || le b a) = true := by
    intro a b
    by_cases hLess : a < b
    · have hNot : ¬ b < a := fun hGreater => lt_irrefl a (lt_trans hLess hGreater)
      simp [le, hNot]
    · simp [le, hLess]
  exact (List.pairwise_mergeSort hTrans hTotal ids).imp fun h => of_decide_eq_true h

theorem mem_dropRepeats {id : EngineId} {ids : List EngineId} : id ∈ dropRepeats ids ↔ id ∈ ids := by
  fun_induction dropRepeats ids with
  | case1 => rfl
  | case2 => rfl
  | case3 first rest ih => simp [ih]
  | case4 first second rest hNe ih => rw [List.mem_cons, ih, ← List.mem_cons]

/-- In a sorted list equal engines stand side by side, so none is left of them but one. -/
theorem pairwise_dropRepeats {ids : List EngineId} (h : ids.Pairwise fun a b => ¬ b < a) :
    (dropRepeats ids).Pairwise (· < ·) := by
  fun_induction dropRepeats ids with
  | case1 => exact List.Pairwise.nil
  | case2 id => exact List.pairwise_singleton _ _
  | case3 first rest ih => exact ih h.of_cons
  | case4 first second rest hNe ih =>
      obtain ⟨hFirst, hRest⟩ := List.pairwise_cons.mp h
      have hSecond : first < second :=
        lt_of_not_lt_of_ne (hFirst second (List.mem_cons_self ..)) hNe
      refine List.Pairwise.cons (fun later hLater => ?_) (ih hRest)
      rcases List.mem_cons.mp (mem_dropRepeats.mp hLater) with rfl | hLater
      · exact hSecond
      · exact lt_of_lt_of_not_lt hSecond (List.rel_of_pairwise_cons hRest hLater)

theorem mem_sortedSet {id : EngineId} {ids : List EngineId} : id ∈ sortedSet ids ↔ id ∈ ids := by
  rw [sortedSet, mem_dropRepeats, sort, List.mem_mergeSort]

theorem pairwise_sortedSet (ids : List EngineId) : (sortedSet ids).Pairwise (· < ·) :=
  pairwise_dropRepeats (pairwise_sort ids)

/-- Lists of engines are the same set exactly if they are listed alike in order. -/
theorem sortedSet_eq_iff {ids others : List EngineId} :
    sortedSet ids = sortedSet others ↔ ∀ id, id ∈ ids ↔ id ∈ others := by
  constructor
  · intro hSets id
    rw [← mem_sortedSet, hSets, mem_sortedSet]
  · intro hMembers
    have hNodup : ∀ ids, (sortedSet ids).Nodup := by
      refine fun ids => (pairwise_sortedSet ids).imp ?_
      rintro a _ hLess rfl
      exact lt_irrefl a hLess
    have hPerm : (sortedSet ids).Perm (sortedSet others) :=
      (List.perm_ext_iff_of_nodup (hNodup ids) (hNodup others)).mpr fun id => by
        rw [mem_sortedSet, mem_sortedSet, hMembers id]
    exact hPerm.eq_of_pairwise (fun a b _ _ hLess hGreater => absurd (lt_trans hLess hGreater) (lt_irrefl a))
      (pairwise_sortedSet ids) (pairwise_sortedSet others)

end Metasearch.EngineId
