import Mathlib.Data.List.Basic
import Metasearch.Ranking.Merge

/-! Merged results come from the hits they are merged from: an engine that a result names is one that
gave hits. -/
namespace Metasearch.Ranking

/-- Noting a rank names no engine but the one it is noted for. -/
theorem mem_noteRank {engine e : EngineId} {rank r : UInt32} {ranks : List (EngineId × UInt32)}
    (h : (e, r) ∈ noteRank engine rank ranks) : e = engine ∨ e ∈ ranks.map Prod.fst := by
  induction ranks with
  | nil =>
      simp only [noteRank, List.mem_singleton, Prod.mk.injEq] at h
      exact Or.inl h.1
  | cons entry rest ih =>
      obtain ⟨first, best⟩ := entry
      simp only [noteRank] at h
      simp only [List.map_cons, List.mem_cons]
      split at h
      · rcases List.mem_cons.mp h with hEq | hRest
        · cases hEq
          exact Or.inr (Or.inl rfl)
        · exact Or.inr (Or.inr (List.mem_map.mpr ⟨_, hRest, rfl⟩))
      · rcases List.mem_cons.mp h with hEq | hRest
        · cases hEq
          exact Or.inr (Or.inl rfl)
        · rcases ih hRest with hEq | hRest
          · exact Or.inl hEq
          · exact Or.inr (Or.inr hRest)

/-- All engines that a list of groups names are among given ones. -/
def NamesOnly (known : List EngineId) (groups : List Group) : Prop :=
  ∀ group ∈ groups, ∀ entry ∈ group.ranks, entry.1 ∈ known

variable {known : List EngineId}

/-- Adding a hit to a group names no engine but the one the hit counts for. -/
theorem mem_ranks_add {group : Group} {engine : EngineId} {hit : RawHit} (hEngine : engine ∈ known)
    (hGroup : ∀ entry ∈ group.ranks, entry.1 ∈ known) :
    ∀ entry ∈ (group.add engine hit).ranks, entry.1 ∈ known := by
  intro entry hMem
  rcases mem_noteRank hMem with hEq | hOld
  · rw [hEq]
    exact hEngine
  · obtain ⟨old, hOld, hEq⟩ := List.mem_map.mp hOld
    rw [← hEq]
    exact hGroup old hOld

theorem NamesOnly.putHit {groups : List Group} (h : NamesOnly known groups) (key : String)
    {engine : EngineId} (hEngine : engine ∈ known) (hit : RawHit) :
    NamesOnly known (putHit key engine hit groups) := by
  induction groups with
  | nil =>
      intro group hGroup entry hEntry
      simp only [Ranking.putHit, List.mem_singleton] at hGroup
      subst hGroup
      simp only [Group.ofHit, List.mem_singleton] at hEntry
      rw [hEntry]
      exact hEngine
  | cons first rest ih =>
      have hFirst := h first (List.mem_cons_self ..)
      have hRest : NamesOnly known rest := fun group hGroup => h group (List.mem_cons_of_mem _ hGroup)
      intro group hGroup
      simp only [Ranking.putHit] at hGroup
      split at hGroup
      · rcases List.mem_cons.mp hGroup with hEq | hGroup
        · rw [hEq]
          exact mem_ranks_add hEngine hFirst
        · exact hRest group hGroup
      · rcases List.mem_cons.mp hGroup with hEq | hGroup
        · rw [hEq]
          exact hFirst
        · exact ih hRest group hGroup

theorem NamesOnly.takeHit {groups : List Group} (h : NamesOnly known groups)
    {entry : EngineId × RawHit} (hEngine : entry.1 ∈ known) :
    NamesOnly known (takeHit groups entry) := by
  unfold Ranking.takeHit
  split
  · exact h
  · exact h.putHit _ hEngine _

theorem NamesOnly.foldl_takeHit {groups : List Group} (h : NamesOnly known groups)
    {entries : List (EngineId × RawHit)} (hEngines : ∀ entry ∈ entries, entry.1 ∈ known) :
    NamesOnly known (entries.foldl Ranking.takeHit groups) := by
  induction entries generalizing groups with
  | nil => exact h
  | cons entry rest ih =>
      exact ih (h.takeHit (hEngines entry (List.mem_cons_self ..)))
        fun other hMem => hEngines other (List.mem_cons_of_mem _ hMem)

theorem namesOnly_groups (hits : List (EngineId × List RawHit)) :
    NamesOnly (hits.map Prod.fst) (groups hits) := by
  apply NamesOnly.foldl_takeHit
  · simp [NamesOnly]
  · intro entry hMem
    obtain ⟨source, hSource, hMem⟩ := List.mem_flatMap.mp hMem
    obtain ⟨hit, -, rfl⟩ := List.mem_map.mp hMem
    exact List.mem_map.mpr ⟨source, hSource, rfl⟩

/-- A result is that of one of the groups of all hits. -/
theorem exists_group_of_mem_merge {ranker : Ranker} {hits : List (EngineId × List RawHit)}
    {result : MergedResult} (h : result ∈ ranker.merge hits) :
    ∃ group ∈ groups hits, ∃ position, result = ranker.result group position := by
  simp only [Ranker.merge, List.mem_map] at h
  obtain ⟨⟨group, place⟩, hMem, rfl⟩ := h
  refine ⟨group, ?_, _, rfl⟩
  have hKept := List.fst_mem_of_mem_zipIdx hMem
  split at hKept
  · exact List.mem_mergeSort.mp hKept
  · exact List.mem_mergeSort.mp (List.mem_of_mem_take hKept)

/-- Every engine that a result names gave hits. -/
theorem mem_engines_of_mem_merge {ranker : Ranker} {hits : List (EngineId × List RawHit)}
    {result : MergedResult} (h : result ∈ ranker.merge hits) {engine : EngineId}
    (hEngine : engine ∈ result.engines) : engine ∈ hits.map Prod.fst := by
  obtain ⟨group, hGroup, position, rfl⟩ := exists_group_of_mem_merge h
  obtain ⟨entry, hEntry, rfl⟩ := List.mem_map.mp hEngine
  exact namesOnly_groups hits group hGroup entry hEntry

end Metasearch.Ranking
