import Metasearch.Proofs.Ranking.Order
import Metasearch.Proofs.Ranking.Summaries

/-! Lists in another order. Where an engine places a hit in its list decides which results come first among those
of equal score, but not which results there are, nor which engines they name, nor how they score. -/
namespace Metasearch.Ranking

/-- The same engines bring the same hits, each in an order of its own. -/
def Reordered (hits other : List (EngineId × List RawHit)) : Prop :=
  List.Forall₂ (fun source twin => source.1 = twin.1 ∧ source.2.Perm twin.2) hits other

variable {hits other : List (EngineId × List RawHit)}

namespace Reordered

theorem perm_hitsInOrder (h : Reordered hits other) : (hitsInOrder hits).Perm (hitsInOrder other) := by
  induction h with
  | nil => exact .nil
  | @cons source twin rest others hSource hRest ih =>
      obtain ⟨hEngine, hList⟩ := hSource
      have hHits : (source.2.map (source.1, ·)).Perm (twin.2.map (twin.1, ·)) := by
        rw [hEngine]
        exact hList.map _
      exact hHits.append ih

theorem perm_pageHits (h : Reordered hits other) (key : String) :
    (pageHits hits key).Perm (pageHits other key) :=
  h.perm_hitsInOrder.filter _

/-- The engines of a page are listed by their sources, whose order stays. -/
theorem engines_pageHits (h : Reordered hits other) (key : String) :
    ((pageHits hits key).map Prod.fst).eraseDups = ((pageHits other key).map Prod.fst).eraseDups := by
  have hSources : (hits.filter fun source => source.2.any (leadsTo key)).map Prod.fst =
      (other.filter fun source => source.2.any (leadsTo key)).map Prod.fst := by
    induction h with
    | nil => rfl
    | @cons source twin rest others hSource hRest ih =>
        rw [List.filter_cons, List.filter_cons, hSource.2.any_eq]
        split
        · rw [List.map_cons, List.map_cons, ih, hSource.1]
        · exact ih
  calc
    _ = ((hits.filter fun source => source.2.any (leadsTo key)).map Prod.fst).eraseDups :=
        eraseDups_engines_hitsInOrder key hits
    _ = ((other.filter fun source => source.2.any (leadsTo key)).map Prod.fst).eraseDups := by
        rw [hSources]
    _ = _ := (eraseDups_engines_hitsInOrder key other).symm

end Reordered

theorem bestRank_of_perm {entries others : List (EngineId × RawHit)} (h : entries.Perm others)
    (engine : EngineId) : bestRank engine entries = bestRank engine others := by
  have hRanks : (ranksBy engine entries).Perm (ranksBy engine others) := (h.filter _).map _
  have hMin : (ranksBy engine entries).min? = (ranksBy engine others).min? := by
    refine Option.ext fun rank => ?_
    simp only [List.min?_eq_some_iff, hRanks.mem_iff]
  rw [bestRank, bestRank, hMin]

/-- The groups of one page list the same engines with the same ranks. -/
theorem Reordered.ranks_eq (h : Reordered hits other) {group twin : Group} (hGroup : group ∈ groups hits)
    (hTwin : twin ∈ groups other) (hKey : twin.key = group.key) : twin.ranks = group.ranks := by
  rw [(summarises_of_mem_groups hTwin).ranks, (summarises_of_mem_groups hGroup).ranks, hKey,
    h.engines_pageHits]
  exact List.map_congr_left fun engine _ => by rw [bestRank_of_perm (h.perm_pageHits group.key) engine]

theorem Reordered.perm_keys (h : Reordered hits other) :
    ((groups hits).map (·.key)).Perm ((groups other).map (·.key)) := by
  refine (List.perm_ext_iff_of_nodup (nodup_key_groups hits) (nodup_key_groups other)).mpr fun key => ?_
  have hKeys : (keysOf (hitsInOrder hits)).Perm (keysOf (hitsInOrder other)) :=
    (h.perm_hitsInOrder.filter _).map _
  rw [groups, groups, map_key_foldl_takeHit, map_key_foldl_takeHit, List.mem_eraseDups, List.mem_eraseDups,
    hKeys.mem_iff]

/-- However each engine orders its list, there are results for the same pages, and the result of a page names
the same engines in the same order and has the same score, down to its bits. -/
theorem scores_independent_of_list_order (ranker : Ranker) (hAll : ranker.maxResults = none)
    (h : Reordered hits other) :
    ((ranker.merge hits).map (·.normalizedUrl)).Perm ((ranker.merge other).map (·.normalizedUrl)) ∧
    ∀ result ∈ ranker.merge hits, ∀ twin ∈ ranker.merge other, twin.normalizedUrl = result.normalizedUrl →
      twin.engines = result.engines ∧ twin.score = result.score ∧
        ranker.bitsOf other twin = ranker.bitsOf hits result := by
  constructor
  · exact ((perm_normalizedUrl_merge hAll).trans h.perm_keys).trans (perm_normalizedUrl_merge hAll).symm
  · intro result hResult twin hTwin hKey
    obtain ⟨group, hGroup, position, rfl⟩ := exists_group_of_mem_merge hResult
    obtain ⟨twinGroup, hTwinGroup, twinPosition, rfl⟩ := exists_group_of_mem_merge hTwin
    have hRanks := h.ranks_eq hGroup hTwinGroup hKey
    have hPairs : ranker.pairs twinGroup = ranker.pairs group := congrArg (List.map _) hRanks
    refine ⟨congrArg (List.map Prod.fst) hRanks, congrArg combinedScore hPairs, ?_⟩
    rw [Ranker.bitsOf_result hGroup, Ranker.bitsOf_result hTwinGroup, Ranker.score, Ranker.score, hPairs]

/-- Two engines, one of which returns a page twice. -/
def listedHits : List (EngineId × List RawHit) :=
  [(⟨"a", "web"⟩, [⟨"https://a.test/x", "", "", ⟨"a", "web"⟩, 3⟩, ⟨"https://b.test/", "", "", ⟨"a", "web"⟩, 1⟩,
      ⟨"http://a.test/x/", "", "", ⟨"a", "web"⟩, 2⟩]),
    (⟨"b", "web"⟩, [⟨"https://c.test/", "", "", ⟨"b", "web"⟩, 2⟩, ⟨"https://a.test/x#top", "", "", ⟨"b", "web"⟩, 1⟩])]

/-- The same hits, so that another page appears first and the better rank comes before the worse one. -/
def shuffledHits : List (EngineId × List RawHit) :=
  [(⟨"a", "web"⟩, [⟨"https://b.test/", "", "", ⟨"a", "web"⟩, 1⟩, ⟨"http://a.test/x/", "", "", ⟨"a", "web"⟩, 2⟩,
      ⟨"https://a.test/x", "", "", ⟨"a", "web"⟩, 3⟩]),
    (⟨"b", "web"⟩, [⟨"https://a.test/x#top", "", "", ⟨"b", "web"⟩, 1⟩, ⟨"https://c.test/", "", "", ⟨"b", "web"⟩, 2⟩])]

theorem scores_of_shuffledHits :
    Reordered listedHits shuffledHits ∧
    ((Ranker.merge {} listedHits).map (·.normalizedUrl)).Perm
      ((Ranker.merge {} shuffledHits).map (·.normalizedUrl)) ∧
    ∃ result ∈ Ranker.merge {} listedHits, ∃ twin ∈ Ranker.merge {} shuffledHits,
      result.normalizedUrl = "a.test/x" ∧ twin.normalizedUrl = "a.test/x" ∧
      twin.engines = result.engines ∧ twin.score = result.score := by
  have hReordered : Reordered listedHits shuffledHits :=
    .cons ⟨rfl, by decide⟩ (.cons ⟨rfl, by decide⟩ .nil)
  obtain ⟨hKeys, hScores⟩ := scores_independent_of_list_order {} rfl hReordered
  have hPage : "a.test/x" ∈ (Ranker.merge {} listedHits).map (·.normalizedUrl) :=
    (mem_normalizedUrl_merge rfl).mpr ⟨_, List.mem_cons_self .., _, List.mem_cons_self .., by decide +kernel⟩
  obtain ⟨result, hResult, hKey⟩ := List.mem_map.mp hPage
  obtain ⟨twin, hTwin, hTwinKey⟩ := List.mem_map.mp (hKeys.mem_iff.mp hPage)
  obtain ⟨hEngines, hScore, -⟩ := hScores result hResult twin hTwin (hTwinKey.trans hKey.symm)
  exact ⟨hReordered, hKeys, result, hResult, twin, hTwin, hKey, hTwinKey, hEngines, hScore⟩

end Metasearch.Ranking
