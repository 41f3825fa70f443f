import Metasearch.Proofs.Ranking.Groups

/-! Merging neither loses nor invents anything. The results are those of the pages that hits lead to, one
for each page, and each names exactly the engines that returned its page. -/
namespace Metasearch.Ranking

theorem hitsInOrder_append_singleton (hits : List (EngineId × List RawHit))
    (source : EngineId × List RawHit) :
    hitsInOrder (hits ++ [source]) = hitsInOrder hits ++ source.2.map (source.1, ·) := by
  simp [hitsInOrder]

/-- Engines appear in the same order whether each hit of a page is counted or each source that holds
one. -/
theorem eraseDups_engines_hitsInOrder (key : String) (hits : List (EngineId × List RawHit)) :
    (((hitsInOrder hits).filter fun entry => leadsTo key entry.2).map Prod.fst).eraseDups =
      ((hits.filter fun source => source.2.any (leadsTo key)).map Prod.fst).eraseDups := by
  induction hits using List.reverseRecOn with
  | nil => rfl
  | append_singleton hits source ih =>
      have hNew : (((source.2.map (source.1, ·)).filter fun entry => leadsTo key entry.2).map Prod.fst) =
          List.replicate (source.2.countP (leadsTo key)) source.1 := by
        rw [List.filter_map, List.map_map, List.countP_eq_length_filter]
        exact List.map_const' ..
      rw [hitsInOrder_append_singleton, List.filter_append, List.map_append, hNew, List.filter_append,
        List.map_append]
      cases hCount : source.2.countP (leadsTo key) with
      | zero =>
          have hNone : source.2.any (leadsTo key) = false := by
            simpa [List.countP_eq_zero] using hCount
          simpa [hNone] using ih
      | succ count =>
          have hSome : source.2.any (leadsTo key) = true := by
            rw [List.any_eq_true, ← List.countP_pos_iff, hCount]
            exact Nat.succ_pos count
          -- However many hits of the page a source holds, its engine appears here once.
          rw [eraseDups_append_replicate, eraseDups_append_congr ih]
          simp [hSome]

theorem mem_keysOf_hitsInOrder {key : String} {hits : List (EngineId × List RawHit)} :
    key ∈ keysOf (hitsInOrder hits) ↔
      ∃ source ∈ hits, ∃ hit ∈ source.2, leadsTo key hit = true := by
  simp only [keysOf, hitsInOrder, leadsTo, List.mem_map, List.mem_filter, List.mem_flatMap]
  constructor
  · rintro ⟨entry, ⟨⟨source, hSource, hit, hHit, rfl⟩, hUrl⟩, hKey⟩
    exact ⟨source, hSource, hit, hHit, by simpa [hKey] using hUrl⟩
  · rintro ⟨source, hSource, hit, hHit, hLeads⟩
    rw [Bool.and_eq_true, beq_iff_eq] at hLeads
    exact ⟨(source.1, hit), ⟨⟨source, hSource, hit, hHit, rfl⟩, hLeads.1⟩, hLeads.2⟩

variable {ranker : Ranker} {hits : List (EngineId × List RawHit)}

theorem nodup_key_groups (hits : List (EngineId × List RawHit)) :
    ((groups hits).map (·.key)).Nodup := by
  rw [groups, map_key_foldl_takeHit]
  exact nodup_eraseDups _

theorem find?_key_of_mem {groups : List Group} (hNodup : (groups.map (·.key)).Nodup) {group : Group}
    (h : group ∈ groups) : groups.find? (·.key == group.key) = some group := by
  induction groups with
  | nil => cases h
  | cons first rest ih =>
      rw [List.map_cons, List.nodup_cons] at hNodup
      rcases List.mem_cons.mp h with rfl | hRest
      · simp
      · have hOther : first.key ≠ group.key := fun hEq =>
          hNodup.1 (hEq ▸ List.mem_map_of_mem hRest)
        rw [List.find?_cons_of_neg (by simpa using hOther)]
        exact ih hNodup.2 hRest

/-- Each group is what the hits of its own page are gathered into. -/
theorem gathered_of_mem_groups {group : Group} (h : group ∈ groups hits) :
    gathered group.key ((hitsInOrder hits).filter fun entry => leadsTo group.key entry.2) =
      some group := by
  rw [← find?_foldl_takeHit]
  exact find?_key_of_mem (nodup_key_groups hits) h

theorem map_normalizedUrl_merge (hAll : ranker.maxResults = none) :
    (ranker.merge hits).map (·.normalizedUrl) = (ranker.ranked (groups hits)).map (·.key) := by
  simp only [Ranker.merge, hAll, List.map_map]
  calc
    _ = (ranker.ranked (groups hits)).zipIdx.map ((·.key) ∘ Prod.fst) := rfl
    _ = _ := by rw [← List.map_map, List.zipIdx_map_fst]

theorem perm_normalizedUrl_merge (hAll : ranker.maxResults = none) :
    ((ranker.merge hits).map (·.normalizedUrl)).Perm ((groups hits).map (·.key)) := by
  rw [map_normalizedUrl_merge hAll]
  exact (List.mergeSort_perm _ _).map _

theorem mem_normalizedUrl_merge (hAll : ranker.maxResults = none) {key : String} :
    key ∈ (ranker.merge hits).map (·.normalizedUrl) ↔
      ∃ source ∈ hits, ∃ hit ∈ source.2, leadsTo key hit = true := by
  rw [(perm_normalizedUrl_merge hAll).mem_iff, groups, map_key_foldl_takeHit, List.mem_eraseDups,
    mem_keysOf_hitsInOrder]

/-- A result names the engines of the sources that hold a hit of its page. -/
theorem engines_of_mem_merge {result : MergedResult} (h : result ∈ ranker.merge hits) :
    result.engines =
      ((hits.filter fun source => source.2.any (leadsTo result.normalizedUrl)).map
        Prod.fst).eraseDups := by
  obtain ⟨group, hGroup, position, rfl⟩ := exists_group_of_mem_merge h
  exact (map_fst_ranks_gathered (gathered_of_mem_groups hGroup)).trans
    (eraseDups_engines_hitsInOrder group.key hits)

/-- Without a limit the results have different keys, and these are exactly the keys of the hits that have
a URL. The engines of a result are those of the sources that hold a hit of its page, each once, in the
order in which they first appear, and there is always one. -/
theorem merge_neither_loses_nor_invents (ranker : Ranker) (hAll : ranker.maxResults = none)
    (hits : List (EngineId × List RawHit)) :
    ((ranker.merge hits).map (·.normalizedUrl)).Nodup ∧
    (∀ key, key ∈ (ranker.merge hits).map (·.normalizedUrl) ↔
      ∃ source ∈ hits, ∃ hit ∈ source.2,
        Text.isBlankText hit.url = false ∧ Url.dedupKey hit.url = key) ∧
    ∀ result ∈ ranker.merge hits,
      result.engines =
        ((hits.filter fun source => source.2.any fun hit =>
          !Text.isBlankText hit.url && Url.dedupKey hit.url == result.normalizedUrl).map
            Prod.fst).eraseDups ∧
      result.engines.Nodup ∧ result.engines ≠ [] := by
  refine ⟨(perm_normalizedUrl_merge hAll).nodup_iff.mpr (nodup_key_groups hits), ?_, ?_⟩
  · intro key
    simpa [leadsTo] using mem_normalizedUrl_merge hAll
  · intro result hResult
    have hEngines := engines_of_mem_merge hResult
    refine ⟨hEngines, hEngines ▸ nodup_eraseDups _, ?_⟩
    obtain ⟨source, hSource, hit, hHit, hLeads⟩ :=
      (mem_normalizedUrl_merge hAll).mp (List.mem_map_of_mem hResult)
    have hHolds : source.2.any (leadsTo result.normalizedUrl) = true :=
      List.any_eq_true.mpr ⟨hit, hHit, hLeads⟩
    rw [hEngines]
    apply List.ne_nil_of_mem (a := source.1)
    exact List.mem_eraseDups.mpr (List.mem_map_of_mem (List.mem_filter.mpr ⟨hSource, hHolds⟩))

/-- Three sources of two engines. One page comes in several spellings, and one hit has no URL. -/
def overlappingHits : List (EngineId × List RawHit) :=
  [(⟨"b", "web"⟩, [⟨" ", "", "", ⟨"b", "web"⟩, 1⟩, ⟨"https://A.test/x/", "", "", ⟨"b", "web"⟩, 2⟩]),
    (⟨"a", "web"⟩, [⟨"http://a.test/x?ref=1", "", "", ⟨"a", "web"⟩, 1⟩,
      ⟨"https://a.test/y", "", "", ⟨"a", "web"⟩, 2⟩]),
    (⟨"b", "web"⟩, [⟨"https://a.test/x#top", "", "", ⟨"b", "web"⟩, 1⟩])]

/-- The page that three hits lead to has one result, which names both engines once. -/
theorem merge_overlappingHits_neither_loses_nor_invents :
    ((Ranker.merge {} overlappingHits).map (·.normalizedUrl)).Nodup ∧
    ∃ result ∈ Ranker.merge {} overlappingHits, result.normalizedUrl = "a.test/x" ∧
      result.engines = [⟨"b", "web"⟩, ⟨"a", "web"⟩] := by
  obtain ⟨hNodup, hKeys, hResults⟩ := merge_neither_loses_nor_invents {} rfl overlappingHits
  obtain ⟨result, hResult, hKey⟩ := List.mem_map.mp ((hKeys "a.test/x").mpr
    ⟨_, List.mem_cons_self .., ⟨"https://A.test/x/", "", "", ⟨"b", "web"⟩, 2⟩, by simp,
      by decide, by decide +kernel⟩)
  refine ⟨hNodup, result, hResult, hKey, (hResults result hResult).1.trans ?_⟩
  rw [hKey]
  decide +kernel

end Metasearch.Ranking
