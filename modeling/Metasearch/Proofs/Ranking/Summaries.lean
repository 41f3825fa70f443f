import Metasearch.Proofs.Ranking.Completeness

/-! What a result tells of its page. Merging takes in one hit after the other, but each part of a result can be
read off all hits of the page at once. -/
namespace Metasearch.Ranking

/-- The hits that lead to the page of a key, in the order in which they are taken in. -/
def pageHits (hits : List (EngineId × List RawHit)) (key : String) : List (EngineId × RawHit) :=
  (hitsInOrder hits).filter fun entry => leadsTo key entry.2

/-- The first of some texts that is not blank, or the last one if all are blank. -/
def FirstFilled (texts : List String) (text : String) : Prop :=
  ∃ before after, texts = before ++ text :: after ∧ (∀ other ∈ before, Text.isBlankText other = true) ∧
    (Text.isBlankText text = false ∨ after = [])

/-- The first of the texts with the most bytes. -/
def FirstLongest (texts : List String) (text : String) : Prop :=
  ∃ before after, texts = before ++ text :: after ∧
    (∀ other ∈ before, other.utf8ByteSize < text.utf8ByteSize) ∧
    ∀ other ∈ after, other.utf8ByteSize ≤ text.utf8ByteSize

/-- The ranks that an engine gave to hits. Rank zero counts as one. -/
def ranksBy (engine : EngineId) (entries : List (EngineId × RawHit)) : List UInt32 :=
  (entries.filter (·.1 == engine)).map fun entry => max entry.2.rank 1

/-- The least rank that an engine gave to hits. -/
def bestRank (engine : EngineId) (entries : List (EngineId × RawHit)) : UInt32 :=
  (ranksBy engine entries).min?.getD 1

variable {texts : List String} {text : String} {entries : List (EngineId × RawHit)} {engine : EngineId}

theorem FirstFilled.append_singleton (h : FirstFilled texts text) (next : String) :
    FirstFilled (texts ++ [next]) (if Text.isBlankText text then next else text) := by
  obtain ⟨before, after, rfl, hBlank, hLast⟩ := h
  split
  · rename_i hText
    obtain rfl := hLast.resolve_left (Bool.not_eq_false _ ▸ hText)
    refine ⟨before ++ [text], [], rfl, ?_, .inr rfl⟩
    intro other hMem
    rcases List.mem_append.mp hMem with hMem | hMem
    · exact hBlank other hMem
    · exact List.mem_singleton.mp hMem ▸ hText
  · rename_i hText
    exact ⟨before, after ++ [next], by simp, hBlank, .inl (Bool.eq_false_iff.mpr hText)⟩

theorem FirstLongest.append_singleton (h : FirstLongest texts text) (next : String) :
    FirstLongest (texts ++ [next])
      (if next.utf8ByteSize > text.utf8ByteSize then next else text) := by
  obtain ⟨before, after, rfl, hBefore, hAfter⟩ := h
  split
  · rename_i hLonger
    refine ⟨before ++ text :: after, [], by simp, ?_, by simp⟩
    intro other hMem
    rcases List.mem_append.mp hMem with hMem | hMem
    · exact Nat.lt_trans (hBefore other hMem) hLonger
    · rcases List.mem_cons.mp hMem with rfl | hMem
      · exact hLonger
      · exact Nat.lt_of_le_of_lt (hAfter other hMem) hLonger
  · rename_i hNotLonger
    refine ⟨before, after ++ [next], by simp, hBefore, ?_⟩
    intro other hMem
    rcases List.mem_append.mp hMem with hMem | hMem
    · exact hAfter other hMem
    · exact List.mem_singleton.mp hMem ▸ Nat.le_of_not_lt hNotLonger

theorem mem_ranksBy {rank : UInt32} :
    rank ∈ ranksBy engine entries ↔ ∃ entry ∈ entries, entry.1 = engine ∧ max entry.2.rank 1 = rank := by
  simp [ranksBy, and_assoc]

theorem min?_ranksBy (h : engine ∈ entries.map Prod.fst) :
    (ranksBy engine entries).min? = some (bestRank engine entries) := by
  obtain ⟨entry, hMem, rfl⟩ := List.mem_map.mp h
  obtain ⟨rank, hRank⟩ := Option.isSome_iff_exists.mp
    (List.isSome_min?_of_mem (mem_ranksBy.mpr ⟨entry, hMem, rfl, rfl⟩))
  rw [bestRank, hRank, Option.getD_some]

theorem ranksBy_eq_nil (h : engine ∉ entries.map Prod.fst) : ranksBy engine entries = [] := by
  refine List.eq_nil_iff_forall_not_mem.mpr fun rank hRank => ?_
  obtain ⟨entry, hMem, rfl, -⟩ := mem_ranksBy.mp hRank
  exact h (List.mem_map_of_mem hMem)

theorem min?_append_singleton (ranks : List UInt32) (rank : UInt32) :
    (ranks ++ [rank]).min? = some (ranks.min?.elim rank (min · rank)) := by
  cases ranks with
  | nil => rfl
  | cons first rest => rw [List.cons_append, List.min?_cons', List.foldl_append, List.min?_cons']; rfl

/-- One more hit can only better the rank of its own engine. -/
theorem bestRank_append_singleton (entries : List (EngineId × RawHit)) (engine : EngineId)
    (entry : EngineId × RawHit) :
    bestRank engine (entries ++ [entry]) =
      if entry.1 ≠ engine then bestRank engine entries
      else if engine ∈ entries.map Prod.fst then min (bestRank engine entries) (max entry.2.rank 1)
      else max entry.2.rank 1 := by
  by_cases hEngine : entry.1 = engine
  · have hRanks : ranksBy engine (entries ++ [entry]) = ranksBy engine entries ++ [max entry.2.rank 1] := by
      simp [ranksBy, hEngine]
    rw [if_neg (not_not_intro hEngine), bestRank, hRanks, min?_append_singleton, Option.getD_some]
    split
    · rename_i hMem
      rw [min?_ranksBy hMem, Option.elim_some]
    · rename_i hNew
      rw [ranksBy_eq_nil hNew, List.min?_nil, Option.elim_none]
  · have hRanks : ranksBy engine (entries ++ [entry]) = ranksBy engine entries := by
      simp [ranksBy, hEngine]
    rw [if_pos hEngine, bestRank, hRanks, bestRank]

/-- To note a rank where each engine is listed with its value changes the value of one engine. -/
theorem noteRank_map {engines : List EngineId} (hNodup : engines.Nodup) (best : EngineId → UInt32)
    (engine : EngineId) (rank : UInt32) :
    noteRank engine rank (engines.map fun e => (e, best e)) =
      if engine ∈ engines then engines.map fun e => (e, if engine = e then min (best e) rank else best e)
      else (engines.map fun e => (e, best e)) ++ [(engine, rank)] := by
  induction engines with
  | nil => rfl
  | cons first rest ih =>
      obtain ⟨hFirst, hRest⟩ := List.nodup_cons.mp hNodup
      simp only [List.map_cons, noteRank]
      by_cases hEngine : first = engine
      · subst hEngine
        have hSame : ∀ e ∈ rest, (if first = e then min (best e) rank else best e) = best e := by
          intro e hMem
          refine if_neg ?_
          rintro rfl
          exact hFirst hMem
        simp only [if_true, List.mem_cons_self, List.cons.injEq, true_and]
        exact List.map_congr_left fun e hMem => by rw [hSame e hMem]
      · rw [if_neg hEngine, ih hRest]
        simp only [List.mem_cons, Ne.symm hEngine, false_or, if_false]
        split <;> rfl

/-- A group tells of hits what is to be told of them. -/
structure Group.Summarises (group : Group) (entries : List (EngineId × RawHit)) : Prop where
  url : (entries.head?.map fun entry => Url.normalize entry.2.url) = some group.url
  title : FirstFilled (entries.map (·.2.title)) group.title
  snippet : FirstLongest (entries.map (·.2.snippet)) group.snippet
  ranks : group.ranks = (entries.map Prod.fst).eraseDups.map fun engine => (engine, bestRank engine entries)

namespace Group.Summarises

theorem ofHit (key : String) (engine : EngineId) (hit : RawHit) :
    (Group.ofHit key engine hit).Summarises [(engine, hit)] where
  url := by rw [List.head?_cons, Option.map_some, Group.ofHit]
  title := ⟨[], [], rfl, by simp, .inr rfl⟩
  snippet := ⟨[], [], rfl, by simp, by simp⟩
  ranks := by simp [Group.ofHit, bestRank, ranksBy, List.eraseDups_cons]

theorem add {group : Group} (h : group.Summarises entries) (engine : EngineId) (hit : RawHit) :
    (group.add engine hit).Summarises (entries ++ [(engine, hit)]) where
  url := by
    have hFirst := h.url
    cases entries with
    | nil => cases hFirst
    | cons first rest => exact hFirst
  title := by simpa [Group.add] using h.title.append_singleton hit.title
  snippet := by simpa [Group.add] using h.snippet.append_singleton hit.snippet
  ranks := by
    have hBest := fun e => bestRank_append_singleton entries e (engine, hit)
    simp only [Group.add, h.ranks, noteRank_map (nodup_eraseDups _), List.mem_eraseDups, hBest,
      List.map_append, List.map_singleton]
    split
    · rename_i hMem
      rw [eraseDups_append_of_subset (by simpa using hMem)]
      refine List.map_congr_left fun e hE => ?_
      by_cases hEq : engine = e
      · subst hEq
        simp only [if_true, hMem, ne_eq, not_true_eq_false, if_false]
      · simp only [hEq, if_false, ne_eq, not_false_eq_true, if_true]
    · rename_i hNew
      rw [eraseDups_append_of_notMem hNew, List.map_append, List.map_singleton]
      refine congrArg₂ _ (List.map_congr_left fun e hE => ?_) ?_
      · have hOther : engine ≠ e := fun hEq => hNew (hEq ▸ List.mem_eraseDups.mp hE)
        simp only [ne_eq, hOther, not_false_eq_true, if_true]
      · simp only [ne_eq, not_true_eq_false, if_false, hNew]

end Group.Summarises

/-- What hits of one page are gathered into tells of them what is to be told. -/
theorem summarises_gathered {key : String} {group : Group} (h : gathered key entries = some group) :
    group.Summarises entries := by
  induction entries using List.reverseRecOn generalizing group with
  | nil => cases h
  | append_singleton entries entry ih =>
      rw [gathered_append_singleton, Option.some.injEq] at h
      subst h
      cases hOld : gathered key entries with
      | none =>
          obtain rfl : entries = [] := by
            cases entries with
            | nil => rfl
            | cons first rest => cases hOld
          exact .ofHit key entry.1 entry.2
      | some old => exact (ih hOld).add entry.1 entry.2

variable {ranker : Ranker} {hits : List (EngineId × List RawHit)}

theorem summarises_of_mem_groups {group : Group} (h : group ∈ groups hits) :
    group.Summarises (pageHits hits group.key) :=
  summarises_gathered (gathered_of_mem_groups h)

/-- Results of one page are one result. -/
theorem eq_of_normalizedUrl_eq (hAll : ranker.maxResults = none) {result other : MergedResult}
    (hResult : result ∈ ranker.merge hits) (hOther : other ∈ ranker.merge hits)
    (hKey : result.normalizedUrl = other.normalizedUrl) : result = other := by
  have hNodup : ((ranker.merge hits).map (·.normalizedUrl)).Nodup :=
    (perm_normalizedUrl_merge hAll).nodup_iff.mpr (nodup_key_groups hits)
  exact List.inj_on_of_nodup_map hNodup hResult hOther hKey

/-- Without a limit each page has one result. Its URL is the normal form of the first URL that leads to the page,
its title is the first one that is not blank, or the last one if all are, and its snippet is the first of those
with the most bytes. Its score is made of one pair for each engine that returned the page, in the order of
first appearance: the weight of the engine and the best of all ranks that it gave the page. -/
theorem results_summarise_pages (ranker : Ranker) (hAll : ranker.maxResults = none)
    (hits : List (EngineId × List RawHit)) {key : String}
    (hKey : key ∈ (ranker.merge hits).map (·.normalizedUrl)) :
    ∃ result ∈ ranker.merge hits, result.normalizedUrl = key ∧
      (∀ other ∈ ranker.merge hits, other.normalizedUrl = key → other = result) ∧
      ((pageHits hits key).head?.map fun entry => Url.normalize entry.2.url) = some result.url ∧
      FirstFilled ((pageHits hits key).map (·.2.title)) result.title ∧
      FirstLongest ((pageHits hits key).map (·.2.snippet)) result.snippet ∧
      result.engines = ((pageHits hits key).map Prod.fst).eraseDups ∧
      (∀ engine ∈ result.engines,
        (ranksBy engine (pageHits hits key)).min? = some (bestRank engine (pageHits hits key))) ∧
      result.score = combinedScore (result.engines.map fun engine =>
        (ranker.weight engine, bestRank engine (pageHits hits key))) := by
  obtain ⟨result, hResult, rfl⟩ := List.mem_map.mp hKey
  obtain ⟨group, hGroup, position, rfl⟩ := exists_group_of_mem_merge hResult
  have hTold := summarises_of_mem_groups hGroup
  have hEngines : (ranker.result group position).engines =
      ((pageHits hits group.key).map Prod.fst).eraseDups := by
    simp only [Ranker.result, hTold.ranks, List.map_map, Function.comp_def, List.map_id']
  refine ⟨_, hResult, rfl, fun other hOther hSame => eq_of_normalizedUrl_eq hAll hOther hResult hSame,
    hTold.url, hTold.title, hTold.snippet, hEngines, ?_, ?_⟩
  · intro engine hMem
    rw [hEngines, List.mem_eraseDups] at hMem
    exact min?_ranksBy hMem
  · rw [hEngines]
    simp only [Ranker.result, Ranker.score, Ranker.pairs, hTold.ranks, List.map_map, Function.comp_def]

/-- One page from two engines. The first engine returns it three times, with a blank title at first, with its
best rank later, and with a rank that no list has; another page stands in between. -/
def scatteredHits : List (EngineId × List RawHit) :=
  [(⟨"a", "web"⟩, [⟨"http://A.test/x/", " ", "kurz", ⟨"a", "web"⟩, 7⟩, ⟨"https://b.test", "B", "", ⟨"a", "web"⟩, 1⟩,
      ⟨"https://a.test/x", "X", "länger", ⟨"a", "web"⟩, 3⟩]),
    (⟨"b", "web"⟩, [⟨"https://a.test/x#top", "Top", "lang 12", ⟨"b", "web"⟩, 0⟩]),
    (⟨"a", "web"⟩, [⟨"https://a.test/x", "", "", ⟨"a", "web"⟩, 5⟩])]

theorem results_summarise_scattered_page :
    ∃ result ∈ Ranker.merge { weights := [(⟨"b", "web"⟩, 0.5)] } scatteredHits,
      result.normalizedUrl = "a.test/x" ∧ result.url = "http://a.test/x" ∧
      FirstFilled [" ", "X", "Top", ""] result.title ∧
      FirstLongest ["kurz", "länger", "lang 12", ""] result.snippet ∧
      result.score = combinedScore [(1.0, 3), (0.5, 1)] := by
  have hPage : "a.test/x" ∈ ((Ranker.merge { weights := [(⟨"b", "web"⟩, 0.5)] } scatteredHits).map
      (·.normalizedUrl)) :=
    (mem_normalizedUrl_merge rfl).mpr ⟨_, List.mem_cons_self .., _, List.mem_cons_self .., by decide +kernel⟩
  obtain ⟨result, hResult, hKey, -, hUrl, hTitle, hSnippet, hEngines, -, hScore⟩ :=
    results_summarise_pages { weights := [(⟨"b", "web"⟩, 0.5)] } rfl scatteredHits hPage
  have hHits : pageHits scatteredHits "a.test/x" =
      [(⟨"a", "web"⟩, ⟨"http://A.test/x/", " ", "kurz", ⟨"a", "web"⟩, 7⟩),
        (⟨"a", "web"⟩, ⟨"https://a.test/x", "X", "länger", ⟨"a", "web"⟩, 3⟩),
        (⟨"b", "web"⟩, ⟨"https://a.test/x#top", "Top", "lang 12", ⟨"b", "web"⟩, 0⟩),
        (⟨"a", "web"⟩, ⟨"https://a.test/x", "", "", ⟨"a", "web"⟩, 5⟩)] := by decide +kernel
  rw [hHits] at hUrl hTitle hSnippet hEngines hScore
  refine ⟨result, hResult, hKey, ?_, hTitle, hSnippet, ?_⟩
  · exact (Option.some.inj hUrl).symm.trans (by decide +kernel)
  · rw [hScore, hEngines]
    exact congrArg combinedScore rfl

end Metasearch.Ranking
