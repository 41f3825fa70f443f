import Metasearch.Proofs.Ranking.Completeness
import Metasearch.Proofs.Url.Schemes

/-! Which hits are merged. As long as nothing like the mark behind a scheme comes before it, the hits of one
result have one normal form but for the scheme. -/
namespace Metasearch.Ranking

open Url

theorem keysOf_hitsInOrder (hits : List (EngineId × List RawHit)) :
    keysOf (hitsInOrder hits) =
      ((hits.flatMap (·.2)).filter fun hit => !Text.isBlankText hit.url).map fun hit =>
        dedupKey hit.url := by
  have hHits : (hitsInOrder hits).map Prod.snd = hits.flatMap (·.2) := by
    simp [hitsInOrder, List.map_flatMap, Function.comp_def]
  rw [← hHits, List.filter_map, List.map_map]
  rfl

/-- The key of a hit is the normal form of its URL without the scheme, unless another `://` comes before the one
behind the scheme. No URL with an authority is such an exception. Without exceptions URLs have the same key
only if their normal forms differ in nothing but the scheme, and so merging puts hits together only then. -/
theorem merge_keeps_pages_apart (ranker : Ranker) (hAll : ranker.maxResults = none) :
    (∀ raw, dedupKey raw = String.ofList (withoutScheme (normalize raw).toList) ↔
      SchemeFirst (normalize raw).toList) ∧
    (∀ raw url, parse (Text.trimChars raw.toList) = some url → url.authority.isSome →
      SchemeFirst (normalize raw).toList) ∧
    (∀ raw raw', SchemeFirst (normalize raw).toList → SchemeFirst (normalize raw').toList →
      (dedupKey raw = dedupKey raw' ↔
        withoutScheme (normalize raw).toList = withoutScheme (normalize raw').toList)) ∧
    ∀ hits : List (EngineId × List RawHit),
      (∀ source ∈ hits, ∀ hit ∈ source.2, SchemeFirst (normalize hit.url).toList) →
      ((ranker.merge hits).map (·.normalizedUrl)).Perm
        (((hits.flatMap (·.2)).filter fun hit => !Text.isBlankText hit.url).map fun hit =>
          String.ofList (withoutScheme (normalize hit.url).toList)).eraseDups := by
  refine ⟨fun raw => dedupKey_eq_withoutScheme_iff, fun raw url => schemeFirst_of_authority, ?_, ?_⟩
  · intro raw raw' hFirst hFirst'
    rw [dedupKey_eq_withoutScheme_iff.mpr hFirst, dedupKey_eq_withoutScheme_iff.mpr hFirst',
      String.ofList_inj]
  · intro hits hFirst
    have hKeys : keysOf (hitsInOrder hits) =
        ((hits.flatMap (·.2)).filter fun hit => !Text.isBlankText hit.url).map fun hit =>
          String.ofList (withoutScheme (normalize hit.url).toList) := by
      rw [keysOf_hitsInOrder]
      refine List.map_congr_left fun hit hHit => ?_
      obtain ⟨source, hSource, hHit⟩ := List.mem_flatMap.mp (List.mem_filter.mp hHit).1
      exact dedupKey_eq_withoutScheme_iff.mpr (hFirst source hSource hit hHit)
    rw [← hKeys, ← map_key_foldl_takeHit]
    exact perm_normalizedUrl_merge hAll

/-- A page, its copy under another scheme, and a page of another site. -/
def copiedHits : List (EngineId × List RawHit) :=
  [(⟨"a", "web"⟩, [⟨"https://a.test/x", "", "", ⟨"a", "web"⟩, 1⟩]),
    (⟨"b", "web"⟩, [⟨"http://a.test/x", "", "", ⟨"b", "web"⟩, 1⟩, ⟨"ftp://b.test/x", "", "", ⟨"b", "web"⟩, 2⟩])]

theorem merge_copiedHits_keeps_pages_apart :
    ((Ranker.merge {} copiedHits).map (·.normalizedUrl)).Perm ["a.test/x", "b.test/x"] := by
  obtain ⟨-, hFirst, -, hMerge⟩ := merge_keeps_pages_apart {} rfl
  have hAuthority : ∀ raw : String, (parse (Text.trimChars raw.toList)).any (·.authority.isSome) = true →
      SchemeFirst (normalize raw).toList := fun raw h => by
    obtain ⟨url, hUrl, hSome⟩ := (Option.any_eq_true _ _).mp h
    exact hFirst raw url hUrl hSome
  refine (hMerge _ ?_).trans (.of_eq ?_)
  · simp only [copiedHits, List.mem_cons, List.not_mem_nil, or_false]
    rintro source (rfl | rfl) hit hHit
    · obtain rfl := List.mem_singleton.mp hHit
      exact hAuthority _ (by decide +kernel)
    · rcases List.mem_pair.mp hHit with rfl | rfl <;> exact hAuthority _ (by decide +kernel)
  · decide +kernel

/-- A page, and a hit that is no URL but holds the one of the page. -/
def linkedHits : List (EngineId × List RawHit) :=
  [(⟨"a", "web"⟩, [⟨"https://a.test/x", "", "", ⟨"a", "web"⟩, 1⟩]),
    (⟨"b", "web"⟩, [⟨"/go?to=https://a.test/x", "", "", ⟨"b", "web"⟩, 1⟩])]

/-- What is no URL is cut at a `://` in its middle, and then taken for the page behind it. -/
theorem merge_mistakes_link_for_page :
    dedupKey "/go?to=https://a.test/x" = dedupKey "https://a.test/x" ∧
    withoutScheme (normalize "/go?to=https://a.test/x").toList ≠
      withoutScheme (normalize "https://a.test/x").toList ∧
    ∃ result ∈ Ranker.merge {} linkedHits, result.engines = [⟨"a", "web"⟩, ⟨"b", "web"⟩] := by
  refine ⟨by decide +kernel, by decide +kernel, ?_⟩
  have hKey : "a.test/x" ∈ (Ranker.merge {} linkedHits).map (·.normalizedUrl) :=
    (mem_normalizedUrl_merge rfl).mpr ⟨_, List.mem_cons_self .., _, List.mem_singleton_self _,
      by decide +kernel⟩
  obtain ⟨result, hResult, hKey⟩ := List.mem_map.mp hKey
  refine ⟨result, hResult, (engines_of_mem_merge hResult).trans ?_⟩
  rw [hKey]
  decide +kernel

end Metasearch.Ranking
