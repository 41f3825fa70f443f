import Mathlib
import Metasearch.Proofs.Text.Pieces
import Metasearch.Simulated.Engine

/-! The hits of simulated engines. Two engines of different names have their first URLs in common, as many as
are half the hits of the one with fewer, and no others, whatever characters their names and the query hold. -/
namespace Metasearch.SimulatedEngine

/-- The URL of a hit that engines share. -/
def sharedUrl (slug : String) (i : Nat) : String :=
  "https://shared-" ++ toString i ++ ".example.org/" ++ slug

/-- The URL of a hit that an engine has to itself. -/
def ownUrl (engine slug : String) (i : Nat) : String :=
  "https://" ++ engine ++ ".example.com/" ++ slug ++ "/" ++ toString i

section Url

variable {engine other slug : String} {shared shared' i j : Nat}

theorem hitUrl_eq_sharedUrl (h : i ≤ shared) : hitUrl engine slug shared i = sharedUrl slug i :=
  if_pos h

theorem hitUrl_eq_ownUrl (h : shared < i) : hitUrl engine slug shared i = ownUrl engine slug i :=
  if_neg (Nat.not_le_of_lt h)

theorem slash_notMem_toString (n : Nat) : '/' ∉ (toString n).toList := by
  rw [Nat.toString_eq_repr, Nat.toList_repr]
  intro hMem
  have hDigit : '/'.isDigit = true := Nat.isDigit_of_mem_toDigits (by decide) (by decide) hMem
  contradiction

theorem sharedUrl_inj : sharedUrl slug i = sharedUrl slug j ↔ i = j := by
  unfold sharedUrl
  rw [String.append_left_inj, String.append_left_inj, String.append_right_inj]
  exact Nat.repr_inj

/-- The number after the last slash and the name before the domain are read off a URL. -/
theorem ownUrl_inj : ownUrl engine slug i = ownUrl other slug j ↔ engine = other ∧ i = j := by
  have hCut : ∀ (engine : String) (i : Nat), (ownUrl engine slug i).toList =
      ("https://" ++ engine ++ ".example.com/" ++ slug).toList ++ '/' :: (toString i).toList := by
    intro engine i
    unfold ownUrl
    simp
  rw [← String.toList_inj, hCut, hCut,
    Text.append_last_mark_inj (slash_notMem_toString i) (slash_notMem_toString j), String.toList_inj,
    String.toList_inj, String.append_left_inj, String.append_left_inj, String.append_right_inj]
  exact and_congr_right fun _ => Nat.repr_inj

/-- The host of a shared URL. -/
def sharedHost (i : Nat) : List Char :=
  "shared-".toList ++ (toString i).toList ++ ".example.org".toList

theorem slash_notMem_sharedHost (i : Nat) : '/' ∉ sharedHost i := by
  unfold sharedHost
  rw [List.mem_append, List.mem_append]
  rintro ((hMem | hMem) | hMem)
  · simp at hMem
  · exact slash_notMem_toString i hMem
  · simp at hMem

/-- The host of a shared URL ends at its first slash. A URL of one engine that began alike would have a slash
earlier, because the number at its end leaves less room for what is before the slug. -/
theorem sharedUrl_ne_ownUrl : sharedUrl slug i ≠ ownUrl engine slug j := by
  intro hSame
  have hChars : sharedHost i ++ '/' :: slug.toList =
      engine.toList ++ ".example.com/".toList ++ (slug.toList ++ '/' :: (toString j).toList) := by
    have hLists := congrArg String.toList hSame
    unfold sharedUrl ownUrl at hLists
    unfold sharedHost
    simpa using hLists
  have hSlash : '/' ∈ engine.toList ++ ".example.com/".toList := by simp
  generalize engine.toList ++ ".example.com/".toList = front at hChars hSlash
  have hShorter : front.length ≤ (sharedHost i).length := by
    have hLengths := congrArg List.length hChars
    simp only [List.length_append, List.length_cons] at hLengths
    omega
  have hPrefix : front <+: sharedHost i :=
    List.prefix_of_prefix_length_le ⟨_, hChars.symm⟩ (List.prefix_append _ _) hShorter
  exact slash_notMem_sharedHost i (hPrefix.subset hSlash)

/-- Two hits for one query have the same URL exactly if they stand at the same place and are shared by both
engines, or by neither and the engines have one name. -/
theorem hitUrl_eq_hitUrl_iff :
    hitUrl engine slug shared i = hitUrl other slug shared' j ↔
      i = j ∧ (i ≤ shared ∧ i ≤ shared' ∨ shared < i ∧ shared' < i ∧ engine = other) := by
  rcases Nat.lt_or_ge shared i with hOwn | hShared
  · rcases Nat.lt_or_ge shared' j with hOwn' | hShared'
    · rw [hitUrl_eq_ownUrl hOwn, hitUrl_eq_ownUrl hOwn', ownUrl_inj]
      grind
    · rw [hitUrl_eq_ownUrl hOwn, hitUrl_eq_sharedUrl hShared']
      apply iff_of_false sharedUrl_ne_ownUrl.symm
      omega
  · rcases Nat.lt_or_ge shared' j with hOwn' | hShared'
    · rw [hitUrl_eq_sharedUrl hShared, hitUrl_eq_ownUrl hOwn']
      apply iff_of_false sharedUrl_ne_ownUrl
      omega
    · rw [hitUrl_eq_sharedUrl hShared, hitUrl_eq_sharedUrl hShared', sharedUrl_inj]
      omega

end Url

variable {config a b : SimulatedEngineConfig} {query : String} {i k : Nat}

/-- The URLs of the hits for a query, in order of rank. -/
def urlsFor (config : SimulatedEngineConfig) (query : String) : List String :=
  (hitsFor config query).map RawHit.url

theorem hitsFor_eq (config : SimulatedEngineConfig) (query : String) :
    hitsFor config query =
      (List.range' 1 config.results.toNat).map (hitAt config query (slug query)) := by
  rw [List.range'_eq_map_range, List.map_map]
  apply List.map_congr_left
  intro i hMem
  show hitAt config query (slug query) (i + 1) = hitAt config query (slug query) (1 + i)
  rw [Nat.add_comm]

theorem urlsFor_eq (config : SimulatedEngineConfig) (query : String) :
    urlsFor config query = (List.range' 1 config.results.toNat).map
      (hitUrl config.name (slug query) (config.results.toNat / 2)) := by
  rw [urlsFor, hitsFor_eq, List.map_map]
  rfl

theorem toNat_rank_hitAt {slug : String} (h : i < UInt32.size) :
    (hitAt config query slug i).rank.toNat = i := by
  have hHeld : min i (UInt32.size - 1) = i := Nat.min_eq_left (Nat.le_pred_of_lt h)
  show (UInt32.ofNat (min i (UInt32.size - 1))).toNat = i
  rw [hHeld]
  exact UInt32.toNat_ofNat_of_lt' h

/-- So many hits, ranked from one on, no two of which have the same URL. -/
structure Ranked (hits : List RawHit) (number : Nat) : Prop where
  length : hits.length = number
  ranks : hits.map (·.rank.toNat) = List.range' 1 number
  distinct : (hits.map RawHit.url).Nodup

theorem ranked_hitsFor (h : config.results.toNat < UInt32.size) (query : String) :
    Ranked (hitsFor config query) config.results.toNat where
  length := by simp [hitsFor]
  ranks := by
    rw [hitsFor_eq, List.map_map]
    apply Eq.trans _ (List.map_id' _)
    apply List.map_congr_left
    intro i hMem
    rw [List.mem_range'_1] at hMem
    exact toNat_rank_hitAt (by omega)
  distinct := by
    show (urlsFor config query).Nodup
    rw [urlsFor_eq]
    apply List.Nodup.map_on
    · intro i _ j _ hSame
      exact (hitUrl_eq_hitUrl_iff.mp hSame).1
    · exact List.nodup_range' 1

theorem take_urlsFor (h : k ≤ config.results.toNat / 2) (query : String) :
    (urlsFor config query).take k = (List.range' 1 k).map (sharedUrl (slug query)) := by
  rw [urlsFor_eq, ← List.map_take, List.take_range'_of_length_ge (by omega)]
  apply List.map_congr_left
  intro i hMem
  rw [List.mem_range'_1] at hMem
  exact hitUrl_eq_sharedUrl (by omega)

/-- The number of URLs that two engines share: half the hits of the one with fewer. -/
def commonCount (a b : SimulatedEngineConfig) : Nat :=
  min (a.results.toNat / 2) (b.results.toNat / 2)

theorem hitUrl_eq_hitUrl_iff_of_ne {slug : String} (hNames : a.name ≠ b.name) :
    hitUrl a.name slug (a.results.toNat / 2) i = hitUrl b.name slug (b.results.toNat / 2) j ↔
      i = j ∧ i ≤ commonCount a b := by
  rw [hitUrl_eq_hitUrl_iff, commonCount, Nat.le_min]
  simp [hNames]

theorem hitUrl_mem_urlsFor_iff (hNames : a.name ≠ b.name) (hPlace : 1 ≤ i) :
    hitUrl a.name (slug query) (a.results.toNat / 2) i ∈ urlsFor b query ↔ i ≤ commonCount a b := by
  rw [urlsFor_eq, List.mem_map]
  constructor
  · rintro ⟨j, -, hSame⟩
    exact ((hitUrl_eq_hitUrl_iff_of_ne hNames).mp hSame.symm).2
  · intro hShared
    have hListed : i ∈ List.range' 1 b.results.toNat := by
      rw [List.mem_range'_1]
      unfold commonCount at hShared
      omega
    exact ⟨i, hListed, ((hitUrl_eq_hitUrl_iff_of_ne hNames).mpr ⟨rfl, hShared⟩).symm⟩

/-- The URLs that an engine has in common with another one are its first ones. -/
theorem filter_urlsFor (hNames : a.name ≠ b.name) (query : String) :
    (urlsFor a query).filter (· ∈ urlsFor b query) = (urlsFor a query).take (commonCount a b) := by
  have hCount : commonCount a b ≤ a.results.toNat / 2 := Nat.min_le_left _ _
  have hFirst : ∀ url ∈ (urlsFor a query).take (commonCount a b), url ∈ urlsFor b query := by
    intro url hMem
    rw [take_urlsFor hCount, List.mem_map] at hMem
    obtain ⟨i, hPlace, rfl⟩ := hMem
    rw [List.mem_range'_1] at hPlace
    rw [← hitUrl_eq_sharedUrl (by omega : i ≤ a.results.toNat / 2), hitUrl_mem_urlsFor_iff hNames hPlace.1]
    omega
  have hOthers : ∀ url ∈ (urlsFor a query).drop (commonCount a b), url ∉ urlsFor b query := by
    intro url hMem
    rw [urlsFor_eq, ← List.map_drop, List.drop_range', List.mem_map] at hMem
    obtain ⟨i, hPlace, rfl⟩ := hMem
    rw [List.mem_range'_1] at hPlace
    rw [hitUrl_mem_urlsFor_iff hNames (by omega)]
    omega
  calc
    _ = ((urlsFor a query).take (commonCount a b)).filter (· ∈ urlsFor b query) ++
        ((urlsFor a query).drop (commonCount a b)).filter (· ∈ urlsFor b query) := by
      rw [← List.filter_append, List.take_append_drop]
    _ = (urlsFor a query).take (commonCount a b) ++ [] := by
      rw [List.filter_eq_self.mpr (by simpa using hFirst), List.filter_eq_nil_iff.mpr (by simpa using hOthers)]
    _ = _ := List.append_nil _

/-- Hits of two engines have one URL exactly if both are shared and have one rank. -/
theorem url_eq_url_iff (hNames : a.name ≠ b.name) (hA : a.results.toNat < UInt32.size)
    (hB : b.results.toNat < UInt32.size) {hit other : RawHit} (hHit : hit ∈ hitsFor a query)
    (hOther : other ∈ hitsFor b query) :
    hit.url = other.url ↔ hit.rank = other.rank ∧ hit.rank.toNat ≤ commonCount a b := by
  rw [hitsFor_eq, List.mem_map] at hHit hOther
  obtain ⟨i, hPlace, rfl⟩ := hHit
  obtain ⟨j, hPlace', rfl⟩ := hOther
  rw [List.mem_range'_1] at hPlace hPlace'
  rw [← UInt32.toNat_inj, toNat_rank_hitAt (by omega), toNat_rank_hitAt (by omega)]
  exact hitUrl_eq_hitUrl_iff_of_ne hNames

/-- Each of two engines of different names gives as many hits for a query as it is set to, ranked from one on
and each with a URL of its own. The URLs that both give are the first ones of either list, as many as are half
the hits of the engine with fewer, and they have the same ranks in both. -/
theorem engines_share_first_urls (hNames : a.name ≠ b.name) (hA : a.results.toNat < UInt32.size)
    (hB : b.results.toNat < UInt32.size) (query : String) :
    Ranked (hitsFor a query) a.results.toNat ∧ Ranked (hitsFor b query) b.results.toNat ∧
    (urlsFor a query).filter (· ∈ urlsFor b query) = (urlsFor a query).take (commonCount a b) ∧
    (urlsFor b query).filter (· ∈ urlsFor a query) = (urlsFor b query).take (commonCount a b) ∧
    (urlsFor a query).take (commonCount a b) = (urlsFor b query).take (commonCount a b) ∧
    ∀ hit ∈ hitsFor a query, ∀ other ∈ hitsFor b query,
      hit.url = other.url ↔ hit.rank = other.rank ∧ hit.rank.toNat ≤ commonCount a b := by
  have hSwap : commonCount b a = commonCount a b := Nat.min_comm _ _
  have hOfB := filter_urlsFor hNames.symm query
  rw [hSwap] at hOfB
  have hSame : (urlsFor a query).take (commonCount a b) = (urlsFor b query).take (commonCount a b) :=
    (take_urlsFor (Nat.min_le_left _ _) query).trans (take_urlsFor (Nat.min_le_right _ _) query).symm
  refine ⟨ranked_hitsFor hA query, ranked_hitsFor hB query, filter_urlsFor hNames query, hOfB, hSame, ?_⟩
  intro hit hHit other hOther
  exact url_eq_url_iff hNames hA hB hHit hOther

/-- An engine with a name that looks like the rest of a URL. -/
def nestedEngine : SimulatedEngineConfig :=
  { name := "a.example.com/1", results := 5 }

/-- An engine that is named like the host of the first shared URL. -/
def namesakeEngine : SimulatedEngineConfig :=
  { name := "shared-1", results := 8 }

/-- Such names make no difference: they share the URLs of two hits. -/
theorem oddly_named_engines_share_two_urls :
    (urlsFor nestedEngine "1/2").filter (· ∈ urlsFor namesakeEngine "1/2") =
      ["https://shared-1.example.org/1-2", "https://shared-2.example.org/1-2"] ∧
    ((urlsFor nestedEngine "1/2") ++ urlsFor namesakeEngine "1/2").length = 13 := by
  obtain ⟨hNested, hNamesake, hCommon, -⟩ := engines_share_first_urls (a := nestedEngine)
    (b := namesakeEngine) (by decide) (by decide) (by decide) "1/2"
  apply And.intro
  · exact hCommon.trans (by decide)
  · unfold urlsFor
    rw [List.length_append, List.length_map, List.length_map, hNested.length, hNamesake.length]
    rfl

end Metasearch.SimulatedEngine
