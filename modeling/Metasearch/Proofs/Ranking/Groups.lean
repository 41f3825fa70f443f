import Mathlib.Data.List.Induction
import Mathlib.Data.List.Nodup
import Metasearch.Proofs.Ranking.Provenance

/-! The groups that hits are gathered in. There is one group for each page that some hit leads to, in the
order in which the pages first appear, and a group is made of the hits of its own page alone. -/
namespace Metasearch.Ranking

section FirstAppearance

variable {α : Type} [BEq α] [LawfulBEq α]

theorem eraseDups_append_of_subset {as bs : List α} (h : bs ⊆ as) :
    (as ++ bs).eraseDups = as.eraseDups := by
  have hNone : bs.removeAll as = [] := by
    rw [List.removeAll, List.filter_eq_nil_iff]
    intro b hMem
    simp [h hMem]
  rw [List.eraseDups_append, hNone, List.eraseDups_nil, List.append_nil]

theorem eraseDups_append_of_notMem {as : List α} {a : α} (h : a ∉ as) :
    (as ++ [a]).eraseDups = as.eraseDups ++ [a] := by
  have hAll : [a].removeAll as = [a] := by simp [List.removeAll, h]
  rw [List.eraseDups_append, hAll, List.eraseDups_cons, List.filter_nil, List.eraseDups_nil]

theorem nodup_eraseDups (as : List α) : as.eraseDups.Nodup := by
  induction as using List.reverseRecOn with
  | nil => exact List.nodup_nil
  | append_singleton as a ih =>
      by_cases h : a ∈ as
      · rwa [eraseDups_append_of_subset (by simpa using h)]
      · rw [eraseDups_append_of_notMem h, ← List.concat_eq_append]
        exact ih.concat (mt List.mem_eraseDups.mp h)

/-- A list that puts down each value where it first appears has the order of first appearance. -/
theorem eq_eraseDups_append_singleton {as old new : List α} {a : α} (hOld : old = as.eraseDups)
    (hSame : a ∈ old → new = old) (hNew : a ∉ old → new = old ++ [a]) :
    new = (as ++ [a]).eraseDups := by
  have hMem : a ∈ old ↔ a ∈ as := by rw [hOld, List.mem_eraseDups]
  by_cases h : a ∈ as
  · rw [hSame (hMem.mpr h), hOld, eraseDups_append_of_subset (by simpa using h)]
  · rw [hNew (mt hMem.mp h), hOld, eraseDups_append_of_notMem h]

/-- What comes after depends on a list only through the order of first appearance in it. -/
theorem eraseDups_append_congr {as others : List α} (h : as.eraseDups = others.eraseDups) (bs : List α) :
    (as ++ bs).eraseDups = (others ++ bs).eraseDups := by
  have hMem : ∀ b, b ∈ as ↔ b ∈ others := fun b => by
    rw [← List.mem_eraseDups, h, List.mem_eraseDups]
  have hRemove : bs.removeAll as = bs.removeAll others := by
    simp only [List.removeAll]
    apply List.filter_congr
    intro b _
    simp [hMem b]
  rw [List.eraseDups_append, List.eraseDups_append, h, hRemove]

theorem eraseDups_append_replicate (as : List α) (count : Nat) (a : α) :
    (as ++ List.replicate (count + 1) a).eraseDups = (as ++ [a]).eraseDups := by
  have hSplit : as ++ List.replicate (count + 1) a = (as ++ [a]) ++ List.replicate count a := by
    simp [List.replicate_succ]
  rw [hSplit]
  apply eraseDups_append_of_subset
  intro b hMem
  simp [List.eq_of_mem_replicate hMem]

end FirstAppearance

/-- Whether a hit has a URL and leads to the page of a key. -/
def leadsTo (key : String) (hit : RawHit) : Bool :=
  !Text.isBlankText hit.url && Url.dedupKey hit.url == key

/-- What hits of one page are gathered into, one after the other. -/
def gathered (key : String) : List (EngineId × RawHit) → Option Group
  | [] => none
  | (engine, hit) :: rest =>
    some (rest.foldl (fun group entry => group.add entry.1 entry.2) (.ofHit key engine hit))

/-- A group after one more hit. -/
def grown (key : String) (entry : EngineId × RawHit) : Option Group → Group
  | none => .ofHit key entry.1 entry.2
  | some group => group.add entry.1 entry.2

@[simp] theorem key_ofHit (key : String) (engine : EngineId) (hit : RawHit) :
    (Group.ofHit key engine hit).key = key := rfl

@[simp] theorem key_add (group : Group) (engine : EngineId) (hit : RawHit) :
    (group.add engine hit).key = group.key := rfl

theorem gathered_append_singleton (key : String) (entries : List (EngineId × RawHit))
    (entry : EngineId × RawHit) :
    gathered key (entries ++ [entry]) = some (grown key entry (gathered key entries)) := by
  cases entries with
  | nil => rfl
  | cons first rest => simp [gathered, grown]

variable {key : String} (engine : EngineId) (hit : RawHit) {groups : List Group}

theorem map_key_putHit_of_mem (h : key ∈ groups.map (·.key)) :
    (putHit key engine hit groups).map (·.key) = groups.map (·.key) := by
  induction groups with
  | nil => simp at h
  | cons group rest ih =>
      by_cases hKey : group.key = key
      · simp [putHit, hKey]
      · have hRest : key ∈ rest.map (·.key) := by simpa [Ne.symm hKey] using h
        simp only [putHit, hKey, if_false, List.map_cons, ih hRest]

theorem map_key_putHit_of_notMem (h : key ∉ groups.map (·.key)) :
    (putHit key engine hit groups).map (·.key) = groups.map (·.key) ++ [key] := by
  induction groups with
  | nil => rfl
  | cons group rest ih =>
      simp only [List.map_cons, List.mem_cons, not_or] at h
      simp [putHit, Ne.symm h.1, ih h.2]

theorem find?_putHit_self :
    (putHit key engine hit groups).find? (·.key == key) =
      some (grown key (engine, hit) (groups.find? (·.key == key))) := by
  induction groups with
  | nil => simp [putHit, grown]
  | cons group rest ih =>
      by_cases hKey : group.key = key
      · simp [putHit, grown, hKey]
      · simp [putHit, hKey, ih]

theorem find?_putHit_of_ne {other : String} (h : other ≠ key) :
    (putHit key engine hit groups).find? (·.key == other) = groups.find? (·.key == other) := by
  induction groups with
  | nil => simp [putHit, Ne.symm h]
  | cons group rest ih =>
      by_cases hKey : group.key = key
      · simp [putHit, hKey, Ne.symm h]
      · simp [putHit, hKey, List.find?_cons, ih]

/-- The keys of the hits that have a URL. -/
def keysOf (entries : List (EngineId × RawHit)) : List String :=
  (entries.filter fun entry => !Text.isBlankText entry.2.url).map fun entry =>
    Url.dedupKey entry.2.url

/-- There is one group for each key, in the order in which the keys first appear. -/
theorem map_key_foldl_takeHit (entries : List (EngineId × RawHit)) :
    (entries.foldl takeHit []).map (·.key) = (keysOf entries).eraseDups := by
  induction entries using List.reverseRecOn with
  | nil => rfl
  | append_singleton entries entry ih =>
      rw [List.foldl_append, List.foldl_cons, List.foldl_nil, takeHit]
      cases hBlank : Text.isBlankText entry.2.url with
      | true => simpa [keysOf, hBlank] using ih
      | false =>
          have hKeys : keysOf (entries ++ [entry]) = keysOf entries ++ [Url.dedupKey entry.2.url] := by
            simp [keysOf, hBlank]
          rw [hKeys]
          exact eq_eraseDups_append_singleton ih (map_key_putHit_of_mem entry.1 entry.2)
            (map_key_putHit_of_notMem entry.1 entry.2)

/-- The group of a key is what the hits that lead to its page are gathered into. -/
theorem find?_foldl_takeHit (key : String) (entries : List (EngineId × RawHit)) :
    (entries.foldl takeHit []).find? (·.key == key) =
      gathered key (entries.filter fun entry => leadsTo key entry.2) := by
  induction entries using List.reverseRecOn with
  | nil => rfl
  | append_singleton entries entry ih =>
      rw [List.foldl_append, List.foldl_cons, List.foldl_nil, takeHit, List.filter_append]
      cases hBlank : Text.isBlankText entry.2.url with
      | true => simpa [leadsTo, hBlank] using ih
      | false =>
          by_cases hKey : Url.dedupKey entry.2.url = key
          · have hLeads : leadsTo key entry.2 = true := by simp [leadsTo, hBlank, hKey]
            simp only [List.filter_cons, hLeads, if_true, List.filter_nil, gathered_append_singleton]
            rw [← ih, hKey]
            exact find?_putHit_self entry.1 entry.2
          · have hLeads : leadsTo key entry.2 = false := by simp [leadsTo, hBlank, hKey]
            simp only [List.filter_cons, hLeads, Bool.false_eq_true, if_false, List.filter_nil,
              List.append_nil]
            rw [← ih]
            exact find?_putHit_of_ne entry.1 entry.2 (Ne.symm hKey)

theorem map_fst_noteRank_of_mem {engine : EngineId} {ranks : List (EngineId × UInt32)}
    (h : engine ∈ ranks.map Prod.fst) (rank : UInt32) :
    (noteRank engine rank ranks).map Prod.fst = ranks.map Prod.fst := by
  induction ranks with
  | nil => simp at h
  | cons entry rest ih =>
      by_cases hEngine : entry.1 = engine
      · simp [noteRank, hEngine]
      · have hRest : engine ∈ rest.map Prod.fst := by simpa [Ne.symm hEngine] using h
        simp only [noteRank, hEngine, if_false, List.map_cons, ih hRest]

theorem map_fst_noteRank_of_notMem {engine : EngineId} {ranks : List (EngineId × UInt32)}
    (h : engine ∉ ranks.map Prod.fst) (rank : UInt32) :
    (noteRank engine rank ranks).map Prod.fst = ranks.map Prod.fst ++ [engine] := by
  induction ranks with
  | nil => rfl
  | cons entry rest ih =>
      rw [List.map_cons, List.mem_cons, not_or] at h
      simp [noteRank, Ne.symm h.1, ih h.2]

/-- A group names the engines of its hits, each once, in the order in which they first appear. -/
theorem map_fst_ranks_gathered {key : String} {entries : List (EngineId × RawHit)} {group : Group}
    (h : gathered key entries = some group) :
    group.ranks.map Prod.fst = (entries.map Prod.fst).eraseDups := by
  induction entries using List.reverseRecOn generalizing group with
  | nil => cases h
  | append_singleton entries entry ih =>
      rw [gathered_append_singleton] at h
      cases h
      rw [List.map_append, List.map_singleton]
      cases hOld : gathered key entries with
      | none =>
          obtain rfl : entries = [] := by
            cases entries with
            | nil => rfl
            | cons first rest => cases hOld
          rfl
      | some old =>
          exact eq_eraseDups_append_singleton (ih hOld)
            (fun hMem => map_fst_noteRank_of_mem hMem _)
            (fun hNotMem => map_fst_noteRank_of_notMem hNotMem _)

end Metasearch.Ranking
