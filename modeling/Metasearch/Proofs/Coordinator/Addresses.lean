import Metasearch.Proofs.Coordinator.Refusals
import Metasearch.Proofs.Text.Case

/-! How an engine is addressed. Requests are read without the blanks around their categories and names, but
engines are not, so an engine can be addressed by its own category and name exactly if these begin and end
with no blank. Letters of any script and case do not matter. -/
namespace Metasearch

/-- An engine without a fault has a name and a category. -/
theorem EngineSettings.isBlankText_of_fault? {engine : EngineSettings} {seen : List EngineId}
    (h : engine.fault? seen = none) :
    Text.isBlankText engine.name = false ∧ Text.isBlankText engine.category = false := by
  unfold fault? at h
  split at h
  · cases h
  · rename_i hNamed
    simpa using hNamed

theorem EngineSettings.category_ne_empty_of_validate {config : SearchConfig}
    (h : config.validate = .ok ()) {engine : EngineSettings} (hEngine : engine ∈ config.engines) :
    engine.category ≠ "" := by
  obtain ⟨before, hFault⟩ := fault?_of_firstFault? (SearchConfig.validate_eq_ok_iff.mp h).2.1 engine hEngine
  intro hEmpty
  have hNamed := (isBlankText_of_fault? hFault).2
  rw [hEmpty] at hNamed
  cases hNamed

namespace Coordinator

/-- A request addresses an engine if it has the engine among its candidates. -/
def Addresses (coordinator : Coordinator) (request : QueryRequest) (id : EngineId) : Prop :=
  ∃ candidates, coordinator.candidates request = .ok candidates ∧ id ∈ candidates

variable {coordinator : Coordinator} {request : QueryRequest} {id : EngineId}

theorem map_id_inCategories (coordinator : Coordinator) (categories : List String) :
    (coordinator.inCategories categories).map Registration.id =
      coordinator.engineIds.filter fun id => categories.contains (Text.lower id.category) := by
  rw [inCategories, engineIds, List.filter_map]
  rfl

theorem mem_of_candidates {candidates : List EngineId} (h : coordinator.candidates request = .ok candidates) :
    id ∈ candidates ↔ id ∈ coordinator.engineIds ∧
      Text.lower id.category ∈ coordinator.wantedCategories request ∧ admits request id = true := by
  simp only [Coordinator.candidates] at h
  split at h
  · cases h
  · cases h
    rw [map_id_inCategories, List.mem_filter, List.mem_filter, List.contains_iff_mem, and_assoc]

/-- An engine of a coordinator is addressed by what names its category and admits it. -/
theorem addresses_iff (hId : id ∈ coordinator.engineIds) :
    coordinator.Addresses request id ↔
      Text.lower id.category ∈ coordinator.wantedCategories request ∧ admits request id = true := by
  constructor
  · rintro ⟨candidates, hCandidates, hMem⟩
    exact ((mem_of_candidates hCandidates).mp hMem).2
  · rintro ⟨hWanted, hAdmits⟩
    cases hCandidates : coordinator.candidates request with
    | ok candidates =>
        exact ⟨candidates, hCandidates, (mem_of_candidates hCandidates).mpr ⟨hId, hWanted, hAdmits⟩⟩
    | error error =>
        -- There is no error while some engine belongs to a wanted category.
        simp only [Coordinator.candidates] at hCandidates
        split at hCandidates
        · rename_i hNone
          have hFound : id ∈ (coordinator.inCategories (coordinator.wantedCategories request)).map
              Registration.id := by
            rw [map_id_inCategories]
            simp [hId, hWanted]
          rw [List.isEmpty_iff.mp hNone] at hFound
          cases hFound
        · cases hCandidates

theorem admits_of_none (h : request.engines = none) : admits request id = true := by
  simp [admits, h]

theorem admits_iff_of_some {names : List String} (h : request.engines = some names) :
    admits request id = true ↔ ∃ name ∈ names, Text.trim name = id.name := by
  simp [admits, h]

/-- A category that a request names is wanted in the spelling that ignores case, if it is no blank one. -/
theorem lower_mem_wantedCategories {category : String} (hNamed : category ∈ request.categories)
    (hTrim : Text.trim category = category) (hSome : category ≠ "") :
    Text.lower category ∈ coordinator.wantedCategories request := by
  refine mem_wantedCategories.mpr ⟨category, ?_, ?_, ?_⟩
  · rw [SearchConfig.askedCategories, if_neg (List.ne_nil_of_mem hNamed)]
    exact hNamed
  · rw [hTrim, ne_eq, Text.lower_eq_empty_iff]
    exact hSome
  · rw [hTrim]

/-- An engine that is switched on is addressed by every request that names its category, and by every
request that names its category and admits its name, if neither begins or ends with a blank. A request that
names nothing but its category, or nothing but its category and its name, addresses it only then. -/
theorem addressed_by_own_id (built : coordinator.Built) {engine : EngineSettings}
    (hEngine : engine ∈ coordinator.config.engines) (hOn : engine.disabled = false) :
    (∀ request : QueryRequest, engine.category ∈ request.categories →
      Text.trim engine.category = engine.category →
      (request.engines = none → coordinator.Addresses request engine.id) ∧
      ∀ names, request.engines = some names → engine.name ∈ names → Text.trim engine.name = engine.name →
        coordinator.Addresses request engine.id) ∧
    ∀ request : QueryRequest, request.categories = [engine.category] →
      (request.engines = none →
        (coordinator.Addresses request engine.id ↔ Text.trim engine.category = engine.category)) ∧
      (request.engines = some [engine.name] →
        (coordinator.Addresses request engine.id ↔
          Text.trim engine.category = engine.category ∧ Text.trim engine.name = engine.name)) := by
  have hId : engine.id ∈ coordinator.engineIds := by
    rw [built.engineIds_eq]
    exact List.mem_map_of_mem (List.mem_filter.mpr ⟨hEngine, by simp [hOn]⟩)
  have hSome := EngineSettings.category_ne_empty_of_validate built.validate_config hEngine
  have hWanted : ∀ request : QueryRequest, request.categories = [engine.category] →
      (Text.lower engine.category ∈ coordinator.wantedCategories request ↔
        Text.trim engine.category = engine.category) := by
    intro request hOnly
    constructor
    · intro hWanted
      obtain ⟨asked, hAsked, -, hSame⟩ := mem_wantedCategories.mp hWanted
      rw [SearchConfig.askedCategories, hOnly, if_neg (List.cons_ne_nil _ _), List.mem_singleton] at hAsked
      rw [hAsked] at hSame
      exact Text.lower_trim_eq_lower_iff.mp hSame
    · intro hTrim
      exact lower_mem_wantedCategories (hOnly ▸ List.mem_singleton_self _) hTrim hSome
  refine ⟨?_, ?_⟩
  · intro request hNamed hTrim
    have hWanted : Text.lower engine.category ∈ coordinator.wantedCategories request :=
      lower_mem_wantedCategories hNamed hTrim hSome
    refine ⟨fun hAll => (addresses_iff hId).mpr ⟨hWanted, admits_of_none hAll⟩, ?_⟩
    intro names hNames hName hTrimName
    exact (addresses_iff hId).mpr ⟨hWanted, (admits_iff_of_some hNames).mpr ⟨_, hName, hTrimName⟩⟩
  · intro request hOnly
    constructor
    · intro hAll
      rw [addresses_iff hId, admits_of_none hAll]
      exact (and_iff_left rfl).trans (hWanted request hOnly)
    · intro hNames
      rw [addresses_iff hId, admits_iff_of_some hNames]
      refine and_congr (hWanted request hOnly) ?_
      simp [EngineSettings.id]

/-- One engine of each category, in capitals that have their own small form at the end of a word. -/
def capitalsCoordinator : Coordinator :=
  { config := { engines := [{ name := "Πύλη", category := "ΝΕΑ ΟΔΟΣ" }, { name := "alpha" }] }
    engines := [⟨⟨"Πύλη", "ΝΕΑ ΟΔΟΣ"⟩, 1, none⟩, ⟨⟨"alpha", "general"⟩, 0, none⟩]
    emptyCache := { lifetime := 0 } }

theorem capitalsCoordinator_built : capitalsCoordinator.Built :=
  ⟨capitalsCoordinator.config, ["alpha", "Πύλη"], {}, _, rfl⟩

/-- Its own category and name address an engine among other categories and names. -/
theorem addressed_by_own_id_in_capitals :
    capitalsCoordinator.Built ∧ Text.trim "ΝΕΑ ΟΔΟΣ" = "ΝΕΑ ΟΔΟΣ" ∧
    capitalsCoordinator.Addresses
      { query := "x", categories := ["images", "ΝΕΑ ΟΔΟΣ"], engines := some ["beta", "Πύλη"] }
      ⟨"Πύλη", "ΝΕΑ ΟΔΟΣ"⟩ := by
  have hTrim : Text.trim "ΝΕΑ ΟΔΟΣ" = "ΝΕΑ ΟΔΟΣ" := by decide
  have hListed : { name := "Πύλη", category := "ΝΕΑ ΟΔΟΣ" } ∈ capitalsCoordinator.config.engines :=
    List.mem_cons_self ..
  obtain ⟨hAddressed, -⟩ := addressed_by_own_id capitalsCoordinator_built hListed rfl
  refine ⟨capitalsCoordinator_built, hTrim, ?_⟩
  exact (hAddressed _ (by simp) hTrim).2 _ rfl (by simp) (by decide)

/-- Two engines that are set off by a blank, one in its category and one in its name. -/
def indentedConfig : SearchConfig :=
  { engines := [{ name := "a", category := " news" }, { name := " b", category := "web" }] }

def indentedCoordinator : Coordinator :=
  { config := indentedConfig
    engines := [⟨⟨"a", " news"⟩, 0, none⟩, ⟨⟨" b", "web"⟩, 1, none⟩]
    emptyCache := { lifetime := 0 } }

/-- A valid configuration may have an engine that a request for its own category is refused, and one that a
request for its own category and name leaves out. -/
theorem exists_engines_not_addressed :
    ∃ tracker, indentedConfig.validate = .ok () ∧
      build indentedConfig ["a", " b"] = .ok (.ok indentedCoordinator, tracker) ∧
      indentedCoordinator.candidates { query := "x", categories := [" news"] } =
        .error (.noEnginesRegistered ["news"]) ∧
      indentedCoordinator.candidates { query := "x", categories := ["web"], engines := some [" b"] } =
        .ok [] :=
  ⟨_, rfl, rfl, by decide +kernel, rfl⟩

end Coordinator

end Metasearch
