import Mathlib.Data.List.Nodup
import Metasearch.Coordinator.Handle

/-! Coordinators as they come out of a configuration. A checked configuration lists no engine twice, so
the engines of a coordinator are distinct, and whatever is picked from them keeps their order. -/
namespace Metasearch

/-- A list of engines without a fault repeats no engine, neither in itself nor from those before it. -/
theorem EngineSettings.nodup_of_firstFault? {seen : List EngineId} {engines : List EngineSettings}
    (h : firstFault? seen engines = none) :
    (engines.map EngineSettings.id).Nodup ∧ ∀ engine ∈ engines, engine.id ∉ seen := by
  induction engines generalizing seen with
  | nil => simp
  | cons engine rest ih =>
      simp only [firstFault?] at h
      split at h
      · exact absurd h (Option.some_ne_none _)
      · rename_i hFault
        obtain ⟨hNodup, hFresh⟩ := ih h
        have hUnseen : engine.id ∉ seen := by
          intro hSeen
          simp only [fault?, hSeen, if_true] at hFault
          repeat' split at hFault
          all_goals cases hFault
        refine ⟨?_, ?_⟩
        · rw [List.map_cons, List.nodup_cons]
          refine ⟨?_, hNodup⟩
          intro hMem
          obtain ⟨other, hOther, hId⟩ := List.mem_map.mp hMem
          exact hFresh other hOther (hId ▸ List.mem_cons_self ..)
        · intro other hMem
          rcases List.mem_cons.mp hMem with rfl | hMem
          · exact hUnseen
          · exact fun hSeen => hFresh other hMem (List.mem_cons_of_mem _ hSeen)

/-- Each engine in a list without a fault is without a fault after those before it. -/
theorem EngineSettings.fault?_of_firstFault? {seen : List EngineId} {engines : List EngineSettings}
    (h : firstFault? seen engines = none) : ∀ engine ∈ engines, ∃ before, engine.fault? before = none := by
  induction engines generalizing seen with
  | nil => simp
  | cons first rest ih =>
      simp only [firstFault?] at h
      split at h
      · exact absurd h (Option.some_ne_none _)
      · rename_i hFault
        intro engine hMem
        rcases List.mem_cons.mp hMem with rfl | hMem
        · exact ⟨seen, hFault⟩
        · exact ih h engine hMem

/-- A configuration is valid if its limits, its engines and its suspension policy are. -/
theorem SearchConfig.validate_eq_ok_iff {config : SearchConfig} :
    config.validate = .ok () ↔ config.limitFault? = none ∧
      EngineSettings.firstFault? [] config.engines = none ∧ config.suspension.validate = .ok () := by
  unfold validate
  cases hLimit : config.limitFault? with
  | some fault => simp
  | none =>
      cases hEngines : EngineSettings.firstFault? [] config.engines with
      | some fault => simp
      | none => cases hPolicy : config.suspension.validate <;> simp

theorem SearchConfig.nodup_of_validate {config : SearchConfig} (h : config.validate = .ok ()) :
    (config.engines.map EngineSettings.id).Nodup :=
  (EngineSettings.nodup_of_firstFault? (validate_eq_ok_iff.mp h).2.1).1

namespace Coordinator

/-- Registration that succeeds has found an adapter for the first engine and goes on with the others. -/
theorem registerAll_cons_eq_ok {names : List String} {engine : EngineSettings}
    {rest : List EngineSettings} {tracker final : Health.Tracker} {registered : List Registration}
    (h : registerAll names (engine :: rest) tracker = (.ok registered, final)) :
    ∃ adapter others, adapterOf? names engine.name = some adapter ∧
      registerAll names rest (tracker.register engine.id) = (.ok others, final) ∧
      registered = ⟨engine.id, adapter, engine.timeout⟩ :: others := by
  simp only [registerAll] at h
  split at h
  · cases h
  · rename_i adapter hAdapter
    cases hRest : registerAll names rest (tracker.register engine.id) with
    | mk result later =>
        rw [hRest] at h
        cases result with
        | error fault => cases h
        | ok others =>
            cases h
            exact ⟨adapter, others, hAdapter, rfl, rfl⟩

/-- Registration keeps the engines and their order. -/
theorem map_id_of_registerAll {names : List String} {engines : List EngineSettings}
    {tracker final : Health.Tracker} {registered : List Registration}
    (h : registerAll names engines tracker = (.ok registered, final)) :
    registered.map Registration.id = engines.map EngineSettings.id := by
  induction engines generalizing tracker registered with
  | nil =>
      cases h
      rfl
  | cons engine rest ih =>
      obtain ⟨adapter, others, -, hRest, rfl⟩ := registerAll_cons_eq_ok h
      rw [List.map_cons, List.map_cons, ih hRest]

/-- The coordinator came out of a configuration, with some adapters and some tracker. -/
def Built (coordinator : Coordinator) : Prop :=
  ∃ config names tracker final, withTracker config names tracker = .ok (.ok coordinator, final)

/-- What a configuration has to satisfy for a coordinator to come out of it, and what comes out. -/
theorem withTracker_eq_ok {config : SearchConfig} {names : List String} {tracker final : Health.Tracker}
    {coordinator : Coordinator} (h : withTracker config names tracker = .ok (.ok coordinator, final)) :
    config.validate = .ok () ∧
    registerAll names (config.engines.filter (!·.disabled)) tracker = (.ok coordinator.engines, final) ∧
    ResultCache.ofLifetime config.cacheTtlSeconds.toNat = .ok coordinator.emptyCache ∧
    coordinator.config = config := by
  unfold withTracker at h
  split at h
  · cases h
  · rename_i hValid
    split at h
    · cases h
    · rename_i engines later hRegistered
      split at h
      · cases h
      · rename_i cache hCache
        cases h
        exact ⟨hValid, hRegistered, hCache, rfl⟩

/-- The cache of a coordinator is empty when it is built. -/
theorem emptyCache_of_withTracker {config : SearchConfig} {names : List String}
    {tracker final : Health.Tracker} {coordinator : Coordinator}
    (h : withTracker config names tracker = .ok (.ok coordinator, final)) :
    coordinator.emptyCache = { lifetime := config.cacheTtlSeconds.toNat } := by
  obtain ⟨-, -, hCache, -⟩ := withTracker_eq_ok h
  unfold ResultCache.ofLifetime at hCache
  split at hCache
  · cases hCache
  · exact (Except.ok.inj hCache).symm

theorem Built.nodup_engineIds {coordinator : Coordinator} (h : coordinator.Built) :
    coordinator.engineIds.Nodup := by
  obtain ⟨config, names, tracker, final, h⟩ := h
  obtain ⟨hValid, hRegistered, -, -⟩ := withTracker_eq_ok h
  rw [engineIds, map_id_of_registerAll hRegistered]
  exact (SearchConfig.nodup_of_validate hValid).sublist (List.filter_sublist.map _)

/-- The candidates of a request are engines of the coordinator, in order of registration. -/
theorem candidates_sublist {coordinator : Coordinator} {request : QueryRequest}
    {candidates : List EngineId} (h : coordinator.candidates request = .ok candidates) :
    candidates.Sublist coordinator.engineIds := by
  simp only [Coordinator.candidates] at h
  split at h
  · cases h
  · cases h
    exact List.filter_sublist.trans (List.filter_sublist.map _)

/-- Engines of the coordinator are all found again when their adapters are looked up. -/
theorem map_engine_targetsOf {coordinator : Coordinator} {ids : List EngineId}
    (h : ∀ id ∈ ids, id ∈ coordinator.engineIds) :
    (coordinator.targetsOf ids).map (·.engine) = ids := by
  induction ids with
  | nil => rfl
  | cons id rest ih =>
      have hRest := ih fun other hMem => h other (List.mem_cons_of_mem _ hMem)
      obtain ⟨registration, hMem, hId⟩ := List.mem_map.mp (h id (List.mem_cons_self ..))
      have hFound : (coordinator.engines.find? (·.id == id)).isSome := by
        rw [List.find?_isSome]
        exact ⟨registration, hMem, by simpa using hId⟩
      obtain ⟨found, hFound⟩ := Option.isSome_iff_exists.mp hFound
      have hSame : found.id = id := by simpa using List.find?_some hFound
      unfold targetsOf at hRest ⊢
      rw [List.filterMap_cons, hFound]
      simp only [Option.map_some, List.map_cons, hSame, hRest]

end Coordinator

end Metasearch
