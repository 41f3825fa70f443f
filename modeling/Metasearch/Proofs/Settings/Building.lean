import Metasearch.Proofs.Coordinator.Building
import Metasearch.Settings.Basic

/-! Coordinators over simulated engines. An engine that is listed keeps its entry, and every simulated engine
that is not listed is registered behind those that are. An adapter is found for each of these, so that only
engines which are listed and switched on can lack one. -/
namespace Metasearch.Settings

variable {settings : Settings} {entropy : Nat → UInt64}

theorem lists_iff {config : SearchConfig} {id : EngineId} :
    lists config id = true ↔ id ∈ config.engines.map EngineSettings.id := by
  simp [lists]

/-- The simulated engines that are not listed, neither switched on nor off. -/
def unlisted (settings : Settings) : List SimulatedEngineConfig :=
  settings.simulated.filter fun sim => !lists settings.search sim.id

theorem engines_searchConfig (settings : Settings) :
    settings.searchConfig.engines =
      settings.search.engines ++ settings.unlisted.map SimulatedEngineConfig.engineSettings :=
  rfl

theorem map_id_engines_searchConfig (settings : Settings) :
    settings.searchConfig.engines.map EngineSettings.id =
      settings.search.engines.map EngineSettings.id ++ settings.unlisted.map SimulatedEngineConfig.id := by
  rw [engines_searchConfig, List.map_append, List.map_map]
  rfl

theorem enabled_engines_searchConfig (settings : Settings) :
    settings.searchConfig.engines.filter (!·.disabled) =
      settings.search.engines.filter (!·.disabled) ++
        settings.unlisted.map SimulatedEngineConfig.engineSettings := by
  rw [engines_searchConfig, List.filter_append]
  congr 1
  apply List.filter_eq_self.mpr
  intro engine hMem
  obtain ⟨sim, -, rfl⟩ := List.mem_map.mp hMem
  rfl

theorem map_id_unlisted (settings : Settings) :
    settings.unlisted.map SimulatedEngineConfig.id =
      (settings.simulated.map SimulatedEngineConfig.id).filter (!lists settings.search ·) := by
  rw [List.filter_map]
  rfl

/-- An engine is registered as often as it is listed or, if it is not, as often as it is simulated. -/
theorem count_id_searchConfig (settings : Settings) (id : EngineId) :
    (settings.searchConfig.engines.map EngineSettings.id).count id =
      if id ∈ settings.search.engines.map EngineSettings.id then
        (settings.search.engines.map EngineSettings.id).count id
      else (settings.simulated.map SimulatedEngineConfig.id).count id := by
  rw [map_id_engines_searchConfig, map_id_unlisted, List.count_append]
  split
  · rename_i hListed
    have hAbsent : id ∉ (settings.simulated.map SimulatedEngineConfig.id).filter
        (!lists settings.search ·) := by
      simp [List.mem_filter, lists_iff.mpr hListed]
    rw [List.count_eq_zero_of_not_mem hAbsent, Nat.add_zero]
  · rename_i hUnlisted
    have hKept : (!lists settings.search id) = true := by
      rw [Bool.not_eq_true', ← Bool.not_eq_true, lists_iff]
      exact hUnlisted
    rw [List.count_eq_zero_of_not_mem hUnlisted, Nat.zero_add]
    exact List.count_filter hKept

theorem mem_engines_searchConfig {sim : SimulatedEngineConfig} (h : sim ∈ settings.simulated) :
    sim.id ∈ settings.searchConfig.engines.map EngineSettings.id := by
  rw [← List.count_pos_iff, count_id_searchConfig]
  split
  · rename_i hListed
    exact List.count_pos_iff.mpr hListed
  · exact List.count_pos_iff.mpr (List.mem_map_of_mem h)

/-- Once all simulated engines are listed, there are none to register. -/
theorem searchConfig_searchConfig (settings : Settings) :
    searchConfig { settings with search := settings.searchConfig } = settings.searchConfig := by
  have hNone : unlisted { settings with search := settings.searchConfig } = [] := by
    apply List.filter_eq_nil_iff.mpr
    intro sim hMem
    have hListed : lists settings.searchConfig sim.id = true := lists_iff.mpr (mem_engines_searchConfig hMem)
    simp [hListed]
  have hEngines : (searchConfig { settings with search := settings.searchConfig }).engines =
      settings.searchConfig.engines := by
    rw [engines_searchConfig, hNone]
    exact List.append_nil _
  exact congrArg (fun engines => { settings.search with engines }) hEngines

/-- Simulated engines are without fault if each of them is valid and no name is used twice, neither among them
nor before them. -/
theorem simulatedFault?_eq_none_iff {seen : List String} {sims : List SimulatedEngineConfig} :
    simulatedFault? seen sims = none ↔ (∀ sim ∈ sims, sim.validate = .ok ()) ∧
      (sims.map (·.name)).Nodup ∧ ∀ sim ∈ sims, sim.name ∉ seen := by
  induction sims generalizing seen with
  | nil => simp [simulatedFault?]
  | cons sim rest ih =>
      unfold simulatedFault?
      cases hSim : sim.validate with
      | error fault => simp [hSim]
      | ok =>
          by_cases hSeen : sim.name ∈ seen
          · simp [hSeen]
          · simp only [hSeen, if_false, ih, List.forall_mem_cons, List.map_cons, List.nodup_cons]
            grind

/-- Settings are valid if their simulated engines are, each under a name of its own, and if the configuration
with all of them is. -/
theorem validate_eq_ok_iff : settings.validate = .ok () ↔
    (∀ sim ∈ settings.simulated, sim.validate = .ok ()) ∧ (settings.simulated.map (·.name)).Nodup ∧
      settings.searchConfig.validate = .ok () := by
  unfold validate
  cases hFault : simulatedFault? [] settings.simulated with
  | some fault =>
      apply iff_of_false
      · exact nofun
      · rintro ⟨hEach, hNames, -⟩
        have hNone : simulatedFault? [] settings.simulated = none :=
          simulatedFault?_eq_none_iff.mpr ⟨hEach, hNames, fun _ _ => List.not_mem_nil⟩
        rw [hFault] at hNone
        cases hNone
  | none =>
      obtain ⟨hEach, hNames, -⟩ := simulatedFault?_eq_none_iff.mp hFault
      cases hConfig : settings.searchConfig.validate with
      | error fault => simp
      | ok => exact iff_of_true rfl ⟨hEach, hNames, rfl⟩

/-- In valid settings every simulated engine is registered once. -/
theorem count_id_searchConfig_of_validate (h : settings.validate = .ok ()) {sim : SimulatedEngineConfig}
    (hMem : sim ∈ settings.simulated) :
    (settings.searchConfig.engines.map EngineSettings.id).count sim.id = 1 :=
  List.count_eq_one_of_mem (SearchConfig.nodup_of_validate (validate_eq_ok_iff.mp h).2.2)
    (mem_engines_searchConfig hMem)

/-- A simulated engine is its own adapter, so none is missing but for engines that are listed. -/
theorem equipped_searchConfig_iff :
    settings.searchConfig.Equipped (settings.simulated.map (·.name)) ↔
      settings.search.Equipped (settings.simulated.map (·.name)) := by
  unfold SearchConfig.Equipped
  rw [engines_searchConfig, List.forall_mem_append]
  apply and_iff_left
  intro engine hMem _
  obtain ⟨sim, hSim, rfl⟩ := List.mem_map.mp hMem
  exact List.mem_map_of_mem (List.mem_of_mem_filter hSim)

/-- Settings are built if they are valid and their configuration with the simulated engines is built. -/
theorem buildCoordinator_eq_ok_iff {coordinator : Coordinator} :
    (∃ session, settings.buildCoordinator entropy = .ok (.ok (coordinator, session))) ↔
      settings.validate = .ok () ∧ ∃ tracker,
        Coordinator.build settings.searchConfig (settings.simulated.map (·.name)) =
          .ok (.ok coordinator, tracker) := by
  unfold buildCoordinator
  cases hValid : settings.validate with
  | error error => simp
  | ok =>
      cases hBuilt : Coordinator.build settings.searchConfig (settings.simulated.map (·.name)) with
      | error crash => simp
      | ok outcome =>
          obtain ⟨result, tracker⟩ := outcome
          cases result <;> simp

/-- What is built has the engines that are listed and switched on, and behind them the simulated ones that are
not listed, each with the simulated engine of its name as its adapter. -/
theorem engines_of_build {coordinator : Coordinator} {tracker : Health.Tracker}
    (h : Coordinator.build settings.searchConfig (settings.simulated.map (·.name)) =
      .ok (.ok coordinator, tracker)) :
    coordinator.engineIds = (settings.search.engines.filter (!·.disabled)).map EngineSettings.id ++
      settings.unlisted.map SimulatedEngineConfig.id ∧
    ∀ registration ∈ coordinator.engines,
      (settings.simulated[registration.adapter]?).map (·.name) = some registration.id.name := by
  obtain ⟨-, hRegistered, -, -⟩ := Coordinator.withTracker_eq_ok h
  apply And.intro
  · rw [Coordinator.engineIds, Coordinator.map_id_of_registerAll hRegistered, enabled_engines_searchConfig,
      List.map_append, List.map_map]
    rfl
  · intro registration hMem
    have hAdapter := Coordinator.adapter_of_registerAll hRegistered registration hMem
    rw [← List.getElem?_map]
    exact (Coordinator.adapterOf?_eq_some_iff.mp hAdapter).1

/-- Settings whose results are kept for no more than a thousand years are built exactly if they are valid and
each engine that is listed and switched on has the name of a simulated one. What is built has these engines in
order, then the simulated ones that are not listed in order, each called through the simulated engine of its
name. The engines that are listed stand unchanged before those that are added. An engine is registered as often
as it is listed or, if it is not, as often as it is simulated, which is once in valid settings, and to register
the simulated engines again adds nothing. -/
theorem buildCoordinator_succeeds_iff (settings : Settings) (entropy : Nat → UInt64)
    (hLifetime : settings.search.cacheTtlSeconds ≤ 31536000000) :
    ((∃ coordinator session, settings.buildCoordinator entropy = .ok (.ok (coordinator, session))) ↔
      settings.validate = .ok () ∧ settings.search.Equipped (settings.simulated.map (·.name))) ∧
    (∀ coordinator session, settings.buildCoordinator entropy = .ok (.ok (coordinator, session)) →
      coordinator.engineIds = (settings.search.engines.filter (!·.disabled)).map EngineSettings.id ++
        settings.unlisted.map SimulatedEngineConfig.id ∧
      ∀ registration ∈ coordinator.engines,
        (settings.simulated[registration.adapter]?).map (·.name) = some registration.id.name) ∧
    settings.searchConfig.engines =
      settings.search.engines ++ settings.unlisted.map SimulatedEngineConfig.engineSettings ∧
    (∀ id, (settings.searchConfig.engines.map EngineSettings.id).count id =
      if id ∈ settings.search.engines.map EngineSettings.id then
        (settings.search.engines.map EngineSettings.id).count id
      else (settings.simulated.map SimulatedEngineConfig.id).count id) ∧
    (settings.validate = .ok () → ∀ sim ∈ settings.simulated,
      (settings.searchConfig.engines.map EngineSettings.id).count sim.id = 1) ∧
    searchConfig { settings with search := settings.searchConfig } = settings.searchConfig := by
  have hKept : settings.searchConfig.cacheTtlSeconds.toNat ≤ ResultCache.maxLifetime :=
    UInt64.le_iff_toNat_le.mp hLifetime
  refine ⟨?_, ?_, engines_searchConfig settings, count_id_searchConfig settings,
    fun hValid _ hMem => count_id_searchConfig_of_validate hValid hMem, searchConfig_searchConfig settings⟩
  · rw [← equipped_searchConfig_iff]
    constructor
    · rintro ⟨coordinator, hBuilt⟩
      obtain ⟨hValid, tracker, hBuild⟩ := buildCoordinator_eq_ok_iff.mp hBuilt
      exact ⟨hValid, ((Coordinator.exists_withTracker_iff _ _).mp ⟨coordinator, tracker, hBuild⟩).2.1⟩
    · rintro ⟨hValid, hEquipped⟩
      obtain ⟨coordinator, tracker, hBuild⟩ := (Coordinator.exists_withTracker_iff settings.searchConfig
        { policy := settings.searchConfig.suspension }).mpr ⟨(validate_eq_ok_iff.mp hValid).2.2, hEquipped, hKept⟩
      exact ⟨coordinator, buildCoordinator_eq_ok_iff.mpr ⟨hValid, tracker, hBuild⟩⟩
  · intro coordinator session hBuilt
    obtain ⟨-, tracker, hBuild⟩ := buildCoordinator_eq_ok_iff.mp ⟨session, hBuilt⟩
    exact engines_of_build hBuild

/-- Three simulated engines. One is listed in another category too, one is listed and switched off. -/
def threeEngines : Settings where
  search := { engines := [{ name := "a", category := "news" }, { name := "b", disabled := true }] }
  simulated := [{ name := "a" }, { name := "b" }, { name := "c" }]

theorem buildCoordinator_succeeds_for_three_engines :
    (∃ coordinator session, threeEngines.buildCoordinator (fun _ => 0) = .ok (.ok (coordinator, session)) ∧
      coordinator.engineIds = [⟨"a", "news"⟩, ⟨"a", "general"⟩, ⟨"c", "general"⟩]) ∧
    ∀ sim ∈ threeEngines.simulated,
      (threeEngines.searchConfig.engines.map EngineSettings.id).count sim.id = 1 := by
  have hValid : threeEngines.validate = .ok () := rfl
  have hEquipped : threeEngines.search.Equipped (threeEngines.simulated.map (·.name)) := by
    simp [SearchConfig.Equipped, threeEngines]
  obtain ⟨hBuilds, hEngines, -, -, hOnce, -⟩ :=
    buildCoordinator_succeeds_iff threeEngines (fun _ => 0) (by decide)
  obtain ⟨coordinator, session, hBuilt⟩ := hBuilds.mpr ⟨hValid, hEquipped⟩
  exact ⟨⟨coordinator, session, hBuilt, (hEngines coordinator session hBuilt).1⟩, hOnce hValid⟩

/-- One simulated engine twice. -/
def twins : Settings where
  simulated := [{ name := "a" }, { name := "a" }]

/-- An engine that is simulated twice is registered twice, in settings that are not valid for this reason. -/
theorem exists_simulated_engine_registered_twice :
    ∃ settings : Settings, settings.search.cacheTtlSeconds ≤ 31536000000 ∧
      settings.validate = .error (.settings (.definedTwice "a")) ∧
      ¬ ∀ sim ∈ settings.simulated,
        (settings.searchConfig.engines.map EngineSettings.id).count sim.id = 1 := by
  refine ⟨twins, by decide, rfl, ?_⟩
  intro hOnce
  have hTwice : (twins.searchConfig.engines.map EngineSettings.id).count ⟨"a", "general"⟩ = 2 := by decide
  have hFirst := hOnce { name := "a" } (List.mem_cons_self ..)
  exact absurd (hTwice.symm.trans hFirst) (by decide)

end Metasearch.Settings
