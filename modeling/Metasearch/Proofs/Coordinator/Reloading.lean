import Metasearch.Proofs.Coordinator.Building
import Metasearch.Proofs.Coordinator.Runs
import Metasearch.Proofs.Health.Known

/-! What a tracker goes through when another coordinator is built on it. Health is never lost. But engines are
registered while their adapters are looked up, so a configuration that fails for want of an adapter leaves
the engines before the missing one behind, although one that is invalid leaves nothing. -/
namespace Metasearch.Coordinator

variable {names : List String}

/-- Registration fails at the first engine without an adapter, and those before it are registered by then. -/
theorem registerAll_eq_error {engines : List EngineSettings} {tracker final : Health.Tracker}
    {fault : ConfigFault} (h : registerAll names engines tracker = (.error fault, final)) :
    ∃ before engine after, engines = before ++ engine :: after ∧
      (∀ earlier ∈ before, earlier.name ∈ names) ∧ engine.name ∉ names ∧
      fault = .noAdapter engine.name ∧ final = tracker.run (before.map (.register ·.id)) := by
  induction engines generalizing tracker with
  | nil => cases h
  | cons engine rest ih =>
      simp only [registerAll] at h
      split at h
      · rename_i hNone
        cases h
        refine ⟨[], engine, rest, rfl, List.forall_mem_nil _, ?_, rfl, rfl⟩
        rw [← exists_adapterOf?_iff, hNone]
        rintro ⟨_, ⟨⟩⟩
      · rename_i adapter hAdapter
        cases hRest : registerAll names rest (tracker.register engine.id) with
        | mk result later =>
            rw [hRest] at h
            cases result with
            | ok others => cases h
            | error other =>
                cases h
                obtain ⟨before, missing, after, rfl, hBefore, hMissing, hFault, hFinal⟩ := ih hRest
                have hNamed : engine.name ∈ names := exists_adapterOf?_iff.mp ⟨adapter, hAdapter⟩
                exact ⟨engine :: before, missing, after, rfl, List.forall_mem_cons.mpr ⟨hNamed, hBefore⟩,
                  hMissing, hFault, hFinal⟩

/-- A configuration that fails is invalid, and then the tracker is as it was, or its registration fails. -/
theorem withTracker_eq_fault {config : SearchConfig} {tracker final : Health.Tracker}
    {fault : ConfigFault} (h : withTracker config names tracker = .ok (.error fault, final)) :
    (config.validate = .error fault ∧ final = tracker) ∨
    (config.validate = .ok () ∧
      registerAll names (config.engines.filter (!·.disabled)) tracker = (.error fault, final)) := by
  unfold withTracker at h
  split at h
  · rename_i hFault
    cases h
    exact Or.inl ⟨hFault, rfl⟩
  · rename_i hValid
    refine Or.inr ⟨hValid, ?_⟩
    split at h
    · rename_i hRegistered
      cases h
      exact hRegistered
    · split at h <;> cases h

/-- A coordinator that is built on a tracker, whatever that has lived through, adds to it the engines that
are switched on and that it did not know, healthy, and changes nothing else. An invalid configuration
leaves the tracker as it was. One that lacks an adapter adds the engines that are listed before the first
one without, so the tracker is as it was exactly if it knew these already. -/
theorem withTracker_on_shared_tracker (policy : SuspensionPolicy) (past : List Health.Event)
    (config : SearchConfig) (names : List String) {tracker : Health.Tracker}
    (hTracker : tracker = Health.Tracker.run { policy } past) :
    (∀ coordinator final, withTracker config names tracker = .ok (.ok coordinator, final) →
      tracker.JoinedBy final ((config.engines.filter (!·.disabled)).map EngineSettings.id)) ∧
    ∀ fault final, withTracker config names tracker = .ok (.error fault, final) →
      (config.validate = .error fault ∧ final = tracker) ∨
      (config.validate = .ok () ∧ ∃ before engine after,
        config.engines.filter (!·.disabled) = before ++ engine :: after ∧
        (∀ earlier ∈ before, earlier.name ∈ names) ∧ engine.name ∉ names ∧
        fault = .noAdapter engine.name ∧
        tracker.JoinedBy final (before.map EngineSettings.id) ∧
        (final = tracker ↔ ∀ earlier ∈ before, earlier.id ∈ tracker.known)) := by
  have hOrdered : tracker.states.Ordered := by
    rw [hTracker]
    exact Health.Tracker.ordered_run (Health.states_nil_ordered policy) past
  have hEvents : ∀ engines : List EngineSettings,
      engines.map (fun engine => Health.Event.register engine.id) =
        (engines.map EngineSettings.id).map .register := by
    intro engines
    rw [List.map_map]
    rfl
  constructor
  · intro coordinator final hBuilt
    obtain ⟨-, hRegistered, -, -⟩ := withTracker_eq_ok hBuilt
    rw [tracker_of_registerAll hRegistered, hEvents]
    exact Health.Tracker.joinedBy_run_register hOrdered _
  · intro fault final hFailed
    rcases withTracker_eq_fault hFailed with hInvalid | ⟨hValid, hRegistered⟩
    · exact Or.inl hInvalid
    · obtain ⟨before, engine, after, hEngines, hBefore, hMissing, hFault, hFinal⟩ :=
        registerAll_eq_error hRegistered
      rw [hEvents] at hFinal
      refine Or.inr ⟨hValid, before, engine, after, hEngines, hBefore, hMissing, hFault, ?_, ?_⟩
      · rw [hFinal]
        exact Health.Tracker.joinedBy_run_register hOrdered _
      · rw [hFinal, Health.Tracker.run_register_eq_self_iff hOrdered, List.forall_mem_map]

def pairConfig : SearchConfig :=
  { engines := [{ name := "a" }, { name := "b" }] }

/-- A coordinator with a second engine is built on a tracker that holds a failure of the first. -/
theorem withTracker_adds_second_engine :
    ∃ coordinator final,
      withTracker pairConfig ["a", "b"]
        (Health.Tracker.run {} [.report ⟨"a", "general"⟩ (.failure .timeout) 10000]) =
        .ok (.ok coordinator, final) ∧
      final.state? ⟨"b", "general"⟩ = some {} ∧
      (final.stateOf ⟨"a", "general"⟩).status = .suspended 15000 := by
  have hEquipped : pairConfig.Equipped ["a", "b"] := by
    simp [SearchConfig.Equipped, pairConfig]
  obtain ⟨coordinator, final, hBuilt⟩ := (exists_withTracker_iff pairConfig
    (Health.Tracker.run {} [.report ⟨"a", "general"⟩ (.failure .timeout) 10000])).mpr
    ⟨rfl, hEquipped, by decide⟩
  have hJoined := (withTracker_on_shared_tracker {} [.report ⟨"a", "general"⟩ (.failure .timeout) 10000]
    pairConfig ["a", "b"] rfl).1 coordinator final hBuilt
  refine ⟨coordinator, final, hBuilt, hJoined.fresh _ (by decide) (by decide), ?_⟩
  have hKept := hJoined.kept ⟨"a", "general"⟩ (Or.inl (by decide))
  rw [Health.Tracker.stateOf, hKept]
  rfl

/-- A valid configuration that lacks the adapter of its second engine cannot be built, but the tracker knows
its first engine from then on. -/
theorem exists_failed_build_that_leaves_engine :
    ∃ config names fault final, SearchConfig.validate config = .ok () ∧
      withTracker config names {} = .ok (.error fault, final) ∧
      ⟨"a", "general"⟩ ∈ final.known ∧ final ≠ {} :=
  ⟨pairConfig, ["a"], .noAdapter "b", _, rfl, rfl, by decide, by decide⟩

end Metasearch.Coordinator
