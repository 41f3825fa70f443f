import Metasearch.Proofs.Coordinator.Agreement
import Metasearch.Proofs.Coordinator.Caching

/-! A reset makes a coordinator as good as new. What requests leave behind is the health of engines and kept
results, and they name no engine that was not registered when the coordinator was built. So a reset brings
back the state that it was built with, and only time and the engines themselves have moved on. -/
namespace Metasearch.Coordinator

/-- A request that is to be put to a coordinator after a pause, in which the engines may change by
themselves. -/
structure Planned (α : Type) where
  pause : Millis
  drift : List α → List α
  request : QueryRequest

/-- What is seen of a coordinator at one request: what it reports of the health of the engines before it,
the answer, and what it reports afterwards. -/
structure Sighting where
  before : List Health.Snapshot
  answer : Except SearchError Response
  after : List Health.Snapshot

/-- What is seen of a coordinator while requests are put to it one after the other, up to the first that
crashes. -/
def sightings {α : Type} [EngineAdapter α] (coordinator : Coordinator) :
    List (Planned α) → Session α → List (Except Crash Sighting)
  | [], _ => []
  | planned :: later, session =>
    let opened : Session α :=
      { session with now := session.now + planned.pause, pool := planned.drift session.pool }
    match coordinator.handle planned.request opened with
    | .error crash => [.error crash]
    | .ok (answer, final) =>
      .ok ⟨opened.tracker.snapshots opened.now, answer, final.tracker.snapshots final.now⟩ ::
        sightings coordinator later final

/-- The tracker of a coordinator that was just built has heard of nothing but the registration of the
engines. -/
theorem tracker_of_build {config : SearchConfig} {names : List String} {coordinator : Coordinator}
    {tracker : Health.Tracker} (hBuilt : build config names = .ok (.ok coordinator, tracker)) :
    tracker = Health.Tracker.run { policy := config.suspension } (coordinator.engineIds.map .register) := by
  obtain ⟨-, hRegistered, -, -⟩ := withTracker_eq_ok hBuilt
  rw [engineIds, map_id_of_registerAll hRegistered, List.map_map]
  exact tracker_of_registerAll hRegistered

/-- A tracker to which engines are registered knows them. -/
theorem known_of_build {config : SearchConfig} {names : List String} {coordinator : Coordinator}
    {tracker : Health.Tracker} (hBuilt : build config names = .ok (.ok coordinator, tracker)) :
    ∀ engine ∈ coordinator.engineIds, engine ∈ tracker.known := by
  intro engine hMem
  rw [tracker_of_build hBuilt, Health.Tracker.mem_known_run]
  exact Or.inl ⟨.register engine, List.mem_map_of_mem hMem, List.mem_singleton_self engine⟩

variable {α : Type} [EngineAdapter α] {coordinator : Coordinator} {request : QueryRequest}
  {start session : Session α} {history : List (Happening α)} {engine : EngineId}

/-- All that happens in a run concerns engines of the coordinator. -/
theorem mem_engineIds_of_named (hRun : RunsTo coordinator start history session) {event : Health.Event}
    (hEvent : event ∈ eventsOf coordinator history) (hNamed : engine ∈ event.named) :
    engine ∈ coordinator.engineIds := by
  induction hRun with
  | start => cases hEvent
  | pause length pool _ ih => exact ih hEvent
  | @ask _ before request answer after _ hHandle ih =>
      rcases List.mem_append.mp hEvent with hEarlier | hVisit
      · exact ih hEarlier
      · cases hCandidates : coordinator.candidates request with
        | error error => simp [Visit.events, hCandidates] at hVisit
        | ok candidates =>
            cases answer with
            | error error => simp [Visit.events, hCandidates] at hVisit
            | ok response =>
                exact (candidates_sublist hCandidates).subset
                  (mem_candidates_of_named hHandle hCandidates hVisit hNamed)
  | reset _ ih =>
      rcases List.mem_append.mp hEvent with hEarlier | hReset
      · exact ih hEarlier
      · obtain rfl := List.mem_singleton.mp hReset
        cases hNamed

variable {config : SearchConfig} {names : List String} {tracker : Health.Tracker}

/-- A reset after any run brings back the tracker that the coordinator was built with. -/
theorem resetAll_tracker_of_run (hBuilt : build config names = .ok (.ok coordinator, tracker))
    (hRun : RunsTo coordinator start history session) (hStart : start.tracker = tracker) :
    session.tracker.resetAll = tracker := by
  have hTracker := hRun.tracker_eq ⟨_, _, _, _, hBuilt⟩
  rw [hStart] at hTracker
  have hOrdered : tracker.states.Ordered := by
    rw [tracker_of_build hBuilt]
    exact Health.Tracker.ordered_run (Health.states_nil_ordered _) _
  have hKnown : session.tracker.known = tracker.known := by
    rw [hTracker]
    refine Health.Tracker.known_run_of_named hOrdered ?_
    intro event hEvent engine hNamed
    exact known_of_build hBuilt engine (mem_engineIds_of_named hRun hEvent hNamed)
  have hPolicy : session.tracker.policy = tracker.policy := by
    rw [hTracker, Health.Tracker.policy_run]
  calc
    session.tracker.resetAll = tracker.resetAll := Health.Tracker.resetAll_congr hPolicy hKnown
    _ = tracker := by
      rw [tracker_of_build hBuilt]
      exact Health.Tracker.resetAll_run_register ..

/-- A reset after any run brings back the session that the coordinator began with, but for the time and
the engines. -/
theorem resetAll_of_run (hBuilt : build config names = .ok (.ok coordinator, tracker))
    (hRun : RunsTo coordinator start history session) (hTracker : start.tracker = tracker)
    (hCache : start.cache = coordinator.emptyCache) :
    resetAll session = ⟨tracker, coordinator.emptyCache, session.pool, session.now⟩ := by
  have hClear : session.cache.clear = coordinator.emptyCache := by
    rw [ResultCache.clear, lifetime_of_run hRun, hCache, emptyCache_of_withTracker hBuilt]
  rw [resetAll, resetAll_tracker_of_run hBuilt hRun hTracker, hClear]

/-- After any run of a coordinator that was built from a configuration, with a tracker of its own, a reset
makes it as good as new. Whatever requests are put to it from then on, at whatever times, it answers them
and reports on the health of the engines as a coordinator that is then built from the same configuration
for the same engines. -/
theorem reset_is_as_good_as_new (hBuilt : build config names = .ok (.ok coordinator, tracker))
    {pool : List α} {now : Instant}
    (hRun : RunsTo coordinator ⟨tracker, coordinator.emptyCache, pool, now⟩ history session) :
    ∃ fresh freshTracker, build config names = .ok (.ok fresh, freshTracker) ∧
      ∀ plan, sightings coordinator plan (resetAll session) =
        sightings fresh plan ⟨freshTracker, fresh.emptyCache, session.pool, session.now⟩ := by
  refine ⟨coordinator, tracker, hBuilt, ?_⟩
  intro plan
  rw [resetAll_of_run hBuilt hRun rfl rfl]

/-- A coordinator that has kept the results of one request and in a second one has seen an engine break
down forgets both. -/
theorem reset_is_as_good_as_new_after_breakdown :
    ∃ first between second ended,
      build cachingConfig ["alpha", "beta"] = .ok (.ok cachingCoordinator, cachingStart.tracker) ∧
      cachingCoordinator.handle { query := "x" } cachingStart = .ok (.ok first, between) ∧
      cachingCoordinator.handle { query := "y" } between = .ok (.ok second, ended) ∧
      ended.cache.entries.length = 1 ∧ second.failedIds = [⟨"beta", "general"⟩] ∧
      ∃ fresh freshTracker,
        build cachingConfig ["alpha", "beta"] = .ok (.ok fresh, freshTracker) ∧
        ∀ plan, sightings cachingCoordinator plan (resetAll ended) =
          sightings fresh plan ⟨freshTracker, fresh.emptyCache, ended.pool, ended.now⟩ := by
  have hBuilt : build cachingConfig ["alpha", "beta"] =
      .ok (.ok cachingCoordinator, cachingStart.tracker) := rfl
  obtain ⟨first, between, second, ended, hFirst, hSecond, hKept, hFailed⟩ :
      ∃ first between second ended,
        cachingCoordinator.handle { query := "x" } cachingStart = .ok (.ok first, between) ∧
        cachingCoordinator.handle { query := "y" } between = .ok (.ok second, ended) ∧
        ended.cache.entries.length = 1 ∧ second.failedIds = [⟨"beta", "general"⟩] :=
    ⟨_, _, _, _, rfl, rfl, rfl, rfl⟩
  exact ⟨first, between, second, ended, hBuilt, hFirst, hSecond, hKept, hFailed,
    reset_is_as_good_as_new hBuilt (.ask (.ask .start hFirst) hSecond)⟩

end Metasearch.Coordinator
