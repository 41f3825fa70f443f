import Metasearch.Proofs.Coordinator.Built
import Metasearch.Proofs.Coordinator.Handle
import Metasearch.Proofs.Health.Selection
import Metasearch.Proofs.Ranking.Provenance

/-! An answer accounts for every candidate of its request: each was either left out or called, those that
were called succeeded or failed, and only those that succeeded are named in results. -/
namespace Metasearch.Coordinator

open Dispatch

/-- The failures of a report are those of the timings that did not succeed, in the same order. -/
theorem map_engine_failuresOf (report : Report) :
    (failuresOf report).map (·.engine) =
      ((timingsOf report).filter (!·.succeeded)).map (·.engine) := by
  obtain ⟨outcomes, deadlineElapsed⟩ := report
  simp only [failuresOf, timingsOf]
  induction outcomes with
  | nil => rfl
  | cons outcome rest ih =>
      cases hResult : outcome.result <;>
        simp [hResult, EngineOutcome.succeeded, Except.isOk, Except.toBool, ih]

/-- The hits of a report come from the timings that succeeded, in the same order. -/
theorem map_fst_hitsOf (report : Report) :
    (hitsOf report).map Prod.fst = ((timingsOf report).filter (·.succeeded)).map (·.engine) := by
  obtain ⟨outcomes, deadlineElapsed⟩ := report
  simp only [hitsOf, timingsOf]
  induction outcomes with
  | nil => rfl
  | cons outcome rest ih =>
      cases hResult : outcome.result <;>
        simp [hResult, EngineOutcome.succeeded, Except.isOk, Except.toBool, ih]

variable {α : Type} {coordinator : Coordinator} {request : QueryRequest} {session : Session α}

/-- The candidates that may be called are engines of the coordinator, in order of registration. -/
theorem eligible_sublist_engineIds {candidates : List EngineId}
    (hCandidates : coordinator.candidates request = .ok candidates) :
    (selectionOf session candidates).1.eligible.Sublist coordinator.engineIds :=
  (Health.Tracker.eligible_sublist _ _ _).trans (candidates_sublist hCandidates)

/-- Looking up the adapters of the candidates that may be called loses none of them. -/
theorem map_engine_targetsOf_eligible {candidates : List EngineId}
    (hCandidates : coordinator.candidates request = .ok candidates) :
    (coordinator.targetsOf (selectionOf session candidates).1.eligible).map (·.engine) =
      (selectionOf session candidates).1.eligible :=
  map_engine_targetsOf fun _ hMem => (eligible_sublist_engineIds hCandidates).subset hMem

variable [EngineAdapter α]

/-- The engines that were called are the candidates that may be called. -/
theorem map_engine_timings_calledResponse {candidates : List EngineId}
    (hCandidates : coordinator.candidates request = .ok candidates) :
    (coordinator.calledResponse request session candidates).timings.map (·.engine) =
      (selectionOf session candidates).1.eligible := by
  have hOutcomes := map_engine_outcomes_run (coordinator.limitsOf request session.now) request
    session.now (coordinator.targetsOf (selectionOf session candidates).1.eligible) session.pool
    (selectionOf session candidates).2
  rw [map_engine_targetsOf_eligible hCandidates] at hOutcomes
  rw [← hOutcomes]
  simp only [calledResponse, responseOf, timingsOf, dispatchedOf, List.map_map, Function.comp_def]

/-- Every engine that a result names was called and succeeded. -/
theorem exists_timing_of_mem_results {candidates : List EngineId} {result : MergedResult}
    (hResult : result ∈ (coordinator.calledResponse request session candidates).results)
    {engine : EngineId} (hEngine : engine ∈ result.engines) :
    ∃ timing ∈ (coordinator.calledResponse request session candidates).timings,
      timing.engine = engine ∧ timing.succeeded = true := by
  have hHits := Ranking.mem_engines_of_mem_merge hResult hEngine
  rw [map_fst_hitsOf] at hHits
  obtain ⟨timing, hTiming, rfl⟩ := List.mem_map.mp hHits
  obtain ⟨hMem, hSucceeded⟩ := List.mem_filter.mp hTiming
  exact ⟨timing, hMem, rfl, hSucceeded⟩

/-- An answer that was not kept from an earlier one lists each candidate of its request exactly once,
either as left out or as called, and both lists in order of registration. The failures are the calls
that did not succeed, and results name only engines whose call did. An answer that was kept lists no
engine at all. -/
theorem handle_accounts_for_candidates (built : coordinator.Built) {response : Response}
    {final : Session α}
    (hHandle : coordinator.handle request session = .ok (.ok response, final)) :
    (response.cached = false → ∃ candidates,
      coordinator.candidates request = .ok candidates ∧
      candidates.Nodup ∧
      candidates.Sublist coordinator.engineIds ∧
      (response.skippedIds ++ response.timings.map (·.engine)).Perm candidates ∧
      response.skippedIds.Sublist candidates ∧
      (response.timings.map (·.engine)).Sublist candidates ∧
      response.failedIds = (response.timings.filter (!·.succeeded)).map (·.engine) ∧
      ∀ result ∈ response.results, ∀ engine ∈ result.engines,
        ∃ timing ∈ response.timings, timing.engine = engine ∧ timing.succeeded = true) ∧
    (response.cached = true →
      response.skipped = [] ∧ response.failed = [] ∧ response.timings = []) := by
  cases answered_of_handle hHandle with
  | served hValid hCandidates hKept =>
      exact ⟨fun hCached => absurd hCached (by simp [servedResponse]), fun _ => ⟨rfl, rfl, rfl⟩⟩
  | @called candidates hValid hCandidates hKept hPermits =>
      refine ⟨fun _ => ?_, fun hCached => absurd hCached (by simp [calledResponse, responseOf])⟩
      have hOrder := candidates_sublist hCandidates
      refine ⟨candidates, hCandidates, built.nodup_engineIds.sublist hOrder, hOrder, ?_, ?_, ?_, ?_, ?_⟩
      · rw [map_engine_timings_calledResponse hCandidates]
        exact Health.Tracker.perm_select _ _ _
      · exact Health.Tracker.skipped_sublist _ _ _
      · rw [map_engine_timings_calledResponse hCandidates]
        exact Health.Tracker.eligible_sublist _ _ _
      · exact map_engine_failuresOf _
      · intro result hResult engine hEngine
        exact exists_timing_of_mem_results hResult hEngine

/-- Five engines, of which one is switched off, and two calls at a time. -/
def mixedConfig : SearchConfig :=
  { engines :=
      [{ name := "alpha" }, { name := "beta", weight := 2.0 }, { name := "gamma", disabled := true },
        { name := "delta", timeoutMs := some 30 }, { name := "alpha", category := "news" }]
    defaultCategories := ["General", "news"]
    maxConcurrentEngines := 2
    requestTimeoutMs := some 100 }

/-- The coordinator of the mixed configuration for one adapter of each name. -/
def mixedCoordinator : Coordinator :=
  { config := mixedConfig
    engines :=
      [⟨⟨"alpha", "general"⟩, 0, none⟩, ⟨⟨"beta", "general"⟩, 1, none⟩,
        ⟨⟨"delta", "general"⟩, 2, some 30⟩, ⟨⟨"alpha", "news"⟩, 0, none⟩]
    emptyCache := { lifetime := 0 } }

theorem mixedCoordinator_built : mixedCoordinator.Built :=
  ⟨mixedConfig, ["alpha", "beta", "delta"], {}, _, rfl⟩

/-- One engine is suspended, one answers at first and then breaks down, and one never answers. -/
def mixedSession : Session Script :=
  { tracker := Health.Tracker.report {} ⟨"beta", "general"⟩ (.failure .captcha) 0
    cache := { lifetime := 0 }
    pool :=
      [{ behaviours := [⟨10, .echo⟩, ⟨20, .fixed .abort⟩] }, { behaviours := [] },
        { behaviours := [⟨0, .fixed .hang⟩] }]
    now := 5 }

/-- A request to four engines: one is left out, one succeeds, one times out and one is lost. -/
theorem handle_accounts_for_mixed_candidates :
    mixedCoordinator.Built ∧
    ∃ response final,
      mixedCoordinator.handle { query := "x" } mixedSession = .ok (.ok response, final) ∧
      response.cached = false ∧
      ∃ candidates, mixedCoordinator.candidates { query := "x" } = .ok candidates ∧
        candidates.Nodup ∧
        (response.skippedIds ++ response.timings.map (·.engine)).Perm candidates ∧
        response.failedIds = (response.timings.filter (!·.succeeded)).map (·.engine) := by
  obtain ⟨response, final, hHandle, hCached⟩ : ∃ response final,
      mixedCoordinator.handle { query := "x" } mixedSession = .ok (.ok response, final) ∧
      response.cached = false := ⟨_, _, rfl, rfl⟩
  obtain ⟨candidates, hCandidates, hNodup, -, hPerm, -, -, hFailed, -⟩ :=
    (handle_accounts_for_candidates mixedCoordinator_built hHandle).1 hCached
  exact ⟨mixedCoordinator_built, response, final, hHandle, hCached, candidates, hCandidates, hNodup,
    hPerm, hFailed⟩

end Metasearch.Coordinator
