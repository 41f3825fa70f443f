import Metasearch.Proofs.Coordinator.Resting
import Metasearch.Proofs.Health.Known

/-! The tracker and the answers agree. A request that is not answered from the cache changes the health of
the engines that it lists as called, each by its own outcome, and of no other engine. -/
namespace Metasearch

namespace Health.EngineState

theorem status_after_eq_suspended_iff {state : EngineState} {policy : SuspensionPolicy}
    {outcome : Outcome} {now : Instant} :
    (∃ ends, (state.after policy outcome now).status = .suspended ends) ↔
      ∃ kind, outcome = .failure kind := by
  cases outcome <;> simp [after]

theorem exists_suspended_of_not_mayRun {state : EngineState} {now : Instant}
    (h : state.mayRun now = false) : ∃ ends, state.status = .suspended ends := by
  unfold mayRun at h
  split at h
  · cases h
  · rename_i ends hStatus
    exact ⟨ends, hStatus⟩

end Health.EngineState

namespace Coordinator

open Dispatch

/-- What is known of the engines after a request agrees with its answer and with what was known before. A
candidate is suspended exactly if it is listed as failed or as left out. A success ends the streak of
failures, a failure adds one to it unless it is the greatest that is counted, and all else that is known of
an engine stays. An engine that was not called keeps its state as it is. -/
structure Agrees {α : Type} (policy : SuspensionPolicy) (candidates : List EngineId) (response : Response)
    (before after : Session α) : Prop where
  suspended_iff : ∀ id ∈ candidates, (∃ ends, after.tracker.status id = .suspended ends) ↔
    id ∈ response.failedIds ∨ id ∈ response.skippedIds
  succeeded : ∀ timing ∈ response.timings, timing.succeeded = true →
    after.tracker.state? timing.engine = some
      { before.tracker.stateOf timing.engine with
        status := .healthy
        streak := 0
        lastSuccessAt := some after.now
        totalRequests := (before.tracker.stateOf timing.engine).totalRequests + 1 }
  failed : ∀ failure ∈ response.failed,
    after.tracker.state? failure.engine = some
      { before.tracker.stateOf failure.engine with
        status := .suspended (after.now + 1000 * policy.seconds failure.kind
          (min ((before.tracker.stateOf failure.engine).streak + 1) Health.maxStreak))
        streak := min ((before.tracker.stateOf failure.engine).streak + 1) Health.maxStreak
        lastFailure := some failure.kind
        lastFailureAt := some after.now
        totalRequests := (before.tracker.stateOf failure.engine).totalRequests + 1
        totalFailures := (before.tracker.stateOf failure.engine).totalFailures + 1 }
  kept : ∀ id, id ∈ response.skippedIds ∨ id ∉ candidates →
    after.tracker.state? id = before.tracker.state? id

variable {α : Type} [EngineAdapter α] {coordinator : Coordinator} {policy : SuspensionPolicy}
  {past : List Health.Event} {request : QueryRequest} {start session final : Session α}
  {history : List (Happening α)} {response : Response} {candidates : List EngineId} {engine : EngineId}

/-- A request tells the tracker of its candidates only. -/
theorem mem_candidates_of_named
    (hHandle : coordinator.handle request session = .ok (.ok response, final))
    (hCandidates : coordinator.candidates request = .ok candidates) {event : Health.Event}
    (hEvent : event ∈ Visit.events coordinator ⟨request, session, .ok response, final⟩)
    (hNamed : engine ∈ event.named) : engine ∈ candidates := by
  simp only [Visit.events, hCandidates, List.mem_cons] at hEvent
  rcases hEvent with rfl | hReport
  · exact hNamed
  · obtain ⟨timing, hTiming, rfl⟩ := List.mem_map.mp hReport
    obtain rfl : engine = timing.engine := List.mem_singleton.mp hNamed
    have hCalled : timing.engine ∈ response.timings.map (·.engine) := List.mem_map_of_mem hTiming
    cases answered_of_handle hHandle with
    | served hValid hOthers hKept => cases hTiming
    | called hValid hOthers hKept hPermits =>
        cases hOthers.symm.trans hCandidates
        rw [map_engine_timings_calledResponse hCandidates] at hCalled
        exact (Health.Tracker.eligible_sublist _ _ _).subset hCalled

/-- A candidate is left out because it is suspended. -/
theorem not_mayRun_of_skipped (hOrdered : session.tracker.states.Ordered)
    (hHandle : coordinator.handle request session = .ok (.ok response, final))
    (hSkipped : engine ∈ response.skippedIds) :
    (session.tracker.stateOf engine).mayRun session.now = false := by
  cases answered_of_handle hHandle with
  | served hValid hCandidates hKept => cases hSkipped
  | @called candidates hValid hCandidates hKept hPermits =>
      obtain ⟨entry, hEntry, rfl⟩ := List.mem_map.mp hSkipped
      have hAll : (coordinator.calledResponse request session candidates).skipped = _ :=
        Health.Tracker.skipped_select session.now hOrdered candidates
      rw [hAll] at hEntry
      obtain ⟨id, hId, rfl⟩ := List.mem_map.mp hEntry
      exact (Bool.not_eq_true' _).mp (List.mem_filter.mp hId).2

theorem not_called_of_skipped (hOrdered : session.tracker.states.Ordered)
    (hHandle : coordinator.handle request session = .ok (.ok response, final))
    (hCandidates : coordinator.candidates request = .ok candidates)
    (hSkipped : engine ∈ response.skippedIds) : engine ∉ response.timings.map (·.engine) := by
  intro hCalled
  have hRuns := (mayRun_of_called hOrdered hHandle hCandidates hCalled).2.1
  rw [not_mayRun_of_skipped hOrdered hHandle hSkipped] at hRuns
  cases hRuns

/-- An engine that is left out, or that is no candidate, is known as before and keeps its state. -/
theorem state?_of_not_attempted (built : coordinator.Built) (hOrdered : session.tracker.states.Ordered)
    (hHandle : coordinator.handle request session = .ok (.ok response, final))
    (hCandidates : coordinator.candidates request = .ok candidates)
    (hNot : engine ∈ response.skippedIds ∨ engine ∉ candidates) :
    final.tracker.state? engine = session.tracker.state? engine := by
  have hUncalled : engine ∉ response.timings.map (·.engine) := by
    rcases hNot with hSkipped | hOther
    · exact not_called_of_skipped hOrdered hHandle hCandidates hSkipped
    · exact fun hCalled => hOther (mayRun_of_called hOrdered hHandle hCandidates hCalled).1
  refine Health.Tracker.state?_congr ?_ ?_
  · rw [tracker_of_handle built hHandle, Health.Tracker.mem_known_run, or_iff_right_iff_imp]
    rintro ⟨event, hEvent, hNamed⟩
    rcases hNot with hSkipped | hOther
    · exact Health.Tracker.known_of_not_mayRun (not_mayRun_of_skipped hOrdered hHandle hSkipped)
    · exact absurd (mem_candidates_of_named hHandle hCandidates hEvent hNamed) hOther
  · rw [stateOf_of_not_called built hOrdered hHandle hCandidates hUncalled]
    split
    · rename_i hMem
      have hSkipped := hNot.resolve_right (not_not_intro hMem)
      exact Health.EngineState.refreshed_of_not_mayRun (not_mayRun_of_skipped hOrdered hHandle hSkipped)
    · rfl

/-- The tracker knows an engine that was called, and has changed its state by its outcome. -/
theorem state?_of_outcome (built : coordinator.Built) (hOrdered : session.tracker.states.Ordered)
    (hHandle : coordinator.handle request session =
      .ok (.ok (coordinator.calledResponse request session candidates),
        coordinator.calledSession request session candidates))
    (hCandidates : coordinator.candidates request = .ok candidates) {outcome : EngineOutcome}
    (hOutcome : outcome ∈ (coordinator.dispatchedOf request session candidates).report.outcomes) :
    (coordinator.calledSession request session candidates).tracker.state? outcome.engine =
      some ((session.tracker.stateOf outcome.engine).after session.tracker.policy outcome.health
        (coordinator.calledSession request session candidates).now) := by
  have hCalled : outcome.engine ∈
      (coordinator.calledResponse request session candidates).timings.map (·.engine) :=
    (map_engine_timingsOf _).symm ▸ List.mem_map_of_mem hOutcome
  have hMem := (mayRun_of_called hOrdered hHandle hCandidates hCalled).1
  rw [tracker_of_handle built hHandle, events_of_called built hCandidates,
    Health.Tracker.state?_of_known, Health.stateOf_run_of_kept hOrdered, List.filterMap_cons,
    filterMap_logged_outcomes (nodup_engine_outcomes built hCandidates) hOutcome]
  · simp [Health.Event.logged, hMem, Health.Entry.change, Health.EngineState.after_refreshed]
  · simp [Health.Event.resets]
  · refine (Health.Tracker.mem_known_run _).mpr (Or.inl ⟨.select candidates session.now, ?_, hMem⟩)
    exact List.mem_cons_self ..

/-- Every candidate of a request that is not answered from the cache is left out or called. -/
theorem skipped_or_called
    (hHandle : coordinator.handle request session = .ok (.ok response, final))
    (hCandidates : coordinator.candidates request = .ok candidates) (hFresh : response.cached = false)
    (hMem : engine ∈ candidates) :
    engine ∈ response.skippedIds ∨ engine ∈ response.timings.map (·.engine) := by
  cases answered_of_handle hHandle with
  | served hValid hOthers hKept => cases hFresh
  | called hValid hOthers hKept hPermits =>
      cases hOthers.symm.trans hCandidates
      rw [map_engine_timings_calledResponse hCandidates]
      exact List.mem_append.mp ((Health.Tracker.perm_select _ _ _).mem_iff.mpr hMem)

/-- The outcome of an engine is a failure exactly if the answer lists one of this kind. -/
theorem health_eq_failure_iff (built : coordinator.Built)
    (hCandidates : coordinator.candidates request = .ok candidates) {outcome : EngineOutcome}
    (hOutcome : outcome ∈ (coordinator.dispatchedOf request session candidates).report.outcomes)
    (kind : FailureKind) :
    outcome.health = .failure kind ↔
      ∃ failure ∈ (coordinator.calledResponse request session candidates).failed,
        failure.engine = outcome.engine ∧ failure.kind = kind := by
  constructor
  · intro hKind
    cases hResult : outcome.result with
    | ok hits => simp [EngineOutcome.health, hResult] at hKind
    | error error =>
        refine ⟨⟨outcome.engine, error.kind, error.message⟩, ?_, rfl, ?_⟩
        · exact List.mem_filterMap.mpr ⟨outcome, hOutcome, by rw [hResult]⟩
        · simpa [EngineOutcome.health, hResult] using hKind
  · rintro ⟨failure, hFailure, hEngine, rfl⟩
    obtain ⟨other, hOther, error, hError, rfl⟩ := exists_outcome_of_mem_failuresOf hFailure
    obtain rfl : other = outcome := List.inj_on_of_nodup_map (nodup_engine_outcomes built hCandidates)
      hOther hOutcome hEngine
    simp [EngineOutcome.health, hError]

/-- An engine that an answer lists as called has one outcome, which the answer tells and the tracker has
noted. -/
theorem exists_noted_of_timing (built : coordinator.Built) (hOrdered : session.tracker.states.Ordered)
    (hHandle : coordinator.handle request session = .ok (.ok response, final)) {timing : EngineTiming}
    (hTiming : timing ∈ response.timings) :
    ∃ outcome : Health.Outcome,
      final.tracker.state? timing.engine =
        some ((session.tracker.stateOf timing.engine).after session.tracker.policy outcome final.now) ∧
      (timing.succeeded = true → outcome = .success) ∧
      ∀ kind, outcome = .failure kind ↔
        ∃ failure ∈ response.failed, failure.engine = timing.engine ∧ failure.kind = kind := by
  cases answered_of_handle hHandle with
  | served hValid hCandidates hKept => cases hTiming
  | called hValid hCandidates hKept hPermits =>
      obtain ⟨outcome, hOutcome, rfl⟩ := List.mem_map.mp hTiming
      refine ⟨outcome.health, state?_of_outcome built hOrdered hHandle hCandidates hOutcome, ?_,
        health_eq_failure_iff built hCandidates hOutcome⟩
      intro hSucceeded
      cases hResult : outcome.result with
      | ok hits => simp [EngineOutcome.health, hResult]
      | error error => simp [EngineOutcome.succeeded, hResult, Except.isOk, Except.toBool] at hSucceeded

/-- An engine that an answer lists as failed was called. -/
theorem exists_timing_of_failure
    (hHandle : coordinator.handle request session = .ok (.ok response, final)) {failure : EngineFailure}
    (hFailure : failure ∈ response.failed) : ∃ timing ∈ response.timings, timing.engine = failure.engine := by
  cases answered_of_handle hHandle with
  | served hValid hCandidates hKept => cases hFailure
  | called hValid hCandidates hKept hPermits =>
      obtain ⟨outcome, hOutcome, error, -, rfl⟩ := exists_outcome_of_mem_failuresOf hFailure
      exact ⟨_, List.mem_map_of_mem hOutcome, rfl⟩

theorem suspended_iff_of_handle (built : coordinator.Built)
    (hOrdered : session.tracker.states.Ordered)
    (hHandle : coordinator.handle request session = .ok (.ok response, final))
    (hCandidates : coordinator.candidates request = .ok candidates)
    (hEach : engine ∈ response.skippedIds ∨ engine ∈ response.timings.map (·.engine)) :
    (∃ ends, final.tracker.status engine = .suspended ends) ↔
      engine ∈ response.failedIds ∨ engine ∈ response.skippedIds := by
  rw [Health.Tracker.status_eq_status_stateOf]
  rcases hEach with hSkipped | hCalled
  · rw [Health.Tracker.stateOf,
      state?_of_not_attempted built hOrdered hHandle hCandidates (Or.inl hSkipped)]
    exact iff_of_true (Health.EngineState.exists_suspended_of_not_mayRun
      (not_mayRun_of_skipped hOrdered hHandle hSkipped)) (Or.inr hSkipped)
  · have hNotSkipped : engine ∉ response.skippedIds := fun hSkipped =>
      not_called_of_skipped hOrdered hHandle hCandidates hSkipped hCalled
    obtain ⟨timing, hTiming, rfl⟩ := List.mem_map.mp hCalled
    obtain ⟨outcome, hNoted, -, hFailed⟩ := exists_noted_of_timing built hOrdered hHandle hTiming
    rw [Health.Tracker.stateOf, hNoted, Option.getD_some,
      Health.EngineState.status_after_eq_suspended_iff, or_iff_left hNotSkipped]
    simp only [hFailed, Response.failedIds, List.mem_map]
    constructor
    · rintro ⟨_, failure, hFailure, hEngine, -⟩
      exact ⟨failure, hFailure, hEngine⟩
    · rintro ⟨failure, hFailure, hEngine⟩
      exact ⟨_, failure, hFailure, hEngine, rfl⟩

/-- One request that is not answered from the cache. -/
theorem agrees_of_handle (built : coordinator.Built) (hOrdered : session.tracker.states.Ordered)
    (hHandle : coordinator.handle request session = .ok (.ok response, final))
    (hFresh : response.cached = false) :
    ∃ candidates, coordinator.candidates request = .ok candidates ∧
      Agrees session.tracker.policy candidates response session final := by
  obtain ⟨candidates, hCandidates⟩ := exists_candidates_of_handle hHandle
  refine ⟨candidates, hCandidates, ?_, ?_, ?_, ?_⟩
  · intro id hMem
    exact suspended_iff_of_handle built hOrdered hHandle hCandidates
      (skipped_or_called hHandle hCandidates hFresh hMem)
  · intro timing hTiming hSucceeded
    obtain ⟨outcome, hNoted, hSuccess, -⟩ := exists_noted_of_timing built hOrdered hHandle hTiming
    rw [hNoted, hSuccess hSucceeded]
    rfl
  · intro failure hFailure
    obtain ⟨timing, hTiming, hEngine⟩ := exists_timing_of_failure hHandle hFailure
    obtain ⟨outcome, hNoted, -, hFailed⟩ := exists_noted_of_timing built hOrdered hHandle hTiming
    rw [← hEngine, hNoted, (hFailed failure.kind).mpr ⟨failure, hFailure, hEngine.symm, rfl⟩]
    rfl
  · intro id hNot
    exact state?_of_not_attempted built hOrdered hHandle hCandidates hNot

/-- Whatever a coordinator and its tracker have lived through, each request that is then answered, but not
from the cache, leaves what is known of the engines in agreement with its answer. -/
theorem tracker_agrees_with_answer (hBegins : Begins coordinator policy past start)
    (hRun : RunsTo coordinator start history session)
    (hHandle : coordinator.handle request session = .ok (.ok response, final))
    (hFresh : response.cached = false) :
    ∃ candidates, coordinator.candidates request = .ok candidates ∧
      Agrees policy candidates response session final := by
  have hPolicy : session.tracker.policy = policy := by
    rw [hBegins.tracker_of_run hRun, Health.Tracker.policy_run]
  rw [← hPolicy]
  exact agrees_of_handle hBegins.built (hRun.ordered hBegins.built hBegins.ordered) hHandle hFresh

/-- One engine is suspended for long, and one has rested after a timeout. -/
def relapsingPast : List Health.Event :=
  [.report ⟨"beta", "general"⟩ (.failure .captcha) 0, .report ⟨"delta", "general"⟩ (.failure .timeout) 0]

def relapsingSession : Session Script :=
  { mixedSession with tracker := Health.Tracker.run {} relapsingPast, now := 6000 }

theorem relapsingSession_begins : Begins mixedCoordinator {} relapsingPast relapsingSession where
  built := mixedCoordinator_built
  tracker := rfl
  cache := rfl

/-- The second timeout in a row is counted as such, and the engine that is left out keeps its state. -/
theorem tracker_agrees_with_answer_on_relapse :
    ∃ response final,
      mixedCoordinator.handle { query := "x" } relapsingSession = .ok (.ok response, final) ∧
      response.skippedIds = [⟨"beta", "general"⟩] ∧
      response.failedIds = [⟨"delta", "general"⟩, ⟨"alpha", "news"⟩] ∧
      (final.tracker.stateOf ⟨"delta", "general"⟩).streak = 2 ∧
      ∃ candidates, mixedCoordinator.candidates { query := "x" } = .ok candidates ∧
        Agrees {} candidates response relapsingSession final := by
  obtain ⟨response, final, hHandle, hFresh, hSkipped, hFailed, hStreak⟩ : ∃ response final,
      mixedCoordinator.handle { query := "x" } relapsingSession = .ok (.ok response, final) ∧
      response.cached = false ∧
      response.skippedIds = [⟨"beta", "general"⟩] ∧
      response.failedIds = [⟨"delta", "general"⟩, ⟨"alpha", "news"⟩] ∧
      (final.tracker.stateOf ⟨"delta", "general"⟩).streak = 2 := ⟨_, _, rfl, rfl, rfl, rfl, rfl⟩
  exact ⟨response, final, hHandle, hSkipped, hFailed, hStreak,
    tracker_agrees_with_answer relapsingSession_begins .start hHandle hFresh⟩

end Coordinator

end Metasearch
