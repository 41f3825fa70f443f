import Metasearch.Proofs.Coordinator.Accounting
import Metasearch.Proofs.Coordinator.Deadlines
import Metasearch.Proofs.Dispatch.Calls

/-! Whom a request reaches. The eligible candidates are passed on to the dispatcher, but an adapter is
called only once there is a permit for it. An engine that waits for a permit until the deadline of the
request is listed among the failures without having been called. -/
namespace Metasearch.Coordinator

open Dispatch

variable {α : Type} [EngineAdapter α]

/-- The targets that a request passes on to the dispatcher. -/
def passedOn (coordinator : Coordinator) (request : QueryRequest) (session : Session α) : List Target :=
  match (coordinator.openRequest request session).1 with
  | .pending pending => pending.targets
  | _ => []

/-- The targets whose adapters are called for a request. -/
def contacted (coordinator : Coordinator) (request : QueryRequest) (session : Session α) : List Target :=
  match coordinator.openRequest request session with
  | (.pending pending, opened) =>
    match dispatch pending.limits request pending.opened pending.targets opened.tracker opened.pool with
    | .ok dispatched => calledTargets pending.targets dispatched.runs
    | .error _ => []
  | _ => []

variable {coordinator : Coordinator} {request : QueryRequest} {session : Session α}
  {candidates : List EngineId}

/-- A request that is answered from the cache reaches nobody. -/
theorem contacted_of_kept {results : List MergedResult} (hValid : request.validate = .ok ())
    (hCandidates : coordinator.candidates request = .ok candidates)
    (hKept : keptFor request session candidates = some results) :
    coordinator.passedOn request session = [] ∧ coordinator.contacted request session = [] := by
  have hOpen := openRequest_eq coordinator request session hValid hCandidates
  simp only [hKept] at hOpen
  simp [passedOn, contacted, hOpen]

theorem contacted_of_called (hValid : request.validate = .ok ())
    (hCandidates : coordinator.candidates request = .ok candidates)
    (hKept : keptFor request session candidates = none)
    (hPermits : permitsCountable (coordinator.limitsOf request session.now)
      (coordinator.targetsOf (selectionOf session candidates).1.eligible) = true) :
    coordinator.passedOn request session =
      coordinator.targetsOf (selectionOf session candidates).1.eligible ∧
    coordinator.contacted request session =
      calledTargets (coordinator.targetsOf (selectionOf session candidates).1.eligible)
        (coordinator.dispatchedOf request session candidates).runs := by
  have hOpen := openRequest_eq coordinator request session hValid hCandidates
  simp only [hKept] at hOpen
  have hDispatch := dispatch_eq_ok (coordinator.limitsOf request session.now) request session.now
    (coordinator.targetsOf (selectionOf session candidates).1.eligible) session.pool
    (selectionOf session candidates).2 hPermits
  constructor
  · simp only [passedOn, hOpen, pendingOf]
  · simp only [contacted, hOpen, pendingOf, hDispatch]
    rfl

/-- Only a candidate that may be called is called. -/
theorem exists_eligible_of_mem_contacted {target : Target}
    (hTarget : target ∈ coordinator.contacted request session) :
    ∃ candidates, coordinator.candidates request = .ok candidates ∧
      target.engine ∈ (selectionOf session candidates).1.eligible := by
  rcases refused_or_candidates coordinator request session with
    ⟨error, hRefused⟩ | ⟨candidates, hValid, hCandidates⟩
  · simp [contacted, hRefused] at hTarget
  · refine ⟨candidates, hCandidates, ?_⟩
    cases hKept : keptFor request session candidates with
    | some results =>
        rw [(contacted_of_kept hValid hCandidates hKept).2] at hTarget
        cases hTarget
    | none =>
        cases hPermits : permitsCountable (coordinator.limitsOf request session.now)
            (coordinator.targetsOf (selectionOf session candidates).1.eligible) with
        | true =>
            rw [(contacted_of_called hValid hCandidates hKept hPermits).2] at hTarget
            obtain ⟨place, made, hPlace, -⟩ := mem_calledTargets.mp hTarget
            rw [← map_engine_targetsOf_eligible hCandidates]
            exact List.mem_map_of_mem (List.mem_of_getElem? hPlace)
        | false =>
            have hOpen := openRequest_eq coordinator request session hValid hCandidates
            simp only [hKept] at hOpen
            simp [contacted, hOpen, pendingOf, dispatch_eq_error _ _ _ _ _ _ hPermits] at hTarget

/-- A request that is answered changes the adapters as the calls made for it do, and no other. -/
theorem pool_of_handle {response : Response} {final : Session α}
    (hHandle : coordinator.handle request session = .ok (.ok response, final)) :
    final.pool = poolAfter request (coordinator.contacted request session) session.pool := by
  cases answered_of_handle hHandle with
  | served hValid hCandidates hKept =>
      rw [(contacted_of_kept hValid hCandidates hKept).2]
      rfl
  | called hValid hCandidates hKept hPermits =>
      rw [(contacted_of_called hValid hCandidates hKept hPermits).2]
      exact pool_run ..

/-- Each target that is passed on has its timing. -/
theorem length_timings_calledResponse (hCandidates : coordinator.candidates request = .ok candidates) :
    (coordinator.calledResponse request session candidates).timings.length =
      (coordinator.targetsOf (selectionOf session candidates).1.eligible).length := by
  have hEngines : (coordinator.calledResponse request session candidates).timings.map (·.engine) =
      (coordinator.targetsOf (selectionOf session candidates).1.eligible).map (·.engine) :=
    (map_engine_timings_calledResponse hCandidates).trans (map_engine_targetsOf_eligible hCandidates).symm
  simpa using congrArg List.length hEngines

theorem exists_outcome_of_mem_failuresOf {report : Report} {failure : EngineFailure}
    (h : failure ∈ failuresOf report) :
    ∃ outcome ∈ report.outcomes, ∃ error, outcome.result = .error error ∧
      failure = ⟨outcome.engine, error.kind, error.message⟩ := by
  obtain ⟨outcome, hOutcome, hFailure⟩ := List.mem_filterMap.mp h
  cases hResult : outcome.result with
  | ok hits => simp [hResult] at hFailure
  | error error =>
      rw [hResult] at hFailure
      exact ⟨outcome, hOutcome, error, hResult, (Option.some.inj hFailure).symm⟩

theorem exists_outcome_of_succeeded {report : Report} {timing : EngineTiming}
    (h : timing ∈ timingsOf report) (hSucceeded : timing.succeeded = true) :
    ∃ outcome ∈ report.outcomes, ∃ hits, outcome.result = .ok hits ∧
      outcome.engine = timing.engine := by
  obtain ⟨outcome, hOutcome, rfl⟩ := List.mem_map.mp h
  cases hResult : outcome.result with
  | ok hits => exact ⟨outcome, hOutcome, hits, hResult, rfl⟩
  | error error => simp [EngineOutcome.succeeded, hResult, Except.isOk, Except.toBool] at hSucceeded

/-- The adapter of an engine that succeeds is called. -/
theorem exists_contacted_of_succeeded {response : Response} {final : Session α}
    (hHandle : coordinator.handle request session = .ok (.ok response, final)) {timing : EngineTiming}
    (hTiming : timing ∈ response.timings) (hSucceeded : timing.succeeded = true) :
    ∃ target ∈ coordinator.contacted request session, target.engine = timing.engine := by
  cases answered_of_handle hHandle with
  | served hValid hCandidates hKept => cases hTiming
  | called hValid hCandidates hKept hPermits =>
      obtain ⟨outcome, hOutcome, hits, hResult, hEngine⟩ := exists_outcome_of_succeeded hTiming hSucceeded
      rw [(contacted_of_called hValid hCandidates hKept hPermits).2]
      rcases called_or_waited hOutcome with ⟨target, hMem, hTarget⟩ | ⟨hError, -⟩
      · exact ⟨target, hMem, hTarget.trans hEngine⟩
      · cases hResult.symm.trans hError

/-- A failure in an answer is one of an engine whose adapter was called, or of one that waited for a
permit until the deadline. -/
theorem called_or_waited_of_mem_failed (built : coordinator.Built) (hValid : request.validate = .ok ())
    (hCandidates : coordinator.candidates request = .ok candidates) {failure : EngineFailure}
    (hFailure : failure ∈ (coordinator.calledResponse request session candidates).failed) :
    (∃ target ∈ calledTargets (coordinator.targetsOf (selectionOf session candidates).1.eligible)
        (coordinator.dispatchedOf request session candidates).runs, target.engine = failure.engine) ∨
    (failure.kind = .timeout ∧ failure.message = "request deadline elapsed" ∧
      deadlineOf coordinator.config request session.now =
        some (coordinator.dispatchedOf request session candidates).finish ∧
      coordinator.config.maxConcurrentEngines.toNat <
        (coordinator.calledResponse request session candidates).timings.length) := by
  obtain ⟨outcome, hOutcome, error, hError, rfl⟩ := exists_outcome_of_mem_failuresOf hFailure
  rcases called_or_waited hOutcome with hCalled | ⟨hTimedOut, hCut, hMore⟩
  · exact Or.inl hCalled
  · right
    cases hError.symm.trans hTimedOut
    obtain ⟨deadline, hDeadline, hFinish⟩ := finish_run_of_cut _ _ _ _ _ _ hCut
    have hAhead : session.now < deadline := lt_of_mem_deadlineOf built.validate_config hValid hDeadline
    refine ⟨rfl, rfl, ?_, ?_⟩
    · rw [max_eq_right hAhead.le] at hFinish
      exact hDeadline.trans (congrArg some hFinish.symm)
    · rw [length_timings_calledResponse hCandidates]
      refine Nat.lt_of_le_of_lt (Nat.le_max_left _ _) (hMore ?_)
      rw [Limits.before_eq_true_iff]
      rintro _ hAgain
      cases hDeadline.symm.trans hAgain
      exact hAhead

/-- An engine that is passed on and not called is listed among the failures. -/
theorem mem_failed_of_not_called {target : Target}
    (hTarget : target ∈ coordinator.targetsOf (selectionOf session candidates).1.eligible)
    (hNot : target ∉ calledTargets (coordinator.targetsOf (selectionOf session candidates).1.eligible)
      (coordinator.dispatchedOf request session candidates).runs) :
    ⟨target.engine, .timeout, "request deadline elapsed"⟩ ∈
      (coordinator.calledResponse request session candidates).failed := by
  obtain ⟨place, hPlace⟩ := List.mem_iff_getElem?.mp hTarget
  obtain ⟨made, hMade⟩ := exists_made_of_target (coordinator.limitsOf request session.now) request
    session.now _ session.pool (selectionOf session candidates).2 hPlace
  cases made with
  | some call => exact absurd (mem_calledTargets.mpr ⟨place, call, hPlace, hMade⟩) hNot
  | none =>
      obtain ⟨-, hOutcome⟩ := outcome_of_not_made hPlace hMade
      exact List.mem_filterMap.mpr ⟨_, List.mem_of_getElem? hOutcome, rfl⟩

/-- Every failure in an answer is one of an engine whose adapter was called for the request, or of one
that waited for a permit until the deadline, and all engines that did so are listed. This happens only if
more engines are passed on than may be called at once and the answer comes at the deadline. -/
theorem failed_engines_called_or_waited (built : coordinator.Built) {response : Response}
    {final : Session α} (hHandle : coordinator.handle request session = .ok (.ok response, final)) :
    (∀ failure ∈ response.failed,
      (∃ target ∈ coordinator.contacted request session, target.engine = failure.engine) ∨
      (failure.kind = .timeout ∧ failure.message = "request deadline elapsed" ∧
        deadlineOf coordinator.config request session.now = some final.now ∧
        coordinator.config.maxConcurrentEngines.toNat < response.timings.length)) ∧
    ∀ target ∈ coordinator.passedOn request session,
      target ∉ coordinator.contacted request session →
      ⟨target.engine, .timeout, "request deadline elapsed"⟩ ∈ response.failed := by
  cases answered_of_handle hHandle with
  | served hValid hCandidates hKept =>
      rw [(contacted_of_kept hValid hCandidates hKept).1]
      exact ⟨fun _ hFailure => (nomatch hFailure), fun _ hTarget => (nomatch hTarget)⟩
  | called hValid hCandidates hKept hPermits =>
      obtain ⟨hPassedOn, hContacted⟩ := contacted_of_called hValid hCandidates hKept hPermits
      rw [hPassedOn, hContacted]
      exact ⟨fun _ => called_or_waited_of_mem_failed built hValid hCandidates,
        fun _ => mem_failed_of_not_called⟩

/-- Two engines that may only be called one after the other, within a tenth of a second. -/
def singleFileConfig : SearchConfig :=
  { engines := [{ name := "slow" }, { name := "next" }]
    maxConcurrentEngines := 1
    requestTimeoutMs := some 100 }

def singleFileCoordinator : Coordinator :=
  { config := singleFileConfig
    engines := [⟨⟨"slow", "general"⟩, 0, none⟩, ⟨⟨"next", "general"⟩, 1, none⟩]
    emptyCache := { lifetime := 0 } }

theorem singleFileCoordinator_built : singleFileCoordinator.Built :=
  ⟨singleFileConfig, ["slow", "next"], {}, _, rfl⟩

/-- The first engine never answers, the second would do so at once. -/
def singleFileSession : Session Script :=
  { tracker := {}
    cache := { lifetime := 0 }
    pool := [{ behaviours := [⟨0, .fixed .hang⟩] }, { behaviours := [⟨0, .echo⟩] }]
    now := 0 }

/-- Both engines are listed as failures. Only the first was called. -/
theorem failed_engines_called_or_waited_in_single_file :
    singleFileCoordinator.Built ∧
    ∃ response final,
      singleFileCoordinator.handle { query := "x" } singleFileSession = .ok (.ok response, final) ∧
      response.failed.map (·.engine) = [⟨"slow", "general"⟩, ⟨"next", "general"⟩] ∧
      (singleFileCoordinator.contacted { query := "x" } singleFileSession).map (·.engine) =
        [⟨"slow", "general"⟩] ∧
      deadlineOf singleFileConfig { query := "x" } 0 = some final.now := by
  obtain ⟨response, final, hHandle, hFailed⟩ : ∃ response final,
      singleFileCoordinator.handle { query := "x" } singleFileSession = .ok (.ok response, final) ∧
      response.failed = [⟨⟨"slow", "general"⟩, .timeout, "request deadline elapsed"⟩,
        ⟨⟨"next", "general"⟩, .timeout, "request deadline elapsed"⟩] := ⟨_, _, rfl, rfl⟩
  have hContacted : (singleFileCoordinator.contacted { query := "x" } singleFileSession).map
      (·.engine) = [⟨"slow", "general"⟩] := rfl
  refine ⟨singleFileCoordinator_built, response, final, hHandle, by rw [hFailed]; rfl, hContacted, ?_⟩
  have hNext : (⟨⟨"next", "general"⟩, .timeout, "request deadline elapsed"⟩ : EngineFailure) ∈
      response.failed := by simp [hFailed]
  rcases (failed_engines_called_or_waited singleFileCoordinator_built hHandle).1 _ hNext with
    ⟨target, hMem, hEngine⟩ | ⟨-, -, hDeadline, -⟩
  · have hSlow : target.engine ∈ [(⟨"slow", "general"⟩ : EngineId)] :=
      hContacted ▸ List.mem_map_of_mem hMem
    rw [hEngine] at hSlow
    simp at hSlow
  · exact hDeadline

/-- An engine may be listed as a failure and be suspended although its adapter was never called. -/
theorem exists_failed_engine_never_called :
    ∃ (coordinator : Coordinator) (request : QueryRequest) (session final : Session Script)
      (response : Response) (failure : EngineFailure),
      coordinator.Built ∧ coordinator.handle request session = .ok (.ok response, final) ∧
      failure ∈ response.failed ∧
      (∀ target ∈ coordinator.contacted request session, target.engine ≠ failure.engine) ∧
      final.pool.map (·.calls) = [1, 0] ∧
      final.tracker.status failure.engine = .suspended 5100 :=
  ⟨singleFileCoordinator, { query := "x" }, singleFileSession, _, _,
    ⟨⟨"next", "general"⟩, .timeout, "request deadline elapsed"⟩, singleFileCoordinator_built, rfl,
    by decide, by decide, rfl, rfl⟩

end Metasearch.Coordinator
