import Metasearch.Proofs.Coordinator.Runs

/-! How long a failure keeps an engine from being called. The engine rests from the end of the request that
lists the failure, for as long as the policy says. No request reaches it before that time is over, and the
first one after it that is not answered from the cache tries it again. -/
namespace Metasearch

namespace Health

/-- A failure has suspended an engine until an instant, and nothing was reported of the engine since then.
It may have been given its second chance, but not before that instant. -/
structure Resting (kind : FailureKind) (ends now : Instant) (state : EngineState) : Prop where
  lastFailure : state.lastFailure = some kind
  status : state.status = .suspended ends ∨ state.status = .healthy ∧ ends ≤ now

namespace Resting

variable {kind : FailureKind} {ends now later : Instant} {state : EngineState}

theorem of_le (h : Resting kind ends now state) (hLater : now ≤ later) : Resting kind ends later state :=
  ⟨h.lastFailure, h.status.imp_right fun ⟨hHealthy, hOver⟩ => ⟨hHealthy, hOver.trans hLater⟩⟩

theorem status_of_lt (h : Resting kind ends now state) (hEarly : now < ends) :
    state.status = .suspended ends :=
  h.status.resolve_right fun ⟨_, hOver⟩ => Nat.not_le.mpr hEarly hOver

theorem mayRun_iff (h : Resting kind ends now state) : state.mayRun now = true ↔ ends ≤ now := by
  unfold EngineState.mayRun
  rcases h.status with hStatus | ⟨hStatus, hOver⟩
  · simp [hStatus]
  · simp [hStatus, hOver]

theorem refreshed (h : Resting kind ends now state) : Resting kind ends now (state.refreshed now) := by
  cases hRuns : state.mayRun now with
  | false => rwa [EngineState.refreshed_of_not_mayRun hRuns]
  | true =>
      rw [EngineState.refreshed, if_pos hRuns]
      exact ⟨h.lastFailure, Or.inr ⟨rfl, h.mayRun_iff.mp hRuns⟩⟩

end Resting

/-- An engine whose log ends with a failure rests for as long as the policy says for its failures in a
row. -/
theorem resting_of_log {policy : SuspensionPolicy} {events : List Event} {engine : EngineId}
    {kind : FailureKind} {now : Instant} {before : List Entry}
    (hLog : log engine events = .reported (.failure kind) now :: before) :
    Resting kind (now + 1000 * policy.seconds kind (streakOf (log engine events))) now
      ((Tracker.run { policy } events).stateOf engine) := by
  rw [stateOf_run, hLog]
  constructor
  · obtain ⟨status, hTold⟩ := exists_replay_eq_told policy (.reported (.failure kind) now :: before)
    rw [hTold]
    rfl
  · exact Or.inl (status_replay_eq_suspended_iff.mpr (suspendedUntil_cons_reported.mpr ⟨kind, rfl, rfl⟩))

end Health

namespace Coordinator

open Dispatch

/-- When the rest is over that a listed failure brings about, given the history with the request that
lists it and the instant at which this request ended. -/
def restEnd {α : Type} (coordinator : Coordinator) (policy : SuspensionPolicy) (past : List Health.Event)
    (history : List (Happening α)) (ended : Instant) (failure : EngineFailure) : Instant :=
  ended + 1000 * policy.seconds failure.kind
    (Health.streakOf (Health.log failure.engine (past ++ eventsOf coordinator history)))

/-- A request that begins at an instant or later, has an engine among its candidates, and is answered, but
not from the cache. -/
def Visit.Tries {α : Type} (coordinator : Coordinator) (engine : EngineId) (ends : Instant)
    (visit : Visit α) : Prop :=
  ends ≤ visit.before.now ∧
  (∃ candidates, coordinator.candidates visit.request = .ok candidates ∧ engine ∈ candidates) ∧
  ∃ response, visit.answer = .ok response ∧ response.cached = false

/-- Of distinct engines that are reported an engine notes its own outcome only. -/
theorem filterMap_logged_outcomes {outcomes : List EngineOutcome}
    (hNodup : (outcomes.map (·.engine)).Nodup) {outcome : EngineOutcome} (hMem : outcome ∈ outcomes)
    (now : Instant) :
    (outcomes.map fun outcome => Health.Event.report outcome.engine outcome.health now).filterMap
        (·.logged outcome.engine) = [.reported outcome.health now] := by
  induction outcomes with
  | nil => cases hMem
  | cons first rest ih =>
      rw [List.map_cons, List.nodup_cons] at hNodup
      rcases List.mem_cons.mp hMem with rfl | hMem
      · have hOthers : (rest.map fun other => Health.Event.report other.engine other.health now).filterMap
            (·.logged outcome.engine) = [] := by
          simp only [List.filterMap_map, List.filterMap_eq_nil_iff]
          intro other hOther
          refine if_neg fun hEngine => hNodup.1 ?_
          exact hEngine ▸ List.mem_map_of_mem hOther
        simp only [List.map_cons, List.filterMap_cons, Health.Event.logged, if_true] at hOthers ⊢
        rw [hOthers]
      · have hOther : first.engine ≠ outcome.engine := fun hEngine =>
          hNodup.1 (hEngine ▸ List.mem_map_of_mem hMem)
        have hRest := ih hNodup.2 hMem
        simp only [List.map_cons, List.filterMap_cons, Health.Event.logged, if_neg hOther] at hRest ⊢
        exact hRest

variable {α : Type} [EngineAdapter α] {coordinator : Coordinator} {policy : SuspensionPolicy}
  {past : List Health.Event} {request : QueryRequest} {start session final : Session α}
  {history : List (Happening α)} {answer : Except SearchError Response} {response : Response}
  {candidates : List EngineId} {engine : EngineId} {failure : EngineFailure}

/-- A failure that an answer lists is the last that the tracker has heard of its engine. -/
theorem exists_log_of_failure (built : coordinator.Built)
    (hHandle : coordinator.handle request session = .ok (.ok response, final))
    (hFailure : failure ∈ response.failed) (events : List Health.Event) :
    ∃ before, Health.log failure.engine
        (events ++ Visit.events coordinator ⟨request, session, .ok response, final⟩) =
      .reported (.failure failure.kind) final.now :: before := by
  cases answered_of_handle hHandle with
  | served hValid hCandidates hKept => cases hFailure
  | @called candidates hValid hCandidates hKept hPermits =>
      obtain ⟨outcome, hOutcome, error, hError, rfl⟩ := exists_outcome_of_mem_failuresOf hFailure
      have hHealth : outcome.health = .failure error.kind := by
        simp [EngineOutcome.health, hError]
      have hReported := filterMap_logged_outcomes (nodup_engine_outcomes built hCandidates) hOutcome
        (coordinator.calledSession request session candidates).now
      rw [events_of_called built hCandidates, Health.log_append, List.filterMap_cons, hReported, hHealth]
      · cases Health.Event.logged outcome.engine (.select candidates session.now) with
        | none => exact ⟨_, rfl⟩
        | some entry => exact ⟨_, rfl⟩
      · simp [Health.Event.resets]

/-- An engine that is not called keeps its state, but for a second chance. -/
theorem stateOf_of_not_called (built : coordinator.Built) (hOrdered : session.tracker.states.Ordered)
    (hHandle : coordinator.handle request session = .ok (.ok response, final))
    (hCandidates : coordinator.candidates request = .ok candidates)
    (hNot : engine ∉ response.timings.map (·.engine)) :
    final.tracker.stateOf engine =
      if engine ∈ candidates then (session.tracker.stateOf engine).refreshed session.now
      else session.tracker.stateOf engine := by
  have hOthers : ∀ event ∈ reportsOf response final.now, event.concerns engine = false := by
    intro event hMem
    obtain ⟨timing, hTiming, rfl⟩ := List.mem_map.mp hMem
    have hEngine : timing.engine ≠ engine := fun hEq => hNot (List.mem_map.mpr ⟨timing, hTiming, hEq⟩)
    simp [Health.Event.concerns, Health.Event.resets, Health.Event.logged, hEngine]
  rw [tracker_of_handle built hHandle]
  simp only [Visit.events, hCandidates]
  refine (Health.stateOf_run_of_not_concerns
    (Health.Tracker.ordered_select session.now hOrdered candidates) hOthers).trans ?_
  exact Health.Tracker.stateOf_select session.now hOrdered candidates engine

/-- Only a candidate that may run is called, and then the answer is not from the cache. -/
theorem mayRun_of_called (hOrdered : session.tracker.states.Ordered)
    (hHandle : coordinator.handle request session = .ok (.ok response, final))
    (hCandidates : coordinator.candidates request = .ok candidates)
    (hCalled : engine ∈ response.timings.map (·.engine)) :
    engine ∈ candidates ∧ (session.tracker.stateOf engine).mayRun session.now = true ∧
      response.cached = false := by
  cases answered_of_handle hHandle with
  | served hValid hOthers hKept => cases hCalled
  | @called others hValid hOthers hKept hPermits =>
      obtain rfl : others = candidates := Except.ok.inj (hOthers.symm.trans hCandidates)
      rw [map_engine_timings_calledResponse hCandidates, selectionOf,
        Health.Tracker.eligible_select session.now hOrdered, List.mem_filter] at hCalled
      exact ⟨hCalled.1, hCalled.2, rfl⟩

variable {kind : FailureKind} {ends : Instant}

/-- A request leaves an engine resting unless it tries the engine again. -/
theorem resting_of_handle (built : coordinator.Built) (hOrdered : session.tracker.states.Ordered)
    (hHandle : coordinator.handle request session = .ok (answer, final))
    (hResting : Health.Resting kind ends session.now (session.tracker.stateOf engine))
    (hUntried : ¬ Visit.Tries coordinator engine ends ⟨request, session, answer, final⟩) :
    Health.Resting kind ends final.now (final.tracker.stateOf engine) := by
  cases answer with
  | error error =>
      rw [eq_of_refused hHandle]
      exact hResting
  | ok response =>
      obtain ⟨candidates, hCandidates⟩ := exists_candidates_of_handle hHandle
      have hNot : engine ∉ response.timings.map (·.engine) := by
        intro hCalled
        obtain ⟨hMem, hRuns, hFresh⟩ := mayRun_of_called hOrdered hHandle hCandidates hCalled
        exact hUntried ⟨hResting.mayRun_iff.mp hRuns, ⟨candidates, hCandidates, hMem⟩,
          response, rfl, hFresh⟩
      rw [stateOf_of_not_called built hOrdered hHandle hCandidates hNot]
      refine Health.Resting.of_le ?_ (now_le_of_handle hHandle)
      split
      · exact hResting.refreshed
      · exact hResting

/-- An engine rests through any run without a reset in which no request tries it. -/
theorem resting_of_run (built : coordinator.Built) (hOrdered : start.tracker.states.Ordered)
    (hRun : RunsTo coordinator start history session) (hNoReset : Happening.reset ∉ history)
    (hResting : Health.Resting kind ends start.now (start.tracker.stateOf engine))
    (hUntried : ∀ visit, Happening.asked visit ∈ history → ¬ visit.Tries coordinator engine ends) :
    Health.Resting kind ends session.now (session.tracker.stateOf engine) := by
  induction hRun with
  | start => exact hResting
  | pause length pool _ ih => exact (ih hNoReset hUntried).of_le (Nat.le_add_right _ length)
  | ask hEarlier hHandle ih =>
      have hBefore := ih (fun hMem => hNoReset (List.mem_cons_of_mem _ hMem))
        fun visit hMem => hUntried visit (List.mem_cons_of_mem _ hMem)
      exact resting_of_handle built (hEarlier.ordered built hOrdered) hHandle hBefore
        (hUntried _ (List.mem_cons_self ..))
  | reset _ _ => exact absurd (List.mem_cons_self ..) hNoReset

/-- Time does not go back in a run. -/
theorem before_le_of_run (hRun : RunsTo coordinator start history session) {visit : Visit α}
    (hMem : Happening.asked visit ∈ history) : visit.before.now ≤ session.now := by
  induction hRun with
  | start => cases hMem
  | pause length pool _ ih => exact (ih hMem).trans (Nat.le_add_right _ length)
  | ask _ hHandle ih =>
      rcases List.mem_cons.mp hMem with hEq | hMem
      · cases hEq
        exact now_le_of_handle hHandle
      · exact (ih hMem).trans (now_le_of_handle hHandle)
  | reset _ ih =>
      rcases List.mem_cons.mp hMem with hEq | hMem
      · cases hEq
      · exact ih hMem

/-- A failure right after the request that lists it: the engine rests until the end that the policy gives. -/
theorem resting_of_failure (hBegins : Begins coordinator policy past start)
    (hRun : RunsTo coordinator start history session)
    (hHandle : coordinator.handle request session = .ok (.ok response, final))
    (hFailure : failure ∈ response.failed) :
    Health.Resting failure.kind
      (restEnd coordinator policy past (.asked ⟨request, session, .ok response, final⟩ :: history)
        final.now failure)
      final.now (final.tracker.stateOf failure.engine) := by
  obtain ⟨before, hLog⟩ := exists_log_of_failure hBegins.built hHandle hFailure
    (past ++ eventsOf coordinator history)
  rw [List.append_assoc] at hLog
  rw [hBegins.tracker_of_run (.ask hRun hHandle)]
  exact Health.resting_of_log hLog

/-- An engine rests from the end of the request that lists its failure on, until a request tries it. -/
theorem resting_since_failure (hBegins : Begins coordinator policy past start)
    {later earlier : List (Happening α)} {visit : Visit α}
    (hRun : RunsTo coordinator start (later ++ .asked visit :: earlier) session)
    (hNoReset : Happening.reset ∉ later) (hAnswer : visit.answer = .ok response)
    (hFailure : failure ∈ response.failed)
    (hEnds : ends = restEnd coordinator policy past (.asked visit :: earlier) visit.after.now failure)
    (hUntried : ∀ between, Happening.asked between ∈ later →
      ¬ between.Tries coordinator failure.engine ends) :
    Health.Resting failure.kind ends session.now (session.tracker.stateOf failure.engine) := by
  obtain ⟨asked, before, answer, after⟩ := visit
  obtain rfl : answer = .ok response := hAnswer
  obtain ⟨hBefore, hHandle, hAfter⟩ := hRun.split
  have hAsked := RunsTo.ask hBefore hHandle
  have hResting := resting_of_failure hBegins hBefore hHandle hFailure
  rw [← hEnds] at hResting
  exact resting_of_run hBegins.built (hAsked.ordered hBegins.built hBegins.ordered) hAfter hNoReset
    hResting hUntried

/-- A coordinator that has called an engine can count its permits. -/
theorem lanes_le_of_failure (hHandle : coordinator.handle request session = .ok (.ok response, final))
    (hFailure : failure ∈ response.failed) :
    max coordinator.config.maxConcurrentEngines.toNat 1 ≤ maxPermits := by
  cases answered_of_handle hHandle with
  | served hValid hCandidates hKept => cases hFailure
  | @called candidates hValid hCandidates hKept hPermits =>
      obtain ⟨outcome, hOutcome, -⟩ := exists_outcome_of_mem_failuresOf hFailure
      obtain ⟨place, hPlace⟩ := List.mem_iff_getElem?.mp hOutcome
      obtain ⟨target, hTarget, -⟩ := exists_target_of_outcome hPlace
      have hSome : (coordinator.targetsOf (selectionOf session candidates).1.eligible).isEmpty = false :=
        List.isEmpty_eq_false_iff.mpr (List.ne_nil_of_mem (List.mem_of_getElem? hTarget))
      rw [permitsCountable, hSome, Bool.false_or, decide_eq_true_eq] at hPermits
      exact hPermits

theorem exists_answered (hPermits : max coordinator.config.maxConcurrentEngines.toNat 1 ≤ maxPermits)
    (hValid : request.validate = .ok ()) (hCandidates : coordinator.candidates request = .ok candidates) :
    ∃ response final, coordinator.Answered request session response final := by
  cases hKept : keptFor request session candidates with
  | some results => exact ⟨_, _, .served hValid hCandidates hKept⟩
  | none =>
      have hLanes : (coordinator.limitsOf request session.now).lanes ≤ maxPermits := hPermits
      exact ⟨_, _, .called hValid hCandidates hKept (by simp [permitsCountable, hLanes])⟩

/-- While an engine rests, nothing is called on its behalf. -/
theorem not_contacted_of_resting (hOrdered : session.tracker.states.Ordered)
    (hResting : Health.Resting kind ends session.now (session.tracker.stateOf engine))
    (hEarly : session.now < ends) :
    ∀ target ∈ coordinator.contacted request session, target.engine ≠ engine := by
  rintro target hTarget hEngine
  obtain ⟨candidates, -, hEligible⟩ := exists_eligible_of_mem_contacted hTarget
  rw [selectionOf, Health.Tracker.eligible_select session.now hOrdered, hEngine] at hEligible
  exact Nat.not_le.mpr hEarly (hResting.mayRun_iff.mp (List.mem_filter.mp hEligible).2)

/-- While an engine rests, an answer to a request for it says for how long it still does. -/
theorem mem_skipped_of_resting (hOrdered : session.tracker.states.Ordered)
    (hAnswered : coordinator.Answered request session response final)
    (hCandidates : coordinator.candidates request = .ok candidates) (hMem : engine ∈ candidates)
    (hResting : Health.Resting kind ends session.now (session.tracker.stateOf engine))
    (hEarly : session.now < ends) :
    ⟨engine, ends - session.now, some kind⟩ ∈ response.skipped := by
  have hMayNot : (session.tracker.stateOf engine).mayRun session.now = false :=
    Bool.eq_false_iff.mpr fun hRuns => Nat.not_le.mpr hEarly (hResting.mayRun_iff.mp hRuns)
  cases hAnswered with
  | served _ hOthers hKept =>
      cases hOthers.symm.trans hCandidates
      simp [((keptFor_eq_some_iff hOrdered).mp hKept).1 engine hMem] at hMayNot
  | called _ hOthers hKept hPermits =>
      cases hOthers.symm.trans hCandidates
      have hEntry : session.tracker.skippedOf session.now engine =
          ⟨engine, ends - session.now, some kind⟩ := by
        simp [Health.Tracker.skippedOf, Health.EngineState.suspendedUntil, hResting.lastFailure,
          hResting.status_of_lt hEarly]
      have hSkipped : (coordinator.calledResponse request session candidates).skipped = _ :=
        Health.Tracker.skipped_select session.now hOrdered candidates
      rw [hSkipped, ← hEntry]
      exact List.mem_map_of_mem (List.mem_filter.mpr ⟨hMem, by simp [hMayNot]⟩)

/-- Once the rest of an engine is over, a request for it that is not answered from the cache passes it on
to the dispatcher. -/
theorem passedOn_of_rested (hOrdered : session.tracker.states.Ordered)
    (hAnswered : coordinator.Answered request session response final)
    (hCandidates : coordinator.candidates request = .ok candidates) (hMem : engine ∈ candidates)
    (hResting : Health.Resting kind ends session.now (session.tracker.stateOf engine))
    (hOver : ends ≤ session.now) :
    response.cached = true ∨ ∃ target ∈ coordinator.passedOn request session, target.engine = engine := by
  cases hAnswered with
  | served _ hOthers hKept => exact Or.inl rfl
  | called hValid hOthers hKept hPermits =>
      cases hOthers.symm.trans hCandidates
      right
      rw [(contacted_of_called hValid hCandidates hKept hPermits).1]
      apply List.mem_map.mp
      rw [map_engine_targetsOf_eligible hCandidates, selectionOf,
        Health.Tracker.eligible_select session.now hOrdered]
      exact List.mem_filter.mpr ⟨hMem, hResting.mayRun_iff.mpr hOver⟩

/-- If a request of a run ends with a failure of an engine, then until the time is over that the policy
gives for this kind of failure, being one of so many in a row, no request of the run has the adapter called
on behalf of the engine, and each that is answered and has the engine among its candidates lists it with
the time that is left. The first request after that which has the engine as a candidate and is not answered
from the cache passes it on to the dispatcher. -/
theorem failed_engine_rests (hBegins : Begins coordinator policy past start)
    {later earlier : List (Happening α)} {visit : Visit α}
    (hRun : RunsTo coordinator start (later ++ .asked visit :: earlier) session)
    (hNoReset : Happening.reset ∉ later) (hAnswer : visit.answer = .ok response)
    (hFailure : failure ∈ response.failed)
    (hEnds : ends = restEnd coordinator policy past (.asked visit :: earlier) visit.after.now failure)
    (request : QueryRequest) :
    (session.now < ends →
      (∀ target ∈ coordinator.contacted request session, target.engine ≠ failure.engine) ∧
      (request.validate = .ok () → ∀ candidates, coordinator.candidates request = .ok candidates →
        failure.engine ∈ candidates →
        ∃ next final, coordinator.handle request session = .ok (.ok next, final) ∧
          ⟨failure.engine, ends - session.now, some failure.kind⟩ ∈ next.skipped ∧
          0 < ends - session.now)) ∧
    (ends ≤ session.now →
      (∀ between, Happening.asked between ∈ later → ¬ between.Tries coordinator failure.engine ends) →
      request.validate = .ok () → ∀ candidates, coordinator.candidates request = .ok candidates →
        failure.engine ∈ candidates →
        ∃ next final, coordinator.handle request session = .ok (.ok next, final) ∧
          (next.cached = true ∨
            ∃ target ∈ coordinator.passedOn request session, target.engine = failure.engine)) := by
  have hOrdered := hRun.ordered hBegins.built hBegins.ordered
  obtain ⟨-, hHandle, hAfter⟩ := hRun.split
  have hPermits := lanes_le_of_failure (hAnswer ▸ hHandle) hFailure
  have hResting := resting_since_failure hBegins hRun hNoReset hAnswer hFailure hEnds
  constructor
  · intro hEarly
    have hNow := hResting fun between hMem hTries =>
      Nat.not_le.mpr hEarly (hTries.1.trans (before_le_of_run hAfter hMem))
    refine ⟨not_contacted_of_resting hOrdered hNow hEarly, ?_⟩
    intro hValid candidates hCandidates hMem
    obtain ⟨next, final, hAnswered⟩ : ∃ next final, coordinator.Answered request session next final :=
      exists_answered hPermits hValid hCandidates
    exact ⟨next, final, handle_of_answered hAnswered,
      mem_skipped_of_resting hOrdered hAnswered hCandidates hMem hNow hEarly,
      Nat.sub_pos_of_lt hEarly⟩
  · intro hOver hUntried hValid candidates hCandidates hMem
    obtain ⟨next, final, hAnswered⟩ : ∃ next final, coordinator.Answered request session next final :=
      exists_answered hPermits hValid hCandidates
    exact ⟨next, final, handle_of_answered hAnswered,
      passedOn_of_rested hOrdered hAnswered hCandidates hMem (hResting hUntried) hOver⟩

theorem singleFileSession_begins : Begins singleFileCoordinator {} [] singleFileSession where
  built := singleFileCoordinator_built
  tracker := rfl
  cache := rfl

/-- The first engine is cut off after a tenth of a second and rests for five seconds. A millisecond before
they are over it is left out, and then it is tried again. -/
theorem failed_engine_rests_in_single_file :
    ∃ first between,
      singleFileCoordinator.handle { query := "x" } singleFileSession = .ok (.ok first, between) ∧
      between.now = 100 ∧
      (⟨⟨"slow", "general"⟩, .timeout, "request deadline elapsed"⟩ : EngineFailure) ∈ first.failed ∧
      (∃ next final,
        singleFileCoordinator.handle { query := "y" } { between with now := between.now + 4999 } =
          .ok (.ok next, final) ∧
        ⟨⟨"slow", "general"⟩, 1, some .timeout⟩ ∈ next.skipped) ∧
      ∃ target ∈ singleFileCoordinator.passedOn { query := "y" }
          { between with now := between.now + 5000 }, target.engine = ⟨"slow", "general"⟩ := by
  obtain ⟨first, between, hHandle, hNow, hFailed, hEnds, last, ended, hLast, hFresh⟩ : ∃ first between,
      singleFileCoordinator.handle { query := "x" } singleFileSession = .ok (.ok first, between) ∧
      between.now = 100 ∧
      first.failed.head? = some ⟨⟨"slow", "general"⟩, .timeout, "request deadline elapsed"⟩ ∧
      5100 = restEnd singleFileCoordinator {} []
        [.asked ⟨{ query := "x" }, singleFileSession, .ok first, between⟩] between.now
        ⟨⟨"slow", "general"⟩, .timeout, "request deadline elapsed"⟩ ∧
      ∃ last ended,
        singleFileCoordinator.handle { query := "y" } { between with now := between.now + 5000 } =
          .ok (.ok last, ended) ∧ last.cached = false := ⟨_, _, rfl, rfl, rfl, rfl, _, _, rfl, rfl⟩
  have hFailure := List.mem_of_mem_head? hFailed
  have hAsked := RunsTo.ask .start hHandle
  have hValid : QueryRequest.validate { query := "y" } = .ok () := rfl
  have hRests := fun length => failed_engine_rests singleFileSession_begins
    (.pause length between.pool hAsked) List.not_mem_nil rfl hFailure hEnds { query := "y" }
  refine ⟨first, between, hHandle, hNow, hFailure, ?_, ?_⟩
  · obtain ⟨next, final, hNext, hSkipped, -⟩ :=
      ((hRests 4999).1 (by simp [hNow])).2 hValid _ rfl (by decide)
    refine ⟨next, final, hNext, ?_⟩
    simpa [hNow] using hSkipped
  · obtain ⟨next, final, hNext, hTried⟩ :=
      (hRests 5000).2 (by simp [hNow]) (by simp) hValid _ rfl (by decide)
    cases hLast.symm.trans hNext
    exact hTried.resolve_left (by simp [hFresh])

end Coordinator

end Metasearch
