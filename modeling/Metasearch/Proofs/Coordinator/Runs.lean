import Mathlib.Data.List.Nodup
import Metasearch.Proofs.Coordinator.Contacts
import Metasearch.Proofs.Health.History

/-! Requests one after the other. A run of a coordinator is told by what happens to it: requests with their
answers, and resets. What its tracker hears of in a run can be read off the answers. -/
namespace Metasearch.Coordinator

open Dispatch

/-- One request that came to an end, with its answer and the sessions that it found and left. -/
structure Visit (α : Type) where
  request : QueryRequest
  before : Session α
  answer : Except SearchError Response
  after : Session α

/-- What can happen to a coordinator. -/
inductive Happening (α : Type) where
  | asked (visit : Visit α)
  | reset

variable {α : Type}

/-- The session of a coordinator that was just built: the cache is empty, and the tracker, which may be
older than the coordinator, has lived through the events of the past. -/
structure Begins (coordinator : Coordinator) (policy : SuspensionPolicy) (past : List Health.Event)
    (start : Session α) : Prop where
  built : coordinator.Built
  tracker : start.tracker = Health.Tracker.run { policy } past
  cache : start.cache = coordinator.emptyCache

/-- What an answer tells of the health of the engines that were called. -/
def reportsOf (response : Response) (now : Instant) : List Health.Event :=
  response.timings.map fun timing =>
    .report timing.engine
      (match response.failed.find? (·.engine == timing.engine) with
      | some failure => .failure failure.kind
      | none => .success) now

/-- What a tracker hears of a request: its candidates when it is opened, and the outcomes when it ends. -/
def Visit.events (coordinator : Coordinator) (visit : Visit α) : List Health.Event :=
  match coordinator.candidates visit.request, visit.answer with
  | .ok candidates, .ok response =>
    .select candidates visit.before.now :: reportsOf response visit.after.now
  | _, _ => []

/-- What a tracker hears of in a run, the first event first. -/
def eventsOf (coordinator : Coordinator) : List (Happening α) → List Health.Event
  | [] => []
  | .asked visit :: earlier => eventsOf coordinator earlier ++ visit.events coordinator
  | .reset :: earlier => eventsOf coordinator earlier ++ [.resetAll]

variable {coordinator : Coordinator} {policy : SuspensionPolicy} {past : List Health.Event}
  {request : QueryRequest} {start session final : Session α}
  {history : List (Happening α)} {answer : Except SearchError Response}

theorem Begins.ordered (hBegins : Begins coordinator policy past start) : start.tracker.states.Ordered := by
  rw [hBegins.tracker]
  exact Health.Tracker.ordered_run (Health.states_nil_ordered policy) past

/-- To register engines with a tracker is a run of events. -/
theorem tracker_of_registerAll {names : List String} {engines : List EngineSettings}
    {tracker last : Health.Tracker} {registered : List Registration}
    (h : registerAll names engines tracker = (.ok registered, last)) :
    last = tracker.run (engines.map (.register ·.id)) := by
  induction engines generalizing tracker registered with
  | nil =>
      cases h
      rfl
  | cons engine rest ih =>
      obtain ⟨adapter, others, -, hRest, -⟩ := registerAll_cons_eq_ok h
      exact ih hRest

/-- Every coordinator that comes out of a configuration begins in this way, whatever its tracker has lived
through before. -/
theorem begins_of_withTracker {config : SearchConfig} {names : List String} {policy : SuspensionPolicy}
    {events : List Health.Event} {tracker : Health.Tracker}
    (h : withTracker config names (Health.Tracker.run { policy } events) = .ok (.ok coordinator, tracker))
    (pool : List α) (now : Instant) :
    Begins coordinator policy
      (events ++ (config.engines.filter (!·.disabled)).map (.register ·.id))
      ⟨tracker, coordinator.emptyCache, pool, now⟩ where
  built := ⟨_, _, _, _, h⟩
  tracker := by
    obtain ⟨-, hRegistered, -, -⟩ := withTracker_eq_ok h
    rw [Health.Tracker.run_append]
    exact tracker_of_registerAll hRegistered
  cache := rfl

variable {candidates : List EngineId}

theorem skipped_selectionOf_eq_nil_iff (h : session.tracker.states.Ordered) :
    (selectionOf session candidates).1.skipped = [] ↔
      ∀ id ∈ candidates, (session.tracker.stateOf id).mayRun session.now = true := by
  rw [selectionOf, Health.Tracker.skipped_select session.now h]
  simp

/-- A request finds kept results only while every candidate may run. -/
theorem keptFor_eq_some_iff (h : session.tracker.states.Ordered) {results : List MergedResult} :
    keptFor request session candidates = some results ↔
      (∀ id ∈ candidates, (session.tracker.stateOf id).mayRun session.now = true) ∧
      session.cache.get? (CacheKey.ofRequest request candidates) = some results := by
  rw [← skipped_selectionOf_eq_nil_iff h, keptFor, ← List.isEmpty_iff]
  simp

variable [EngineAdapter α]

/-- A coordinator comes from one session to another while things happen to it one after the other, the
latest first. In between time passes, and the engines may change by themselves. -/
inductive RunsTo (coordinator : Coordinator) (start : Session α) :
    List (Happening α) → Session α → Prop where
  | start : RunsTo coordinator start [] start
  | pause {history : List (Happening α)} {session : Session α} (length : Millis) (pool : List α)
      (earlier : RunsTo coordinator start history session) :
      RunsTo coordinator start history { session with now := session.now + length, pool }
  | ask {history : List (Happening α)} {session : Session α} {request : QueryRequest}
      {answer : Except SearchError Response} {final : Session α}
      (earlier : RunsTo coordinator start history session)
      (hHandle : coordinator.handle request session = .ok (answer, final)) :
      RunsTo coordinator start (.asked ⟨request, session, answer, final⟩ :: history) final
  | reset {history : List (Happening α)} {session : Session α}
      (earlier : RunsTo coordinator start history session) :
      RunsTo coordinator start (.reset :: history) (resetAll session)

/-- A request does not end before it begins. -/
theorem now_le_of_handle (hHandle : coordinator.handle request session = .ok (answer, final)) :
    session.now ≤ final.now := by
  cases answer with
  | error error => rw [eq_of_refused hHandle]
  | ok response =>
      cases answered_of_handle hHandle with
      | served hValid hCandidates hKept => exact le_refl _
      | called hValid hCandidates hKept hPermits =>
          exact ((clock_collected_le_iff _ session.now _ _).mp (le_refl _)).1

theorem tell_eq_run_reports (tracker : Health.Tracker) (report : Report) (now : Instant) :
    Dispatch.tell tracker report now =
      tracker.run (report.outcomes.map fun outcome => .report outcome.engine outcome.health now) := by
  simp only [Dispatch.tell, Health.Tracker.run, List.foldl_map]
  rfl

/-- The failure that an answer lists for an engine is the one that the outcome of the engine tells. -/
theorem find?_failuresOf {report : Report} (hNodup : (report.outcomes.map (·.engine)).Nodup)
    {outcome : EngineOutcome} (hMem : outcome ∈ report.outcomes) :
    (match (failuresOf report).find? (·.engine == outcome.engine) with
      | some failure => Health.Outcome.failure failure.kind
      | none => .success) = outcome.health := by
  have hSame : ∀ failure ∈ failuresOf report, failure.engine = outcome.engine →
      ∃ error, outcome.result = .error error ∧ failure.kind = error.kind := by
    intro failure hFailure hEngine
    obtain ⟨other, hOther, error, hResult, rfl⟩ := exists_outcome_of_mem_failuresOf hFailure
    obtain rfl : other = outcome := List.inj_on_of_nodup_map hNodup hOther hMem hEngine
    exact ⟨error, hResult, rfl⟩
  split
  · rename_i failure hFound
    obtain ⟨error, hResult, hKind⟩ := hSame failure (List.mem_of_find?_eq_some hFound)
      (by simpa using List.find?_some hFound)
    simp [EngineOutcome.health, hResult, hKind]
  · rename_i hNone
    cases hResult : outcome.result with
    | ok hits => simp [EngineOutcome.health, hResult]
    | error error =>
        have hListed : ⟨outcome.engine, error.kind, error.message⟩ ∈ failuresOf report :=
          List.mem_filterMap.mpr ⟨outcome, hMem, by rw [hResult]⟩
        simpa using List.find?_eq_none.mp hNone _ hListed

theorem reportsOf_responseOf {pending : Pending} {report : Report} {finish : Instant}
    (hNodup : (report.outcomes.map (·.engine)).Nodup) :
    reportsOf (coordinator.responseOf pending report finish) finish =
      report.outcomes.map fun outcome => .report outcome.engine outcome.health finish := by
  simp only [reportsOf, responseOf, timingsOf, List.map_map]
  apply List.map_congr_left
  intro outcome hMem
  exact congrArg (Health.Event.report outcome.engine · finish) (find?_failuresOf hNodup hMem)

theorem map_engine_timingsOf (report : Report) :
    (timingsOf report).map (·.engine) = report.outcomes.map (·.engine) :=
  List.map_map

theorem nodup_engine_timings (built : coordinator.Built)
    (hCandidates : coordinator.candidates request = .ok candidates) :
    ((coordinator.calledResponse request session candidates).timings.map (·.engine)).Nodup := by
  rw [map_engine_timings_calledResponse hCandidates]
  exact built.nodup_engineIds.sublist (eligible_sublist_engineIds hCandidates)

theorem nodup_engine_outcomes (built : coordinator.Built)
    (hCandidates : coordinator.candidates request = .ok candidates) :
    ((coordinator.dispatchedOf request session candidates).report.outcomes.map (·.engine)).Nodup := by
  rw [← map_engine_timingsOf]
  exact nodup_engine_timings built hCandidates

/-- What the tracker hears of a request that is dispatched. -/
theorem events_of_called (built : coordinator.Built)
    (hCandidates : coordinator.candidates request = .ok candidates) :
    Visit.events coordinator
        ⟨request, session, .ok (coordinator.calledResponse request session candidates),
          coordinator.calledSession request session candidates⟩ =
      .select candidates session.now ::
        (coordinator.dispatchedOf request session candidates).report.outcomes.map fun outcome =>
          .report outcome.engine outcome.health
            (coordinator.calledSession request session candidates).now := by
  have hReports : reportsOf (coordinator.calledResponse request session candidates)
      (coordinator.calledSession request session candidates).now = _ :=
    reportsOf_responseOf (nodup_engine_outcomes built hCandidates)
  simp only [Visit.events, hCandidates, hReports]
  rfl

/-- One request changes the tracker by what its answer tells. -/
theorem tracker_of_handle (built : coordinator.Built)
    (hHandle : coordinator.handle request session = .ok (answer, final)) :
    final.tracker = session.tracker.run (Visit.events coordinator ⟨request, session, answer, final⟩) := by
  cases answer with
  | error error =>
      rw [eq_of_refused hHandle]
      cases hCandidates : coordinator.candidates request <;> simp [Visit.events, hCandidates] <;> rfl
  | ok response =>
      cases answered_of_handle hHandle with
      | served hValid hCandidates hKept =>
          simp only [Visit.events, hCandidates]
          rfl
      | called hValid hCandidates hKept hPermits =>
          rw [events_of_called built hCandidates]
          exact tell_eq_run_reports ..

/-- What a run makes of the tracker can be read off what happened in it. -/
theorem RunsTo.tracker_eq (hRun : RunsTo coordinator start history session) (built : coordinator.Built) :
    session.tracker = start.tracker.run (eventsOf coordinator history) := by
  induction hRun with
  | start => rfl
  | pause length pool _ ih => exact ih
  | ask _ hHandle ih =>
      rw [tracker_of_handle built hHandle, ih, eventsOf, Health.Tracker.run_append]
  | reset _ ih =>
      rw [eventsOf, Health.Tracker.run_append, ← ih]
      rfl

theorem RunsTo.ordered (hRun : RunsTo coordinator start history session) (built : coordinator.Built)
    (hStart : start.tracker.states.Ordered) : session.tracker.states.Ordered := by
  rw [hRun.tracker_eq built]
  exact Health.Tracker.ordered_run hStart _

/-- A run leads up to each request in it and goes on from there. -/
theorem RunsTo.split {later earlier : List (Happening α)} {visit : Visit α}
    (hRun : RunsTo coordinator start (later ++ .asked visit :: earlier) session) :
    RunsTo coordinator start earlier visit.before ∧
    coordinator.handle visit.request visit.before = .ok (visit.answer, visit.after) ∧
    RunsTo coordinator visit.after later session := by
  generalize hHistory : later ++ .asked visit :: earlier = history at hRun
  induction hRun generalizing later with
  | start => simp at hHistory
  | pause length pool _ ih =>
      obtain ⟨hBefore, hHandle, hAfter⟩ := ih hHistory
      exact ⟨hBefore, hHandle, .pause length pool hAfter⟩
  | ask hEarlier hHandle ih =>
      cases later with
      | nil =>
          cases hHistory
          exact ⟨hEarlier, hHandle, .start⟩
      | cons first rest =>
          obtain ⟨rfl, hRest⟩ := List.cons.inj hHistory
          obtain ⟨hBefore, hThere, hAfter⟩ := ih hRest
          exact ⟨hBefore, hThere, .ask hAfter hHandle⟩
  | reset _ ih =>
      cases later with
      | nil => cases hHistory
      | cons first rest =>
          obtain ⟨rfl, hRest⟩ := List.cons.inj hHistory
          obtain ⟨hBefore, hThere, hAfter⟩ := ih hRest
          exact ⟨hBefore, hThere, .reset hAfter⟩

/-- The tracker after a run has lived through the past and the run. -/
theorem Begins.tracker_of_run (hBegins : Begins coordinator policy past start)
    (hRun : RunsTo coordinator start history session) :
    session.tracker = Health.Tracker.run { policy } (past ++ eventsOf coordinator history) := by
  rw [hRun.tracker_eq hBegins.built, hBegins.tracker, Health.Tracker.run_append]

end Metasearch.Coordinator
