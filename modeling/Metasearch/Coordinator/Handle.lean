import Metasearch.Coordinator.Basic
import Metasearch.Response

/-!
Answering requests. A request is opened, which reads the health of its candidates and looks into the
cache; then its engines are dispatched; then the outcomes are closed into an answer.
-/

namespace Metasearch

/-- What changes while a coordinator answers requests. -/
structure Session (α : Type) where
  tracker : Health.Tracker
  cache : ResultCache
  /-- The adapters, by number. -/
  pool : List α
  now : Instant

namespace Coordinator

/-- The last second that the clock can tell. -/
def clockSeconds : Nat := UInt64.size / 2 - 1

/-- How long a request may take: the shorter of what it asks for and what is configured. -/
def timeoutOf (config : SearchConfig) (request : QueryRequest) : Option Duration :=
  match request.timeout, config.requestTimeoutMs.map fun ms => Duration.ofMillis ms.toNat with
  | some asked, some limit => some (asked.min limit)
  | some asked, none => some asked
  | none, limit => limit

/-- The instant at which a request is broken off. One that the clock cannot tell never comes. -/
def deadlineOf (config : SearchConfig) (request : QueryRequest) (now : Instant) : Option Instant :=
  (timeoutOf config request).bind fun timeout =>
    if timeout.secs.toNat ≥ clockSeconds then none else some (now + timeout.ticks)

/-- A request whose engines are about to be called. -/
structure Pending where
  request : QueryRequest
  candidates : List EngineId
  selection : Health.Selection
  key : CacheKey
  targets : List Dispatch.Target
  limits : Dispatch.Limits
  opened : Instant

/-- How a request begins: it is refused, answered from the cache, or its engines have to be called. -/
inductive Opening where
  | refused (error : SearchError)
  | served (response : Response)
  | pending (pending : Pending)

/-- The engines to call, with the adapters they are registered with. -/
def targetsOf (coordinator : Coordinator) (engines : List EngineId) : List Dispatch.Target :=
  engines.filterMap fun id =>
    (coordinator.engines.find? (·.id == id)).map fun registration =>
      ⟨registration.id, registration.adapter, registration.timeout⟩

/-- The limits of the dispatch of a request. -/
def limitsOf (coordinator : Coordinator) (request : QueryRequest) (now : Instant) :
    Dispatch.Limits :=
  { concurrency := coordinator.config.maxConcurrentEngines.toNat
    resultsPerEngine := some coordinator.config.resultsPerEngine.toNat
    engineTimeout := coordinator.config.engineTimeoutMs.toNat
    deadline := deadlineOf coordinator.config request now }

/-- The answer that repeats kept results. -/
def servedResponse (request : QueryRequest) (results : List MergedResult) : Response :=
  { query := request, results, skipped := [], failed := [], timings := [], elapsed := 0, cached := true }

/-- Open a request at the present instant of a session. Kept results are served only while every
candidate may be called. -/
def openRequest {α : Type} (coordinator : Coordinator) (request : QueryRequest) (session : Session α) :
    Opening × Session α :=
  match request.validate with
  | .error fault => (.refused (.invalidQuery fault), session)
  | .ok () =>
    match coordinator.candidates request with
    | .error error => (.refused error, session)
    | .ok candidates =>
      let (selection, tracker) := session.tracker.select session.now candidates
      let session := { session with tracker }
      let key := CacheKey.ofRequest request candidates
      let kept := if selection.skipped.isEmpty then session.cache.get? key else none
      match kept with
      | some results => (.served (servedResponse request results), session)
      | none =>
        (.pending
          { request, candidates, selection, key
            targets := coordinator.targetsOf selection.eligible
            limits := coordinator.limitsOf request session.now
            opened := session.now }, session)

/-- The engines of a report that failed. -/
def failuresOf (report : Dispatch.Report) : List EngineFailure :=
  report.outcomes.filterMap fun outcome =>
    match outcome.result with
    | .ok _ => none
    | .error error => some ⟨outcome.engine, error.kind, error.message⟩

/-- The hits of a report, engine by engine. -/
def hitsOf (report : Dispatch.Report) : List (EngineId × List RawHit) :=
  report.outcomes.filterMap fun outcome =>
    match outcome.result with
    | .ok hits => some (outcome.engine, hits)
    | .error _ => none

def timingsOf (report : Dispatch.Report) : List EngineTiming :=
  report.outcomes.map fun outcome => ⟨outcome.engine, outcome.elapsed, outcome.succeeded⟩

/-- The answer that is made of a report. -/
def responseOf (coordinator : Coordinator) (pending : Pending) (report : Dispatch.Report)
    (finish : Instant) : Response :=
  { query := pending.request
    results := coordinator.ranker.merge (hitsOf report)
    skipped := pending.selection.skipped
    failed := failuresOf report
    timings := timingsOf report
    elapsed := finish - pending.opened
    cached := false }

/-- Whether an answer may be kept: every candidate was called and none failed. -/
def isComplete (pending : Pending) (response : Response) : Bool :=
  response.skipped.isEmpty && response.failed.isEmpty &&
    pending.targets.length == pending.candidates.length && !pending.targets.isEmpty

/-- The cache after an answer. -/
def keep (pending : Pending) (response : Response) (cache : ResultCache) : ResultCache :=
  if isComplete pending response then cache.insert pending.key response.results else cache

/-- Answer one request from its beginning to its end. -/
def handle {α : Type} [EngineAdapter α] (coordinator : Coordinator) (request : QueryRequest)
    (session : Session α) : Except Crash (Except SearchError Response × Session α) :=
  match coordinator.openRequest request session with
  | (.refused error, session) => .ok (.error error, session)
  | (.served response, session) => .ok (.ok response, session)
  | (.pending pending, session) =>
    match Dispatch.dispatch pending.limits request pending.opened pending.targets session.tracker
        session.pool with
    | .error crash => .error crash
    | .ok dispatched =>
      let response := coordinator.responseOf pending dispatched.report dispatched.finish
      .ok (.ok response,
        { tracker := dispatched.tracker
          cache := keep pending response session.cache
          pool := dispatched.pool
          now := dispatched.finish })

/-- Forget all health and all kept results. -/
def resetAll {α : Type} (session : Session α) : Session α :=
  { session with tracker := session.tracker.resetAll, cache := session.cache.clear }

end Coordinator

end Metasearch
