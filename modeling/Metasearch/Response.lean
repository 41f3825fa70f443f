import Metasearch.Health.Tracker
import Metasearch.Query.Request
import Metasearch.Result.Basic

/-!
The answer to one search request.
-/

namespace Metasearch

/-- An engine that was called and failed. -/
structure EngineFailure where
  engine : EngineId
  kind : FailureKind
  message : String
deriving DecidableEq, Repr

/-- How long one engine took. -/
structure EngineTiming where
  engine : EngineId
  elapsed : Millis
  succeeded : Bool
deriving DecidableEq, Repr

/-- The answer to a request. It may well be without results when engines were left out or failed. -/
structure Response where
  query : QueryRequest
  results : List MergedResult
  /-- Candidates that were not called because they are suspended. -/
  skipped : List Health.SkippedEngine
  /-- Engines that were called and failed. -/
  failed : List EngineFailure
  /-- All engines that were called. -/
  timings : List EngineTiming
  elapsed : Millis
  /-- Whether the results were kept from an earlier answer. -/
  cached : Bool

namespace Response

def numberOfResults (response : Response) : Nat :=
  response.results.length

/-- Whether any engine was called, now or for the answer that was kept. -/
def enginesAttempted (response : Response) : Bool :=
  !response.timings.isEmpty || response.cached

/-- Why a reader is told that an engine was left out. -/
def skipReason (skipped : Health.SkippedEngine) : String :=
  match skipped.lastFailure with
  | some kind => "suspended: " ++ kind.label
  | none => "suspended"

/-- The engines that gave nothing, by name and with the reason: first those that failed, then those
that were left out. -/
def unresponsive (response : Response) : List (String × String) :=
  response.failed.map (fun failure => (failure.engine.name, failure.kind.label)) ++
    response.skipped.map fun skipped => (skipped.engine.name, skipReason skipped)

def failedIds (response : Response) : List EngineId :=
  response.failed.map (·.engine)

def skippedIds (response : Response) : List EngineId :=
  response.skipped.map (·.engine)

end Response

end Metasearch
