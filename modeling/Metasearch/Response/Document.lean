import Metasearch.Health.Document
import Metasearch.Query.Document
import Metasearch.Response
import Metasearch.Result.Document

/-!
Answers in documents.
-/

namespace Metasearch

open Document

def EngineFailure.toValue (failure : EngineFailure) : Value :=
  .table [("engine", failure.engine.toValue), ("kind", failure.kind.toValue),
    ("message", .text failure.message)]

def EngineTiming.toValue (timing : EngineTiming) : Value :=
  .table [("engine", timing.engine.toValue), ("elapsed", Health.ofMillis timing.elapsed),
    ("succeeded", .bool timing.succeeded)]

def Response.toValue (response : Response) : Value :=
  .table [("query", response.query.toValue),
    ("results", .list (response.results.map MergedResult.toValue)),
    ("skipped_engines", .list (response.skipped.map Health.SkippedEngine.toValue)),
    ("failed_engines", .list (response.failed.map EngineFailure.toValue)),
    ("timings", .list (response.timings.map EngineTiming.toValue)),
    ("elapsed", Health.ofMillis response.elapsed),
    ("cached", .bool response.cached)]

end Metasearch
