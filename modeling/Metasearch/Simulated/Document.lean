import Metasearch.Engine.Document
import Metasearch.Simulated.Config

/-!
Settings of simulated engines in documents.
-/

namespace Metasearch.SimulatedEngineConfig

open Document

def fieldNames : List String :=
  ["name", "category", "weight", "min_latency_ms", "max_latency_ms", "failure_rate", "failure_kind",
    "results", "seed"]

/-- Read the settings of a simulated engine, of which every field may be absent. -/
def read (source : Source) (v : Value) : Option SimulatedEngineConfig := do
  let fields ← asRecord source fieldNames v
  let usual : SimulatedEngineConfig := {}
  let name ← fields.withDefault "name" usual.name asText
  let category ← fields.withDefault "category" usual.category asText
  let weight ← fields.withDefault "weight" usual.weight asFloat
  let minLatencyMs ← fields.withDefault "min_latency_ms" usual.minLatencyMs asUInt64
  let maxLatencyMs ← fields.withDefault "max_latency_ms" usual.maxLatencyMs asUInt64
  let failureRate ← fields.withDefault "failure_rate" usual.failureRate asFloat
  let failureKind ← fields.withDefault "failure_kind" usual.failureKind (FailureKind.read source)
  let results ← fields.withDefault "results" usual.results asUInt64
  let seed ← fields.optional "seed" asUInt64
  return { name, category, weight, minLatencyMs, maxLatencyMs, failureRate, failureKind, results,
           seed }

def toValue (config : SimulatedEngineConfig) : Value :=
  .table [("name", .text config.name), ("category", .text config.category),
    ("weight", .float config.weight), ("min_latency_ms", ofUInt64 config.minLatencyMs),
    ("max_latency_ms", ofUInt64 config.maxLatencyMs), ("failure_rate", .float config.failureRate),
    ("failure_kind", config.failureKind.toValue), ("results", ofUInt64 config.results),
    ("seed", ofOption ofUInt64 config.seed)]

end Metasearch.SimulatedEngineConfig
