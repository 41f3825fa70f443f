import Metasearch.Config.Basic
import Metasearch.Policy.Document

/-!
Search configurations in documents.
-/

namespace Metasearch

open Document

namespace EngineSettings

def fieldNames : List String := ["name", "category", "weight", "timeout_ms", "disabled"]

/-- Read the settings of an engine. All fields but the name may be absent. -/
def read (source : Source) (v : Value) : Option EngineSettings := do
  let fields ← asRecord source fieldNames v
  let name ← fields.required "name" asText
  let category ← fields.withDefault "category" defaultCategory asText
  let weight ← fields.withDefault "weight" 1.0 asFloat
  let timeoutMs ← fields.optional "timeout_ms" asUInt64
  let disabled ← fields.withDefault "disabled" false asBool
  return { name, category, weight, timeoutMs, disabled }

def toValue (engine : EngineSettings) : Value :=
  .table [("name", .text engine.name), ("category", .text engine.category),
    ("weight", .float engine.weight), ("timeout_ms", ofOption ofUInt64 engine.timeoutMs),
    ("disabled", .bool engine.disabled)]

end EngineSettings

namespace SearchConfig

def fieldNames : List String :=
  ["engines", "default_categories", "engine_timeout_ms", "request_timeout_ms", "results_per_engine",
    "max_results", "max_concurrent_engines", "suspension", "cache_ttl_seconds"]

/-- Read a configuration. Every field may be absent; the request timeout, which has a default, is
switched off by null. -/
def read (source : Source) (v : Value) : Option SearchConfig := do
  let fields ← asRecord source fieldNames v
  let usual : SearchConfig := {}
  let engines ← fields.withDefault "engines" usual.engines (asList (EngineSettings.read source))
  let defaultCategories ←
    fields.withDefault "default_categories" usual.defaultCategories (asList asText)
  let engineTimeoutMs ← fields.withDefault "engine_timeout_ms" usual.engineTimeoutMs asUInt64
  let requestTimeoutMs ←
    fields.withDefault "request_timeout_ms" usual.requestTimeoutMs (Fields.orNull asUInt64)
  let resultsPerEngine ← fields.withDefault "results_per_engine" usual.resultsPerEngine asUInt64
  let maxResults ← fields.withDefault "max_results" usual.maxResults (Fields.orNull asUInt64)
  let maxConcurrentEngines ←
    fields.withDefault "max_concurrent_engines" usual.maxConcurrentEngines asUInt64
  let suspension ← fields.withDefault "suspension" usual.suspension (SuspensionPolicy.read source)
  let cacheTtlSeconds ← fields.withDefault "cache_ttl_seconds" usual.cacheTtlSeconds asUInt64
  return { engines, defaultCategories, engineTimeoutMs, requestTimeoutMs, resultsPerEngine,
           maxResults, maxConcurrentEngines, suspension, cacheTtlSeconds }

def toValue (config : SearchConfig) : Value :=
  .table [("engines", .list (config.engines.map EngineSettings.toValue)),
    ("default_categories", .list (config.defaultCategories.map .text)),
    ("engine_timeout_ms", ofUInt64 config.engineTimeoutMs),
    ("request_timeout_ms", ofOption ofUInt64 config.requestTimeoutMs),
    ("results_per_engine", ofUInt64 config.resultsPerEngine),
    ("max_results", ofOption ofUInt64 config.maxResults),
    ("max_concurrent_engines", ofUInt64 config.maxConcurrentEngines),
    ("suspension", config.suspension.toValue),
    ("cache_ttl_seconds", ofUInt64 config.cacheTtlSeconds)]

end SearchConfig

end Metasearch
