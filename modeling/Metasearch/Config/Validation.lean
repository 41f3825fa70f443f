import Metasearch.Config.Basic
import Metasearch.Text.Blank

/-!
Which configurations are usable. The checks are made in a fixed order and the first fault is reported.
-/

namespace Metasearch

namespace EngineSettings

/-- The fault of one engine's settings, given the engines registered before it. -/
def fault? (engine : EngineSettings) (seen : List EngineId) : Option ConfigFault :=
  if Text.isBlankText engine.name || Text.isBlankText engine.category then some .blankEngine
  else if !engine.weight.isFinite || engine.weight ≤ 0.0 then some (.weightNotPositive engine.name)
  else if engine.timeoutMs = some 0 then some (.timeoutZeroOf engine.name)
  else if engine.id ∈ seen then some (.registeredTwice engine.name engine.category)
  else none

/-- The first fault in a list of engines. -/
def firstFault? (seen : List EngineId) : List EngineSettings → Option ConfigFault
  | [] => none
  | engine :: rest =>
    match engine.fault? seen with
    | some fault => some fault
    | none => firstFault? (engine.id :: seen) rest

end EngineSettings

namespace SearchConfig

/-- The fault of the limits that are set outside the list of engines. -/
def limitFault? (config : SearchConfig) : Option ConfigFault :=
  if config.engineTimeoutMs = 0 then some .engineTimeoutZero
  else if config.requestTimeoutMs = some 0 then some .requestTimeoutZero
  else if config.resultsPerEngine = 0 then some .resultsPerEngineZero
  else if config.maxResults = some 0 then some .maxResultsZero
  else if config.maxConcurrentEngines = 0 then some .concurrencyZero
  else if config.defaultCategories.isEmpty then some .noDefaultCategories
  else none

/-- Check a configuration: the limits, then the engines in order, then the suspension policy. A list
without engines is usable. -/
def validate (config : SearchConfig) : Except ConfigFault Unit :=
  match config.limitFault? with
  | some fault => .error fault
  | none =>
    match EngineSettings.firstFault? [] config.engines with
    | some fault => .error fault
    | none =>
      match config.suspension.validate with
      | .error (kind, fault) => .error (.suspension kind fault)
      | .ok () => .ok ()

end SearchConfig

end Metasearch
