import Metasearch.Duration
import Metasearch.Engine.Id
import Metasearch.Policy.Suspension

/-!
The configuration of a search: which engines there are, and the limits of a request.
-/

namespace Metasearch

/-- The category of whatever names none. -/
def defaultCategory : String := "general"

/-- The settings of one engine. -/
structure EngineSettings where
  name : String
  category : String := defaultCategory
  /-- Factor on what the engine contributes to the score of a result. -/
  weight : Float := 1.0
  /-- How long a call may take, if not as long as for the other engines. -/
  timeoutMs : Option UInt64 := none
  /-- An engine that is switched off is never asked. -/
  disabled : Bool := false
deriving BEq

namespace EngineSettings

def id (engine : EngineSettings) : EngineId :=
  ⟨engine.name, engine.category⟩

def timeout (engine : EngineSettings) : Option Millis :=
  engine.timeoutMs.map UInt64.toNat

/-- Set the timeout of an engine. Fractions of a millisecond are dropped, and a duration beyond all
64-bit numbers becomes the greatest of them. -/
def withTimeout (engine : EngineSettings) (timeout : Duration) : EngineSettings :=
  { engine with timeoutMs := some (UInt64.ofNat (min timeout.wholeMillis wordMax)) }

end EngineSettings

/-- The configuration of a search. -/
structure SearchConfig where
  /-- The engines in order of registration, which decides between results of equal score. -/
  engines : List EngineSettings := []
  /-- The categories searched when a request names none. -/
  defaultCategories : List String := [defaultCategory]
  engineTimeoutMs : UInt64 := 3000
  /-- Limit of the whole request. A request may ask for less, never for more. -/
  requestTimeoutMs : Option UInt64 := some 10000
  /-- How many hits of each engine are kept. -/
  resultsPerEngine : UInt64 := 20
  /-- How many merged results are kept; all if not given. -/
  maxResults : Option UInt64 := none
  /-- How many engines are called at once within one request. -/
  maxConcurrentEngines : UInt64 := 16
  suspension : SuspensionPolicy := {}
  /-- How long results may be served again; zero switches the cache off. -/
  cacheTtlSeconds : UInt64 := 0
deriving BEq

/-- What makes a configuration unusable. -/
inductive ConfigFault where
  | engineTimeoutZero
  | requestTimeoutZero
  | resultsPerEngineZero
  | maxResultsZero
  | concurrencyZero
  | noDefaultCategories
  | blankEngine
  | weightNotPositive (engine : String)
  | timeoutZeroOf (engine : String)
  | registeredTwice (engine category : String)
  | suspension (kind : FailureKind) (fault : BackoffFault)
  /-- An engine that is switched on and that nothing can call. -/
  | noAdapter (engine : String)
deriving DecidableEq, Repr

def ConfigFault.message : ConfigFault → String
  | engineTimeoutZero => "engine_timeout_ms must be greater than 0"
  | requestTimeoutZero => "request_timeout_ms must be greater than 0"
  | resultsPerEngineZero => "results_per_engine must be greater than 0"
  | maxResultsZero => "max_results must be greater than 0"
  | concurrencyZero => "max_concurrent_engines must be greater than 0"
  | noDefaultCategories => "default_categories must not be empty"
  | blankEngine => "engine name and category must not be empty"
  | weightNotPositive engine => "engine '" ++ engine ++ "' weight must be a positive number"
  | timeoutZeroOf engine => "engine '" ++ engine ++ "' timeout_ms must be greater than 0"
  | registeredTwice engine category =>
    "engine '" ++ engine ++ "' registered twice in category '" ++ category ++ "'"
  | suspension kind fault => fault.message kind
  | noAdapter engine => "no adapter for engine '" ++ engine ++ "'"

end Metasearch
