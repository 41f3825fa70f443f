import Metasearch.Config.Basic
import Metasearch.Text.Blank

/-!
The settings of simulated engines.
-/

namespace Metasearch

/-- How a simulated engine behaves. -/
structure SimulatedEngineConfig where
  name : String := ""
  category : String := defaultCategory
  weight : Float := 1.0
  /-- The least and the greatest time that a call takes. -/
  minLatencyMs : UInt64 := 50
  maxLatencyMs : UInt64 := 400
  /-- The chance that a call fails, and how it does. -/
  failureRate : Float := 0.0
  failureKind : FailureKind := .timeout
  /-- How many hits a call gives. -/
  results : UInt64 := 10
  /-- Seed of the random choices, if they are to be the same in every run. -/
  seed : Option UInt64 := none
deriving BEq

/-- What makes a simulated engine unusable. -/
inductive SimulatedFault where
  | blankName
  | latencyRange (engine : String)
  | failureRate (engine : String)
deriving DecidableEq, Repr

def SimulatedFault.message : SimulatedFault → String
  | blankName => "simulated engine name must not be empty"
  | latencyRange engine => "simulated engine '" ++ engine ++ "': min_latency_ms exceeds max_latency_ms"
  | failureRate engine => "simulated engine '" ++ engine ++ "': failure_rate must be between 0 and 1"

namespace SimulatedEngineConfig

/-- Milliseconds of a duration, held at the greatest 64-bit number. -/
def latencyOf (d : Duration) : UInt64 :=
  UInt64.ofNat (min d.wholeMillis wordMax)

def withLatency (config : SimulatedEngineConfig) (least greatest : Duration) :
    SimulatedEngineConfig :=
  { config with minLatencyMs := latencyOf least, maxLatencyMs := latencyOf greatest }

def withFailures (config : SimulatedEngineConfig) (rate : Float) (kind : FailureKind) :
    SimulatedEngineConfig :=
  { config with failureRate := rate, failureKind := kind }

def id (config : SimulatedEngineConfig) : EngineId :=
  ⟨config.name, config.category⟩

/-- The settings under which the engine is registered. -/
def engineSettings (config : SimulatedEngineConfig) : EngineSettings :=
  { name := config.name, category := config.category, weight := config.weight }

/-- Check that a simulated engine is usable; the first fault is reported. -/
def validate (config : SimulatedEngineConfig) : Except SimulatedFault Unit :=
  if Text.isBlankText config.name then .error .blankName
  else if config.minLatencyMs > config.maxLatencyMs then .error (.latencyRange config.name)
  else if 0.0 ≤ config.failureRate && config.failureRate ≤ 1.0 then .ok ()
  else .error (.failureRate config.name)

end SimulatedEngineConfig

end Metasearch
