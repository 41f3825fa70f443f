import Metasearch.Config.Validation
import Metasearch.Coordinator.Handle
import Metasearch.Settings.Error
import Metasearch.Simulated.Engine

/-!
Settings: a search configuration and the simulated engines that stand in for real ones.
-/

namespace Metasearch

/-- Everything that is needed to build a coordinator. -/
structure Settings where
  search : SearchConfig := {}
  simulated : List SimulatedEngineConfig := []
deriving BEq

namespace Settings

/-- Whether an engine is listed in the search configuration. -/
def lists (config : SearchConfig) (id : EngineId) : Bool :=
  config.engines.any (·.id == id)

/-- The search configuration with every simulated engine registered. Those that are listed in it already
keep their entry. -/
def searchConfig (settings : Settings) : SearchConfig :=
  let added := settings.simulated.filter fun sim => !lists settings.search sim.id
  { settings.search with
    engines := settings.search.engines ++ added.map SimulatedEngineConfig.engineSettings }

/-- The first fault in a list of simulated engines, given the names before it. -/
def simulatedFault? (seen : List String) : List SimulatedEngineConfig → Option SettingsFault
  | [] => none
  | sim :: rest =>
    match sim.validate with
    | .error fault => some (.simulated fault)
    | .ok () =>
      if sim.name ∈ seen then some (.definedTwice sim.name)
      else simulatedFault? (sim.name :: seen) rest

/-- Check settings: the simulated engines in order, then the search configuration with them. -/
def validate (settings : Settings) : Except AppError Unit :=
  match simulatedFault? [] settings.simulated with
  | some fault => .error (.settings fault)
  | none =>
    match settings.searchConfig.validate with
    | .error fault => .error (.search (.config fault))
    | .ok () => .ok ()

/-- A coordinator over simulated engines, at the beginning of its session. `entropy` gives each engine
that has no seed of its own something to start from. -/
def buildCoordinator (settings : Settings) (entropy : Nat → UInt64) :
    Except Crash (Except AppError (Coordinator × Session SimulatedEngine)) :=
  match settings.validate with
  | .error error => .ok (.error error)
  | .ok () =>
    match Coordinator.build settings.searchConfig (settings.simulated.map (·.name)) with
    | .error crash => .error crash
    | .ok (.error fault, _) => .ok (.error (.search (.config fault)))
    | .ok (.ok coordinator, tracker) =>
      .ok (.ok (coordinator,
        { tracker, cache := coordinator.emptyCache, now := 0
          pool := settings.simulated.zipIdx.map fun (sim, i) => .ofConfig sim (entropy i) }))

/-- An engine of the demonstration with its range of latencies. -/
def demoEngine (name : String) (least greatest : UInt64) : SimulatedEngineConfig :=
  { name, minLatencyMs := least, maxLatencyMs := greatest }

/-- Four simulated engines to try the program with: a quick one, a slow one, one that now and then takes
too long and one that now and then asks for a captcha. -/
def demo : Settings :=
  { simulated :=
      [demoEngine "alpha" 50 250,
        demoEngine "beta" 400 1200,
        (demoEngine "gamma" 100 600).withFailures 0.2 .timeout,
        (demoEngine "delta" 100 400).withFailures 0.1 .captcha] }

end Settings

end Metasearch
