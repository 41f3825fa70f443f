import Metasearch.Cache
import Metasearch.Config.Validation
import Metasearch.Crash
import Metasearch.Dispatch.Report
import Metasearch.Error
import Metasearch.Ranking.Merge

/-!
The coordinator: a checked configuration together with the adapters that call its engines.
-/

namespace Metasearch

/-- An engine that is switched on, with the adapter that calls it. -/
structure Registration where
  id : EngineId
  /-- The number of the adapter. -/
  adapter : Nat
  timeout : Option Millis
deriving DecidableEq, Repr

/-- A configuration that is ready for requests. -/
structure Coordinator where
  config : SearchConfig
  /-- The engines that are switched on, in order of registration. -/
  engines : List Registration
  /-- The cache that requests start with; it keeps nothing if its lifetime is zero. -/
  emptyCache : ResultCache

namespace Coordinator

/-- The number of the last adapter of a name. -/
def adapterOf? (names : List String) (name : String) : Option Nat :=
  (names.zipIdx.filter (·.1 == name)).getLast?.map (·.2)

/-- Register engines in order with a tracker, up to the first that has no adapter. -/
def registerAll (names : List String) :
    List EngineSettings → Health.Tracker → Except ConfigFault (List Registration) × Health.Tracker
  | [], tracker => (.ok [], tracker)
  | engine :: rest, tracker =>
    match adapterOf? names engine.name with
    | none => (.error (.noAdapter engine.name), tracker)
    | some adapter =>
      let (registered, tracker) := registerAll names rest (tracker.register engine.id)
      (registered.map (⟨engine.id, adapter, engine.timeout⟩ :: ·), tracker)

/-- Build a coordinator for adapters of the given names that shares a tracker, which keeps its own
suspension policy. The tracker comes back with the engines that were registered, whether the coordinator
could be built or not. -/
def withTracker (config : SearchConfig) (names : List String) (tracker : Health.Tracker) :
    Except Crash (Except ConfigFault Coordinator × Health.Tracker) :=
  match config.validate with
  | .error fault => .ok (.error fault, tracker)
  | .ok () =>
    match registerAll names (config.engines.filter (!·.disabled)) tracker with
    | (.error fault, tracker) => .ok (.error fault, tracker)
    | (.ok engines, tracker) =>
      match ResultCache.ofLifetime config.cacheTtlSeconds.toNat with
      | .error crash => .error crash
      | .ok cache => .ok (.ok ⟨config, engines, cache⟩, tracker)

/-- Build a coordinator with a tracker of its own. -/
def build (config : SearchConfig) (names : List String) :
    Except Crash (Except ConfigFault Coordinator × Health.Tracker) :=
  withTracker config names { policy := config.suspension }

def engineIds (coordinator : Coordinator) : List EngineId :=
  coordinator.engines.map Registration.id

/-- How results are ranked under a configuration. -/
def ranker (coordinator : Coordinator) : Ranking.Ranker :=
  { weights := coordinator.config.engines.map fun engine => (engine.id, engine.weight)
    maxResults := coordinator.config.maxResults.map UInt64.toNat }

/-- The categories that a request asks for, without blanks around them and in lower case; blank ones
name nothing. -/
def wantedCategories (coordinator : Coordinator) (request : QueryRequest) : List String :=
  let asked :=
    if request.categories.isEmpty then coordinator.config.defaultCategories else request.categories
  (asked.map fun category => Text.lower (Text.trim category)).filter (!·.isEmpty)

/-- The engines that are switched on in one of the given categories. -/
def inCategories (coordinator : Coordinator) (categories : List String) : List Registration :=
  coordinator.engines.filter fun engine => categories.contains (Text.lower engine.id.category)

/-- Whether an engine is among the names that a request admits. -/
def admits (request : QueryRequest) (id : EngineId) : Bool :=
  match request.engines with
  | none => true
  | some names => (names.map Text.trim).contains id.name

/-- Sort texts by code points and keep each once. -/
def sortedTexts (texts : List String) : List String :=
  (texts.mergeSort fun a b => decide (a ≤ b)).eraseDups

/-- The engines that may answer a request, in order of registration. It is an error if none is switched
on in the wanted categories, but not if the request admits none of them. -/
def candidates (coordinator : Coordinator) (request : QueryRequest) :
    Except SearchError (List EngineId) :=
  let categories := coordinator.wantedCategories request
  let found := coordinator.inCategories categories
  if found.isEmpty then .error (.noEnginesRegistered (sortedTexts categories))
  else .ok ((found.map Registration.id).filter (admits request))

end Coordinator

end Metasearch
