import Metasearch.Crash
import Metasearch.Engine.Adapter
import Metasearch.Random.Draw
import Metasearch.Simulated.Config
import Metasearch.Text.Case

/-!
Engines that behave like remote ones without a network. A call takes a random time, fails with a given
chance, and otherwise gives hits made up from the query. The first half of the hits is shared by all
simulated engines, so that there is something to merge.
-/

namespace Metasearch

/-- A simulated engine with its random stream. -/
structure SimulatedEngine where
  config : SimulatedEngineConfig
  random : Random.Stream

namespace SimulatedEngine

/-- A fresh engine. Without a seed of its own it takes the one given. -/
def ofConfig (config : SimulatedEngineConfig) (entropy : UInt64) : SimulatedEngine :=
  { config, random := .ofSeed (config.seed.getD entropy) }

/-- The words of a query in lower case, joined by hyphens. Whatever is neither letter nor number
separates words. -/
def slug (query : String) : String :=
  let words := Text.runsBetween (fun c => !Text.isAlphanumeric c) query.toList
  String.ofList (Text.joinWith ['-'] (words.map Text.lowerChars))

/-- The number of hits whose URLs all engines share. -/
def sharedCount (results : Nat) : Nat := results / 2

/-- The URL of the `i`-th hit, counted from one. -/
def hitUrl (engine slug : String) (shared i : Nat) : String :=
  if i ≤ shared then "https://shared-" ++ toString i ++ ".example.org/" ++ slug
  else "https://" ++ engine ++ ".example.com/" ++ slug ++ "/" ++ toString i

/-- The `i`-th hit for a query, counted from one. -/
def hitAt (config : SimulatedEngineConfig) (query slug : String) (i : Nat) : RawHit :=
  { url := hitUrl config.name slug (sharedCount config.results.toNat) i
    title := query ++ " result " ++ toString i
    snippet := "Simulated result " ++ toString i ++ " from " ++ config.name ++ " for \"" ++ query ++ "\""
    engine := config.id
    rank := UInt32.ofNat (min i (UInt32.size - 1)) }

/-- The hits for a query, in order of rank. -/
def hitsFor (config : SimulatedEngineConfig) (query : String) : List RawHit :=
  let slug := slug query
  (List.range config.results.toNat).map fun i => hitAt config query slug (i + 1)

/-- The chance of failure, held between never and always. -/
def heldRate (rate : Float) : Float :=
  if rate < 0.0 then 0.0 else if rate > 1.0 then 1.0 else rate

/-- Draw how long a call takes and whether it fails. An empty range of times and a rate that is no
number break the call; in the second case the time was drawn already. -/
def roll (engine : SimulatedEngine) : Except Crash (Millis × Bool) × SimulatedEngine :=
  let config := engine.config
  if config.minLatencyMs > config.maxLatencyMs then (.error .emptyLatencyRange, engine)
  else
    let (latency, random) := engine.random.between config.minLatencyMs config.maxLatencyMs
    if config.failureRate.isNaN then (.error .undefinedFailureRate, { engine with random })
    else
      let (fails, random) := random.chance (heldRate config.failureRate)
      (.ok (latency.toNat, fails), { engine with random })

/-- The failure of a call that was drawn to fail. -/
def simulatedFailure (kind : FailureKind) : EngineError :=
  ⟨kind, "simulated " ++ kind.label⟩

/-- One search: how long it takes and what it gives. -/
def search (engine : SimulatedEngine) (query : String) :
    Except Crash (Millis × Except EngineError (List RawHit)) × SimulatedEngine :=
  match engine.roll with
  | (.error crash, engine) => (.error crash, engine)
  | (.ok (latency, true), engine) =>
    (.ok (latency, .error (simulatedFailure engine.config.failureKind)), engine)
  | (.ok (latency, false), engine) => (.ok (latency, .ok (hitsFor engine.config query)), engine)

instance : EngineAdapter SimulatedEngine where
  call request engine :=
    match engine.search request.query with
    | (.error _, engine) => (⟨0, .panic⟩, engine)
    | (.ok (latency, .error error), engine) => (⟨latency, .fail error⟩, engine)
    | (.ok (latency, .ok hits), engine) => (⟨latency, .answer hits⟩, engine)

end SimulatedEngine

end Metasearch
