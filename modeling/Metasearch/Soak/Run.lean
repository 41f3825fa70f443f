import Metasearch.Coordinator.Handle
import Metasearch.Settings.Error
import Metasearch.Soak.Report

/-!
A run of searches one after the other, with a pause between them, that shows how a pool of engines holds
up.
-/

namespace Metasearch.Soak

/-- The queries of a run when none are given. -/
def defaultQueries : List String :=
  ["python programming", "machine learning", "docker containers", "kubernetes deployment",
    "artificial intelligence", "web development", "data science", "cloud computing", "cybersecurity",
    "blockchain technology"]

/-- How a run is made. -/
structure Options where
  searches : Nat := 20
  /-- The pause between two searches. -/
  delay : Duration := .ofSecs 1
  /-- The queries, taken in turn and from the beginning again. -/
  queries : List String := defaultQueries

/-- One search of a run. -/
structure SearchRecord where
  /-- Its place in the run, counted from one. -/
  index : Nat
  query : String
  elapsed : Millis
  outcome : Except SearchError Response

/-- A run that is made, or a part of it. -/
structure Progress (α : Type) where
  report : Report
  /-- The searches so far, in order. -/
  records : List SearchRecord
  session : Session α

/-- The query of the search at an index, counted from zero. -/
def Options.queryAt (options : Options) (index : Nat) : String :=
  options.queries.getD (index % options.queries.length) ""

/-- Make the search at an index, counted from zero. -/
def searchAt {α : Type} [EngineAdapter α] (coordinator : Coordinator) (options : Options)
    (index : Nat) (progress : Progress α) : Except Crash (Progress α) := do
  let query := options.queryAt index
  let started := progress.session.now
  let (outcome, session) ← coordinator.handle { query } progress.session
  let elapsed := session.now - started
  return {
    report := progress.report.record (.ofMillis elapsed) outcome
    records := progress.records ++ [⟨index + 1, query, elapsed, outcome⟩]
    session }

/-- Let the pause pass that follows every search but the last. -/
def rest {α : Type} (options : Options) (remaining : Nat) (progress : Progress α) : Progress α :=
  if remaining = 0 then progress
  else
    let session := { progress.session with now := progress.session.now + options.delay.ticks }
    { progress with session }

/-- Make the `remaining` searches from an index on. -/
def runFrom {α : Type} [EngineAdapter α] (coordinator : Coordinator) (options : Options) :
    Nat → Nat → Progress α → Except Crash (Progress α)
  | 0, _, progress => .ok progress
  | remaining + 1, index, progress => do
    let progress ← searchAt coordinator options index progress
    runFrom coordinator options remaining (index + 1) (rest options remaining progress)

/-- What keeps a run from being begun. -/
def Options.fault? (options : Options) : Option SoakFault :=
  if options.searches = 0 then some .noSearches
  else if options.queries.isEmpty then some .noQueries
  else none

/-- Make a run. A search that is refused counts as failed and does not end the run. -/
def run {α : Type} [EngineAdapter α] (coordinator : Coordinator) (options : Options)
    (session : Session α) : Except Crash (Except SoakFault (Progress α)) :=
  match options.fault? with
  | some fault => .ok (.error fault)
  | none =>
    (runFrom coordinator options options.searches 0 ⟨{}, [], session⟩).map .ok

end Metasearch.Soak
