import Metasearch.Crash
import Metasearch.Dispatch.Collection
import Metasearch.Health.Tracker

/-!
Calling several engines at once and collecting one outcome for each. The dispatch as a whole never
fails: what goes wrong with an engine is its outcome.
-/

namespace Metasearch.Dispatch

/-- What came of one engine. -/
structure EngineOutcome where
  engine : EngineId
  result : Except EngineError (List RawHit)
  elapsed : Millis

namespace EngineOutcome

def succeeded (outcome : EngineOutcome) : Bool :=
  outcome.result.isOk

def failureKind (outcome : EngineOutcome) : Option FailureKind :=
  match outcome.result with
  | .ok _ => none
  | .error error => some error.kind

/-- What the outcome says about the health of the engine. -/
def health (outcome : EngineOutcome) : Health.Outcome :=
  match outcome.result with
  | .ok _ => .success
  | .error error => .failure error.kind

end EngineOutcome

/-- The outcomes of a dispatch, one for each target in order. -/
structure Report where
  outcomes : List EngineOutcome
  /-- Whether the deadline broke the dispatch off. -/
  deadlineElapsed : Bool

namespace Report

/-- The first outcome of an engine. -/
def get? (report : Report) (engine : EngineId) : Option EngineOutcome :=
  report.outcomes.find? (·.engine == engine)

/-- The outcomes that are failures. -/
def failed (report : Report) : List EngineOutcome :=
  report.outcomes.filter (!·.succeeded)

end Report

/-- Credit hits to the engine that was called, and keep as many as are wanted. -/
def stamp (limits : Limits) (engine : EngineId) (hits : List RawHit) : List RawHit :=
  let kept := match limits.resultsPerEngine with
    | none => hits
    | some limit => hits.take limit
  kept.map ({ · with engine })

/-- The failure of an engine of which nothing was heard until the end. -/
def silent (cut : Bool) : EngineError :=
  if cut then .timeout "request deadline elapsed" else .connection "engine task aborted"

/-- The outcome of one target, given whether the dispatch was broken off, how long it took and what was
heard of the target. -/
def outcomeOf (limits : Limits) (cut : Bool) (total : Millis) (target : Target)
    (heard : Option Heard) : EngineOutcome :=
  match heard with
  | some heard =>
    ⟨target.engine, heard.result.map (stamp limits target.engine), heard.elapsed⟩
  | none => ⟨target.engine, .error (silent cut), total⟩

/-- The end of a dispatch. -/
def finishOf (limits : Limits) (opened : Instant) (runs : List (Option Run)) : Instant :=
  (collected limits opened runs).clock

/-- The report on the runs of a list of targets. -/
def reportOf (limits : Limits) (opened : Instant) (targets : List Target) (runs : List (Option Run)) :
    Report :=
  let collection := collected limits opened runs
  let total := finishOf limits opened runs - opened
  { outcomes := List.zipWith (outcomeOf limits collection.cut total) targets collection.places
    deadlineElapsed := collection.cut }

/-- Tell a tracker the outcomes of a report, in order and all at one instant. -/
def tell (tracker : Health.Tracker) (report : Report) (now : Instant) : Health.Tracker :=
  report.outcomes.foldl (fun tracker outcome => tracker.report outcome.engine outcome.health now) tracker

/-- What a dispatch leaves behind. -/
structure Dispatched (α : Type) where
  report : Report
  /-- The calls that were made, in target order. -/
  runs : List (Option Run)
  finish : Instant
  tracker : Health.Tracker
  pool : List α

/-- Dispatch a request from an instant on. -/
def run {α : Type} [EngineAdapter α] (limits : Limits) (request : QueryRequest) (opened : Instant)
    (targets : List Target) (tracker : Health.Tracker) (pool : List α) : Dispatched α :=
  let (runs, pool) := schedule limits request opened [] targets pool
  let report := reportOf limits opened targets runs
  let finish := finishOf limits opened runs
  { report, runs, finish, tracker := tell tracker report finish, pool }

/-- The most permits that can be counted. -/
def maxPermits : Nat := UInt64.size / 8 - 1

/-- Whether permits can be counted for a list of targets. Without targets none are needed. -/
def permitsCountable (limits : Limits) (targets : List Target) : Bool :=
  targets.isEmpty || limits.lanes ≤ maxPermits

/-- Dispatch a request, unless its permits cannot be counted. -/
def dispatch {α : Type} [EngineAdapter α] (limits : Limits) (request : QueryRequest)
    (opened : Instant) (targets : List Target) (tracker : Health.Tracker) (pool : List α) :
    Except Crash (Dispatched α) :=
  if permitsCountable limits targets then .ok (run limits request opened targets tracker pool)
  else .error .permitLimit

end Metasearch.Dispatch
