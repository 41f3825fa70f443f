import Metasearch.Engine.Id
import Metasearch.Health.State

/-!
The health of all engines that were ever named, ordered by engine.
-/

namespace Metasearch.Health

/-- An engine that is left out because it is suspended. -/
structure SkippedEngine where
  engine : EngineId
  /-- How long the suspension still lasts. -/
  remaining : Millis
  /-- The failure that brought it about. -/
  lastFailure : Option FailureKind
deriving DecidableEq, Repr

/-- A list of candidates, split by whether they may be called. -/
structure Selection where
  eligible : List EngineId := []
  skipped : List SkippedEngine := []
deriving DecidableEq, Repr

/-- The health of one engine as it is reported. -/
structure Snapshot where
  engine : EngineId
  suspended : Bool
  /-- How long the suspension still lasts. -/
  suspendedFor : Option Millis
  streak : Nat
  lastFailure : Option FailureKind
  totalRequests : Nat
  totalFailures : Nat
deriving DecidableEq, Repr

/-- States by engine, in strictly increasing order of engines. -/
abbrev States := List (EngineId × EngineState)

namespace States

/-- The state of an engine, if it was ever named. -/
def find? (states : States) (id : EngineId) : Option EngineState :=
  states.lookup id

/-- Change the state of an engine. One that was never named starts out fresh. -/
def update (id : EngineId) (change : EngineState → EngineState) : States → States
  | [] => [(id, change {})]
  | (key, state) :: rest =>
    if key = id then (key, change state) :: rest
    else if id < key then (id, change {}) :: (key, state) :: rest
    else (key, state) :: update id change rest

end States

/-- Health of engines under one policy. -/
structure Tracker where
  policy : SuspensionPolicy := {}
  states : States := []
deriving DecidableEq, Repr

namespace Tracker

/-- The state of an engine, if it was ever named. -/
def state? (tracker : Tracker) (id : EngineId) : Option EngineState :=
  tracker.states.find? id

/-- The status of an engine; one that was never named is healthy. -/
def status (tracker : Tracker) (id : EngineId) : Status :=
  match tracker.state? id with
  | some state => state.status
  | none => .healthy

/-- Change the state of one engine. -/
def update (tracker : Tracker) (id : EngineId) (change : EngineState → EngineState) : Tracker :=
  { tracker with states := tracker.states.update id change }

/-- Make an engine known. What is known of it already stays. -/
def register (tracker : Tracker) (id : EngineId) : Tracker :=
  tracker.update id fun state => state

/-- Note what became of a call. -/
def report (tracker : Tracker) (id : EngineId) (outcome : Outcome) (now : Instant) : Tracker :=
  tracker.update id fun state => state.after tracker.policy outcome now

/-- Forget all about an engine but that it exists. -/
def reset (tracker : Tracker) (id : EngineId) : Tracker :=
  tracker.update id fun _ => {}

/-- Forget all about every engine but that it exists. -/
def resetAll (tracker : Tracker) : Tracker :=
  { tracker with states := tracker.states.map fun (id, _) => (id, {}) }

/-- Split candidates by whether they may be called at an instant. A candidate whose suspension is over
is healthy from then on. -/
def select (tracker : Tracker) (now : Instant) : List EngineId → Selection × Tracker
  | [] => ({}, tracker)
  | id :: rest =>
    let state := (tracker.state? id).getD {}
    let (selection, final) := (tracker.update id (·.refreshed now)).select now rest
    if state.mayRun now then ({ selection with eligible := id :: selection.eligible }, final)
    else
      let skipped : SkippedEngine :=
        ⟨id, (state.suspendedUntil.getD now) - now, state.lastFailure⟩
      ({ selection with skipped := skipped :: selection.skipped }, final)

/-- The health of one engine at an instant. -/
def snapshot (now : Instant) (id : EngineId) (state : EngineState) : Snapshot :=
  { engine := id
    suspended := state.suspendedUntil.isSome
    suspendedFor := state.suspendedUntil.map (· - now)
    streak := state.streak
    lastFailure := state.lastFailure
    totalRequests := state.totalRequests
    totalFailures := state.totalFailures }

/-- The health of every engine at an instant, in order. -/
def snapshots (tracker : Tracker) (now : Instant) : List Snapshot :=
  tracker.states.map fun (id, state) => snapshot now id state

end Tracker

end Metasearch.Health
