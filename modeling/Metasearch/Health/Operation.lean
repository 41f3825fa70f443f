import Metasearch.Health.Event

/-!
All that a tracker can be asked to do, as data. Some operations only look something up.
-/

namespace Metasearch.Health

/-- Something that a tracker can be asked to do. -/
inductive Operation where
  | register (engine : EngineId)
  | select (candidates : List EngineId) (now : Instant)
  /-- Select, and tell no more than who may be called. -/
  | eligible (candidates : List EngineId) (now : Instant)
  | report (engine : EngineId) (outcome : Outcome) (now : Instant)
  | status (engine : EngineId)
  | state (engine : EngineId)
  | snapshots (now : Instant)
  | reset (engine : EngineId)
  | resetAll
deriving DecidableEq, Repr

/-- What a tracker answers. -/
inductive Answer where
  | done
  | selection (selection : Selection)
  | engines (eligible : List EngineId)
  | status (status : Status)
  | state (state : Option EngineState)
  | snapshots (snapshots : List Snapshot)
deriving DecidableEq, Repr

namespace Tracker

/-- Carry out an operation. A report is answered with the status that it leaves. -/
def perform (tracker : Tracker) : Operation → Answer × Tracker
  | .register engine => (.done, tracker.register engine)
  | .select candidates now =>
    let (selection, final) := tracker.select now candidates
    (.selection selection, final)
  | .eligible candidates now =>
    let (selection, final) := tracker.select now candidates
    (.engines selection.eligible, final)
  | .report engine outcome now =>
    let final := tracker.report engine outcome now
    (.status (final.status engine), final)
  | .status engine => (.status (tracker.status engine), tracker)
  | .state engine => (.state (tracker.state? engine), tracker)
  | .snapshots now => (.snapshots (tracker.snapshots now), tracker)
  | .reset engine => (.done, tracker.reset engine)
  | .resetAll => (.done, tracker.resetAll)

/-- The tracker after a run of operations. -/
def performAll (tracker : Tracker) (operations : List Operation) : Tracker :=
  operations.foldl (fun tracker operation => (tracker.perform operation).2) tracker

end Tracker

end Metasearch.Health
