import Metasearch.Health.Tracker

/-!
What can happen to a tracker, as data. Every event brings its own instant, which need not be later
than those before it.
-/

namespace Metasearch.Health

/-- Something that changes a tracker. -/
inductive Event where
  | register (engine : EngineId)
  | report (engine : EngineId) (outcome : Outcome) (now : Instant)
  | select (candidates : List EngineId) (now : Instant)
  | reset (engine : EngineId)
  | resetAll
deriving DecidableEq, Repr

/-- The tracker after an event. -/
def Tracker.step (tracker : Tracker) : Event → Tracker
  | .register engine => tracker.register engine
  | .report engine outcome now => tracker.report engine outcome now
  | .select candidates now => (tracker.select now candidates).2
  | .reset engine => tracker.reset engine
  | .resetAll => tracker.resetAll

/-- The tracker after a run of events. -/
def Tracker.run (tracker : Tracker) (events : List Event) : Tracker :=
  events.foldl Tracker.step tracker

end Metasearch.Health
