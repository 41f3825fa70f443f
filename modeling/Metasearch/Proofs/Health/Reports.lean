import Metasearch.Health.Operation
import Metasearch.Proofs.Health.History
import Metasearch.Proofs.Health.Known

/-! What a tracker reports of its engines, whatever it was asked to do before. No operation makes it forget an
engine, and to look something up makes no engine known. -/
namespace Metasearch.Health

namespace Operation

/-- The engines that an operation makes known. To look up the status or the state of an engine does not. -/
def named : Operation → List EngineId
  | .register engine => [engine]
  | .select candidates _ => candidates
  | .eligible candidates _ => candidates
  | .report engine _ _ => [engine]
  | .reset engine => [engine]
  | .status _ => []
  | .state _ => []
  | .snapshots _ => []
  | .resetAll => []

/-- The events that an operation consists of. -/
def events : Operation → List Event
  | .register engine => [.register engine]
  | .select candidates now => [.select candidates now]
  | .eligible candidates now => [.select candidates now]
  | .report engine outcome now => [.report engine outcome now]
  | .reset engine => [.reset engine]
  | .resetAll => [.resetAll]
  | .status _ => []
  | .state _ => []
  | .snapshots _ => []

theorem mem_named_iff {engine : EngineId} (operation : Operation) :
    engine ∈ operation.named ↔ ∃ event ∈ operation.events, engine ∈ event.named := by
  cases operation <;> simp [named, events, Event.named]

end Operation

namespace EngineState

/-- The numbers of a state fit together: a failure of the present streak is one of all failures, and a failure
is one of all requests. -/
structure Counted (state : EngineState) : Prop where
  streak_le : state.streak ≤ state.totalFailures
  failures_le : state.totalFailures ≤ state.totalRequests

theorem Counted.fresh : Counted {} where
  streak_le := Nat.le_refl 0
  failures_le := Nat.le_refl 0

theorem Counted.refreshed {state : EngineState} (h : state.Counted) (now : Instant) :
    (state.refreshed now).Counted := by
  obtain ⟨status, hStatus⟩ := state.exists_refreshed_eq now
  rw [hStatus]
  exact ⟨h.streak_le, h.failures_le⟩

theorem Counted.after {state : EngineState} (h : state.Counted) (policy : SuspensionPolicy)
    (outcome : Outcome) (now : Instant) : (state.after policy outcome now).Counted := by
  have hStreak := h.streak_le
  have hFailures := h.failures_le
  cases outcome with
  | success => exact ⟨Nat.zero_le _, Nat.le_succ_of_le hFailures⟩
  | failure kind =>
      apply Counted.mk
      · show min (state.streak + 1) maxStreak ≤ state.totalFailures + 1
        omega
      · exact Nat.succ_le_succ hFailures

end EngineState

/-- What remains of a suspension is reported exactly while the engine is held to be suspended. -/
theorem suspendedFor_snapshot_eq_some_iff {now : Instant} {id : EngineId} {state : EngineState}
    {left : Millis} : (Tracker.snapshot now id state).suspendedFor = some left ↔
      ∃ ends, state.status = .suspended ends ∧ (left : Int) = max ((ends : Int) - now) 0 := by
  have hLeft : ∀ a b c : Nat, a - b = c ↔ (c : Int) = max ((a : Int) - b) 0 := by
    intro a b c
    omega
  unfold Tracker.snapshot EngineState.suspendedUntil
  cases hStatus : state.status with
  | healthy => simp
  | suspended ends => simpa using hLeft ends now left

namespace Tracker

variable {tracker : Tracker}

/-- An operation changes a tracker as the events do that it consists of. -/
theorem snd_perform (tracker : Tracker) (operation : Operation) :
    (tracker.perform operation).2 = tracker.run operation.events := by
  cases operation <;> rfl

theorem performAll_eq_run (tracker : Tracker) (operations : List Operation) :
    tracker.performAll operations = tracker.run (operations.flatMap Operation.events) := by
  induction operations generalizing tracker with
  | nil => rfl
  | cons operation rest ih =>
      rw [List.flatMap_cons, run_append, ← snd_perform]
      exact ih (tracker.perform operation).2

/-- A tracker knows the engines that the operations on it have named. -/
theorem mem_known_performAll {policy : SuspensionPolicy} {operations : List Operation} {engine : EngineId} :
    engine ∈ (performAll { policy } operations).known ↔
      ∃ operation ∈ operations, engine ∈ operation.named := by
  have hNew : engine ∉ known { policy } := List.not_mem_nil
  rw [performAll_eq_run, mem_known_run, or_iff_left hNew]
  simp only [Operation.mem_named_iff, List.mem_flatMap]
  constructor
  · rintro ⟨event, ⟨operation, hOperation, hEvent⟩, hEngine⟩
    exact ⟨operation, hOperation, event, hEvent, hEngine⟩
  · rintro ⟨operation, hOperation, event, hEvent, hEngine⟩
    exact ⟨event, ⟨operation, hOperation, hEvent⟩, hEngine⟩

/-- Each known engine is reported with its own state. -/
theorem snapshots_eq_map_known (h : tracker.states.Ordered) (now : Instant) :
    tracker.snapshots now = tracker.known.map fun id => snapshot now id (tracker.stateOf id) := by
  unfold snapshots known
  rw [List.map_map]
  apply List.map_congr_left
  intro entry hMem
  have hFound : tracker.state? entry.1 = some entry.2 := (Entries.Ordered.lookup_eq_some_iff h).mpr hMem
  show snapshot now entry.1 entry.2 = snapshot now entry.1 (tracker.stateOf entry.1)
  rw [stateOf, hFound, Option.getD_some]

theorem map_engine_snapshots (tracker : Tracker) (now : Instant) :
    (tracker.snapshots now).map (·.engine) = tracker.known := by
  unfold snapshots
  rw [List.map_map]
  rfl

/-- What is reported of one engine fits together: it is held to be suspended exactly if a rest is given, which
is what its suspension lasts beyond the instant of the report, and its numbers are in order. -/
structure FitsTogether (tracker : Tracker) (now : Instant) (snapshot : Snapshot) : Prop where
  suspended_iff : snapshot.suspended = true ↔ snapshot.suspendedFor.isSome = true
  suspendedFor_iff : ∀ left, snapshot.suspendedFor = some left ↔
    ∃ ends, tracker.status snapshot.engine = .suspended ends ∧ (left : Int) = max ((ends : Int) - now) 0
  streak_le : snapshot.streak ≤ snapshot.totalFailures
  failures_le : snapshot.totalFailures ≤ snapshot.totalRequests

theorem fitsTogether_snapshot {now : Instant} {id : EngineId} (h : (tracker.stateOf id).Counted) :
    tracker.FitsTogether now (snapshot now id (tracker.stateOf id)) where
  suspended_iff := by simp [snapshot]
  suspendedFor_iff left := by
    rw [suspendedFor_snapshot_eq_some_iff, ← status_eq_status_stateOf]
    rfl
  streak_le := h.streak_le
  failures_le := h.failures_le

/-- However a new tracker was used, it reports the engines that were named by an operation which makes engines
known, and no others, each once and in strictly increasing order, and all that it reports of one engine fits
together. So no operation makes an engine go, and none that only looks something up makes one come. -/
theorem snapshots_list_named_engines (policy : SuspensionPolicy) (operations : List Operation)
    (now : Instant) :
    (∀ engine, engine ∈ ((performAll { policy } operations).snapshots now).map (·.engine) ↔
      ∃ operation ∈ operations, engine ∈ operation.named) ∧
    (((performAll { policy } operations).snapshots now).map (·.engine)).Pairwise (· < ·) ∧
    ∀ snapshot ∈ (performAll { policy } operations).snapshots now,
      (performAll { policy } operations).FitsTogether now snapshot := by
  have hOrdered : (performAll { policy } operations).states.Ordered := by
    rw [performAll_eq_run]
    exact ordered_run (states_nil_ordered policy) _
  refine ⟨?_, ?_, ?_⟩
  · intro engine
    rw [map_engine_snapshots]
    exact mem_known_performAll
  · rw [map_engine_snapshots]
    exact pairwise_known hOrdered
  · intro snapshot hMem
    rw [snapshots_eq_map_known hOrdered, List.mem_map] at hMem
    obtain ⟨id, -, rfl⟩ := hMem
    apply fitsTogether_snapshot
    rw [performAll_eq_run]
    apply stateOf_run_induction .fresh
    · intro state outcome reportedAt h
      exact h.after policy outcome reportedAt
    · intro state given h
      exact h.refreshed given

example : ((performAll {} [.status ⟨"c", "web"⟩, .report ⟨"b", "web"⟩ (.failure .timeout) 0,
    .reset ⟨"a", "web"⟩]).snapshots 2000).map (fun snapshot => (snapshot.engine.name,
      snapshot.suspendedFor)) = [("a", none), ("b", some 3000)] := by
  decide

end Tracker

end Metasearch.Health
