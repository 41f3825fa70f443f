import Metasearch.Health.Event
import Metasearch.Proofs.Engine.Order
import Metasearch.Proofs.Entries

/-! The state of one engine among the states of all. The states stay in strictly increasing order of
engines, so each engine has one state, and what happens to a tracker changes the state of an engine only
if it names this engine. -/
namespace Metasearch

namespace Health

namespace States

/-- Each engine comes before all that are listed after it. -/
def Ordered (states : States) : Prop :=
  states.Pairwise fun a b => a.1 < b.1

variable {states : States} {id other : EngineId} (change : EngineState → EngineState)

theorem update_eq_change :
    states.update id change = Entries.change (fun state => change (state.getD {})) id states := by
  induction states with
  | nil => rfl
  | cons first rest ih =>
      obtain ⟨key, state⟩ := first
      simp only [update, Entries.change_cons, ih, Option.getD_some, Option.getD_none]

theorem Ordered.update (h : Ordered states) (id : EngineId) : Ordered (states.update id change) := by
  rw [update_eq_change]
  exact Entries.Ordered.change _ h id

theorem find?_update_self (h : Ordered states) (id : EngineId) :
    (states.update id change).find? id = some (change ((states.find? id).getD {})) := by
  rw [update_eq_change]
  exact Entries.lookup_change_self _ h

theorem find?_update_of_ne (h : other ≠ id) :
    (states.update id change).find? other = states.find? other := by
  rw [update_eq_change]
  exact Entries.lookup_change_of_ne _ h

theorem ordered_map_fresh (h : Ordered states) :
    Ordered (states.map fun entry => (entry.1, ({} : EngineState))) :=
  List.pairwise_map.mpr h

theorem find?_map_fresh (id : EngineId) :
    find? (states.map fun entry => (entry.1, ({} : EngineState))) id =
      (states.find? id).map fun _ => {} := by
  induction states with
  | nil => rfl
  | cons first rest ih =>
      obtain ⟨key, state⟩ := first
      simp only [find?, List.map_cons, List.lookup_cons] at ih ⊢
      split
      · rfl
      · exact ih

end States

theorem EngineState.refreshed_refreshed (state : EngineState) (now : Instant) :
    (state.refreshed now).refreshed now = state.refreshed now := by
  unfold refreshed
  cases hRuns : state.mayRun now with
  | true => simp [mayRun]
  | false => simp [hRuns]

theorem EngineState.mayRun_refreshed (state : EngineState) (now : Instant) :
    (state.refreshed now).mayRun now = state.mayRun now := by
  unfold refreshed
  cases hRuns : state.mayRun now with
  | true => simp [mayRun]
  | false => simp [hRuns]

theorem EngineState.refreshed_of_not_mayRun {state : EngineState} {now : Instant}
    (h : state.mayRun now = false) : state.refreshed now = state := by
  simp [refreshed, h]

namespace Tracker

/-- The state of an engine. One that was never named has a fresh one. -/
def stateOf (tracker : Tracker) (engine : EngineId) : EngineState :=
  (tracker.state? engine).getD {}

variable {tracker : Tracker}

theorem stateOf_update (h : tracker.states.Ordered) (id engine : EngineId)
    (change : EngineState → EngineState) :
    (tracker.update id change).stateOf engine =
      if id = engine then change (tracker.stateOf engine) else tracker.stateOf engine := by
  split
  · rename_i hEq
    subst hEq
    exact congrArg (Option.getD · {}) (States.find?_update_self change h id)
  · rename_i hNe
    exact congrArg (Option.getD · {}) (States.find?_update_of_ne change (Ne.symm hNe))

theorem stateOf_resetAll (tracker : Tracker) (engine : EngineId) :
    tracker.resetAll.stateOf engine = {} := by
  have hFind : tracker.resetAll.state? engine = (tracker.state? engine).map fun _ => {} :=
    States.find?_map_fresh engine
  rw [stateOf, hFind]
  cases tracker.state? engine <;> rfl

variable (now : Instant)

/-- What a selection leaves of a tracker: each candidate has been given its second chance, if it is due. -/
theorem snd_select (tracker : Tracker) (candidates : List EngineId) :
    (tracker.select now candidates).2 =
      candidates.foldl (fun tracker id => tracker.update id (·.refreshed now)) tracker := by
  induction candidates generalizing tracker with
  | nil => rfl
  | cons id rest ih =>
      simp only [select, List.foldl_cons, ← ih]
      split <;> rfl

@[simp] theorem policy_select (tracker : Tracker) (candidates : List EngineId) :
    (tracker.select now candidates).2.policy = tracker.policy := by
  rw [snd_select]
  induction candidates generalizing tracker with
  | nil => rfl
  | cons id rest ih => exact ih (tracker.update id (·.refreshed now))

theorem ordered_select (h : tracker.states.Ordered) (candidates : List EngineId) :
    (tracker.select now candidates).2.states.Ordered := by
  rw [snd_select]
  induction candidates generalizing tracker with
  | nil => exact h
  | cons id rest ih => exact ih (h.update (·.refreshed now) id)

/-- However often a selection names an engine, it gives it one second chance. -/
theorem stateOf_select (h : tracker.states.Ordered) (candidates : List EngineId) (engine : EngineId) :
    (tracker.select now candidates).2.stateOf engine =
      if engine ∈ candidates then (tracker.stateOf engine).refreshed now
      else tracker.stateOf engine := by
  rw [snd_select]
  induction candidates generalizing tracker with
  | nil => simp
  | cons id rest ih =>
      rw [List.foldl_cons, ih (h.update (·.refreshed now) id), stateOf_update h]
      by_cases hId : id = engine
      · subst hId
        simp [EngineState.refreshed_refreshed]
      · simp [hId, Ne.symm hId]

/-- A second chance for one engine does not change which engines may run at that instant. -/
theorem mayRun_update_refreshed (h : tracker.states.Ordered) (id engine : EngineId) :
    ((tracker.update id (·.refreshed now)).stateOf engine).mayRun now =
      (tracker.stateOf engine).mayRun now := by
  rw [stateOf_update h]
  split
  · exact EngineState.mayRun_refreshed _ now
  · rfl

theorem eligible_select (h : tracker.states.Ordered) (candidates : List EngineId) :
    (tracker.select now candidates).1.eligible =
      candidates.filter fun id => (tracker.stateOf id).mayRun now := by
  induction candidates generalizing tracker with
  | nil => rfl
  | cons id rest ih =>
      have hOrdered : (tracker.update id (·.refreshed now)).states.Ordered := h.update _ id
      have hRest := ih hOrdered
      simp only [mayRun_update_refreshed now h] at hRest
      rw [List.filter_cons, ← hRest]
      simp only [select]
      split <;> rename_i hRuns
      · exact (if_pos hRuns).symm
      · exact (if_neg hRuns).symm

/-- How a suspended engine is listed. -/
def skippedOf (tracker : Tracker) (now : Instant) (id : EngineId) : SkippedEngine :=
  ⟨id, ((tracker.stateOf id).suspendedUntil.getD now) - now, (tracker.stateOf id).lastFailure⟩

theorem skipped_select (h : tracker.states.Ordered) (candidates : List EngineId) :
    (tracker.select now candidates).1.skipped =
      (candidates.filter fun id => !(tracker.stateOf id).mayRun now).map (tracker.skippedOf now) := by
  induction candidates generalizing tracker with
  | nil => rfl
  | cons id rest ih =>
      have hOrdered : (tracker.update id (·.refreshed now)).states.Ordered := h.update _ id
      have hRest := ih hOrdered
      simp only [mayRun_update_refreshed now h] at hRest
      have hSame : (rest.filter fun id => !(tracker.stateOf id).mayRun now).map
          ((tracker.update id (·.refreshed now)).skippedOf now) =
          (rest.filter fun id => !(tracker.stateOf id).mayRun now).map (tracker.skippedOf now) := by
        apply List.map_congr_left
        intro other hMem
        have hSuspended : (tracker.stateOf other).mayRun now = false := by
          simpa using (List.mem_filter.mp hMem).2
        have hState : (tracker.update id (·.refreshed now)).stateOf other = tracker.stateOf other := by
          rw [stateOf_update h]
          split
          · exact EngineState.refreshed_of_not_mayRun hSuspended
          · rfl
        simp only [skippedOf, hState]
      rw [hSame] at hRest
      rw [List.filter_cons]
      simp only [select]
      split <;> rename_i hRuns
      · have hMay : (tracker.stateOf id).mayRun now = true := hRuns
        simp [hMay, hRest]
      · have hMayNot : (tracker.stateOf id).mayRun now = false := Bool.eq_false_iff.mpr hRuns
        simp only [hMayNot, hRest]
        rfl

theorem ordered_step (h : tracker.states.Ordered) (event : Event) :
    (tracker.step event).states.Ordered := by
  cases event with
  | register engine => exact h.update _ engine
  | report engine outcome now => exact h.update _ engine
  | select candidates now => exact ordered_select now h candidates
  | reset engine => exact h.update _ engine
  | resetAll => exact States.ordered_map_fresh h

@[simp] theorem policy_step (tracker : Tracker) (event : Event) :
    (tracker.step event).policy = tracker.policy := by
  cases event with
  | select candidates now => exact policy_select now tracker candidates
  | _ => rfl

theorem run_append (tracker : Tracker) (events later : List Event) :
    tracker.run (events ++ later) = (tracker.run events).run later :=
  List.foldl_append

theorem ordered_run (h : tracker.states.Ordered) (events : List Event) :
    (tracker.run events).states.Ordered := by
  induction events generalizing tracker with
  | nil => exact h
  | cons event rest ih => exact ih (ordered_step h event)

@[simp] theorem policy_run (tracker : Tracker) (events : List Event) :
    (tracker.run events).policy = tracker.policy := by
  induction events generalizing tracker with
  | nil => rfl
  | cons event rest ih => exact (ih (tracker.step event)).trans (policy_step tracker event)

end Tracker

end Health

end Metasearch
