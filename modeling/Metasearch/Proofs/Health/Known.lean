import Mathlib.Data.List.Induction
import Mathlib.Data.List.Nodup
import Metasearch.Proofs.Health.States

/-! Which engines a tracker knows. An engine is known from the first event that names it, and no event makes
it unknown again. Forgetting the health of all engines leaves nothing of a tracker but its policy and the
engines it knows. -/
namespace Metasearch.Health

/-- The engines that an event names. -/
def Event.named : Event → List EngineId
  | .register engine => [engine]
  | .report engine _ _ => [engine]
  | .select candidates _ => candidates
  | .reset engine => [engine]
  | .resetAll => []

theorem States.mem_map_fst_update {states : States} {id engine : EngineId}
    (change : EngineState → EngineState) :
    engine ∈ (states.update id change).map Prod.fst ↔ engine = id ∨ engine ∈ states.map Prod.fst := by
  rw [update_eq_change]
  exact Entries.mem_map_fst_change _

theorem States.find?_eq_none_iff {states : States} {engine : EngineId} :
    states.find? engine = none ↔ engine ∉ states.map Prod.fst := by
  simp only [find?, List.lookup_eq_none_iff, List.mem_map, bne_iff_ne, not_exists, not_and]
  exact forall₂_congr fun _ _ => ne_comm

/-- An engine that has a state keeps it if the change makes none, and no other gets one. -/
theorem States.update_eq_self {states : States} (h : Ordered states) {id : EngineId} {state : EngineState}
    (hFind : states.find? id = some state) {change : EngineState → EngineState}
    (hSame : change state = state) : states.update id change = states := by
  induction states with
  | nil => cases hFind
  | cons first rest ih =>
      obtain ⟨key, found⟩ := first
      obtain ⟨hFirst, hRest⟩ := List.pairwise_cons.mp h
      rw [find?, List.lookup_cons] at hFind
      simp only [update]
      split
      · rename_i hKey
        subst hKey
        simp only [beq_self_eq_true, Option.some.injEq] at hFind
        rw [hFind, hSame]
      · rename_i hKey
        rw [beq_false_of_ne (Ne.symm hKey)] at hFind
        have hLater : key < id := by
          have hMem : id ∈ rest.map Prod.fst := by
            by_contra hNone
            exact Option.some_ne_none _ (hFind.symm.trans (States.find?_eq_none_iff.mpr hNone))
          obtain ⟨entry, hEntry, rfl⟩ := List.mem_map.mp hMem
          exact hFirst entry hEntry
        rw [if_neg fun hLess => EngineId.lt_irrefl _ (EngineId.lt_trans hLess hLater), ih hRest hFind]

namespace Tracker

/-- The engines that were ever named, in order. -/
def known (tracker : Tracker) : List EngineId :=
  tracker.states.map Prod.fst

variable {tracker : Tracker} {engine : EngineId}

theorem mem_known_update {id : EngineId} (change : EngineState → EngineState) :
    engine ∈ (tracker.update id change).known ↔ engine = id ∨ engine ∈ tracker.known :=
  States.mem_map_fst_update change

theorem mem_known_select (now : Instant) (candidates : List EngineId) :
    engine ∈ (tracker.select now candidates).2.known ↔ engine ∈ candidates ∨ engine ∈ tracker.known := by
  rw [snd_select]
  induction candidates generalizing tracker with
  | nil => simp
  | cons id rest ih =>
      rw [List.foldl_cons, ih, mem_known_update, List.mem_cons]
      exact or_left_comm.trans or_assoc.symm

@[simp] theorem known_resetAll (tracker : Tracker) : tracker.resetAll.known = tracker.known := by
  simp [known, resetAll]

/-- An event makes known the engines that it names, and no others. -/
theorem mem_known_step (event : Event) :
    engine ∈ (tracker.step event).known ↔ engine ∈ event.named ∨ engine ∈ tracker.known := by
  have hOne : ∀ (id : EngineId) (change : EngineState → EngineState),
      engine ∈ (tracker.update id change).known ↔ engine ∈ [id] ∨ engine ∈ tracker.known := by
    intro id change
    rw [mem_known_update, List.mem_singleton]
  cases event with
  | register id => exact hOne id _
  | report id outcome now => exact hOne id _
  | select candidates now => exact mem_known_select now candidates
  | reset id => exact hOne id _
  | resetAll => simp [step, Event.named]

theorem mem_known_run (events : List Event) :
    engine ∈ (tracker.run events).known ↔
      (∃ event ∈ events, engine ∈ event.named) ∨ engine ∈ tracker.known := by
  induction events generalizing tracker with
  | nil => simp [run]
  | cons event rest ih =>
      have hRun : tracker.run (event :: rest) = (tracker.step event).run rest := rfl
      rw [hRun, ih, mem_known_step, List.exists_mem_cons_iff]
      exact or_left_comm.trans or_assoc.symm

theorem state?_of_known (h : engine ∈ tracker.known) :
    tracker.state? engine = some (tracker.stateOf engine) := by
  cases hState : tracker.state? engine with
  | none => exact absurd h (States.find?_eq_none_iff.mp hState)
  | some state => simp [stateOf, hState]

/-- An engine with another state than a fresh one is known. -/
theorem known_of_stateOf_ne (h : tracker.stateOf engine ≠ {}) : engine ∈ tracker.known := by
  by_contra hUnknown
  have hNone : tracker.state? engine = none := States.find?_eq_none_iff.mpr hUnknown
  exact h (by simp [stateOf, hNone])

theorem known_of_not_mayRun {now : Instant} (h : (tracker.stateOf engine).mayRun now = false) :
    engine ∈ tracker.known := by
  refine known_of_stateOf_ne fun hFresh => ?_
  rw [hFresh] at h
  cases h

theorem status_eq_status_stateOf (tracker : Tracker) (engine : EngineId) :
    tracker.status engine = (tracker.stateOf engine).status := by
  unfold status stateOf
  cases tracker.state? engine <;> rfl

/-- What a tracker holds of an engine is whether it knows it and which state it has. -/
theorem state?_congr {other : Tracker} (hKnown : engine ∈ other.known ↔ engine ∈ tracker.known)
    (hState : other.stateOf engine = tracker.stateOf engine) :
    other.state? engine = tracker.state? engine := by
  by_cases h : engine ∈ tracker.known
  · rw [state?_of_known h, state?_of_known (hKnown.mpr h), hState]
  · have hNone : tracker.state? engine = none := States.find?_eq_none_iff.mpr h
    have hOther : other.state? engine = none :=
      States.find?_eq_none_iff.mpr fun hMem => h (hKnown.mp hMem)
    rw [hNone, hOther]

theorem pairwise_known (h : tracker.states.Ordered) : tracker.known.Pairwise (· < ·) :=
  List.pairwise_map.mpr h

/-- Events that name only known engines leave the list of known engines as it was. -/
theorem known_run_of_named (h : tracker.states.Ordered) {events : List Event}
    (hNamed : ∀ event ∈ events, ∀ engine ∈ event.named, engine ∈ tracker.known) :
    (tracker.run events).known = tracker.known := by
  have hMem : ∀ engine, engine ∈ (tracker.run events).known ↔ engine ∈ tracker.known := by
    intro engine
    rw [mem_known_run, or_iff_right_iff_imp]
    rintro ⟨event, hEvent, hEngine⟩
    exact hNamed event hEvent engine hEngine
  have hIncreasing := pairwise_known h
  have hIncreasing' := pairwise_known (ordered_run h events)
  have hDistinct : ∀ {ids : List EngineId}, ids.Pairwise (· < ·) → ids.Nodup := by
    intro ids hIds
    refine hIds.imp ?_
    rintro a _ hLess rfl
    exact EngineId.lt_irrefl a hLess
  have hPerm : ((tracker.run events).known).Perm tracker.known :=
    (List.perm_ext_iff_of_nodup (hDistinct hIncreasing') (hDistinct hIncreasing)).mpr hMem
  -- Both lists are increasing, so the same engines stand in the same order.
  refine hPerm.eq_of_pairwise ?_ hIncreasing' hIncreasing
  intro a b _ _ hLess hGreater
  exact absurd (EngineId.lt_trans hLess hGreater) (EngineId.lt_irrefl a)

/-- To register a known engine changes nothing. -/
theorem register_of_known (h : tracker.states.Ordered) (hKnown : engine ∈ tracker.known) :
    tracker.register engine = tracker :=
  congrArg (Tracker.mk tracker.policy) (States.update_eq_self h (state?_of_known hKnown) rfl)

theorem stateOf_register (h : tracker.states.Ordered) (id engine : EngineId) :
    (tracker.register id).stateOf engine = tracker.stateOf engine := by
  rw [register, stateOf_update h]
  exact ite_self _

theorem stateOf_run_register (h : tracker.states.Ordered) (ids : List EngineId) (engine : EngineId) :
    (tracker.run (ids.map .register)).stateOf engine = tracker.stateOf engine := by
  induction ids generalizing tracker with
  | nil => rfl
  | cons id rest ih => exact (ih (ordered_step h (.register id))).trans (stateOf_register h id engine)

/-- To register engines changes nothing exactly if all of them are known. -/
theorem run_register_eq_self_iff (h : tracker.states.Ordered) (ids : List EngineId) :
    tracker.run (ids.map .register) = tracker ↔ ∀ id ∈ ids, id ∈ tracker.known := by
  constructor
  · intro hSame id hId
    rw [← hSame, mem_known_run]
    exact Or.inl ⟨.register id, List.mem_map_of_mem hId, List.mem_singleton_self id⟩
  · intro hKnown
    induction ids with
    | nil => rfl
    | cons id rest ih =>
        obtain ⟨hId, hRest⟩ := List.forall_mem_cons.mp hKnown
        have hFirst : tracker.step (.register id) = tracker := register_of_known h hId
        calc
          _ = (tracker.step (.register id)).run (rest.map .register) := rfl
          _ = tracker.run (rest.map .register) := by rw [hFirst]
          _ = tracker := ih hRest

/-- A tracker has come to know engines, and nothing else has happened to it: those that are new to it
are healthy as on the first day, and of all others it holds what it held before. -/
structure JoinedBy (tracker final : Tracker) (ids : List EngineId) : Prop where
  policy : final.policy = tracker.policy
  known : ∀ engine, engine ∈ final.known ↔ engine ∈ ids ∨ engine ∈ tracker.known
  fresh : ∀ engine ∈ ids, engine ∉ tracker.known → final.state? engine = some {}
  kept : ∀ engine, engine ∈ tracker.known ∨ engine ∉ ids →
    final.state? engine = tracker.state? engine

theorem joinedBy_run_register (h : tracker.states.Ordered) (ids : List EngineId) :
    tracker.JoinedBy (tracker.run (ids.map .register)) ids := by
  have hKnown : ∀ engine, engine ∈ (tracker.run (ids.map .register)).known ↔
      engine ∈ ids ∨ engine ∈ tracker.known := by
    intro engine
    simp [mem_known_run, Event.named]
  refine ⟨policy_run _ _, hKnown, ?_, ?_⟩
  · intro engine hId hNew
    have hNone : tracker.state? engine = none := States.find?_eq_none_iff.mpr hNew
    rw [state?_of_known ((hKnown engine).mpr (Or.inl hId)), stateOf_run_register h, stateOf, hNone]
    rfl
  · intro engine hOther
    refine state?_congr ((hKnown engine).trans (or_iff_right_iff_imp.mpr fun hId => ?_))
      (stateOf_run_register h ids engine)
    exact hOther.resolve_right (not_not_intro hId)

theorem resetAll_eq (tracker : Tracker) :
    tracker.resetAll = { tracker with states := tracker.known.map (·, {}) } := by
  simp [resetAll, known]

/-- After a reset two trackers with one policy differ in nothing but the engines they know. -/
theorem resetAll_congr {other : Tracker} (hPolicy : other.policy = tracker.policy)
    (hKnown : other.known = tracker.known) : other.resetAll = tracker.resetAll := by
  rw [resetAll_eq, resetAll_eq, hKnown, hPolicy]

/-- A tracker that a reset does not change keeps this property when an engine is registered. -/
theorem resetAll_register (h : tracker.resetAll = tracker) (id : EngineId) :
    (tracker.register id).resetAll = tracker.register id := by
  obtain ⟨policy, states⟩ := tracker
  simp only [resetAll, register, update, Tracker.mk.injEq, true_and] at h ⊢
  induction states with
  | nil => rfl
  | cons first rest ih =>
      obtain ⟨key, state⟩ := first
      obtain ⟨hFirst, hRest⟩ := List.cons.inj h
      simp only [States.update]
      split
      · exact h
      · split
        · exact congrArg _ h
        · rw [List.map_cons, ih hRest]
          exact congrArg (· :: _) hFirst

/-- Registering engines with a new tracker leaves nothing to reset. -/
theorem resetAll_run_register (policy : SuspensionPolicy) (engines : List EngineId) :
    (Tracker.run { policy } (engines.map .register)).resetAll =
      Tracker.run { policy } (engines.map .register) := by
  induction engines using List.reverseRecOn with
  | nil => rfl
  | append_singleton engines id ih =>
      rw [List.map_append, run_append]
      exact resetAll_register ih id

end Tracker

end Metasearch.Health
