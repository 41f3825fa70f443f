import Metasearch.Proofs.Dispatch.Concurrency

/-! The adapters that a dispatch calls. They are those of the targets that get a permit before the deadline,
and no other adapter is changed. A target that gets none has an outcome all the same: it is reported to
have timed out at the deadline, like one whose call was broken off. -/
namespace Metasearch.Dispatch

/-- The targets whose adapters were called, given the runs of all. -/
def calledTargets (targets : List Target) (runs : List (Option Run)) : List Target :=
  (targets.zip runs).filterMap fun (target, made) => made.map fun _ => target

theorem mem_calledTargets {targets : List Target} {runs : List (Option Run)} {target : Target} :
    target ∈ calledTargets targets runs ↔
      ∃ (place : Nat) (made : Run), targets[place]? = some target ∧ runs[place]? = some (some made) := by
  simp only [calledTargets, List.mem_filterMap, Option.map_eq_some_iff]
  constructor
  · rintro ⟨⟨called, _⟩, hMem, made, rfl, rfl⟩
    obtain ⟨place, hPlace⟩ := List.mem_iff_getElem?.mp hMem
    exact ⟨place, made, List.getElem?_zip_eq_some.mp hPlace⟩
  · rintro ⟨place, made, hTarget, hMade⟩
    exact ⟨(target, some made),
      List.mem_of_getElem? (List.getElem?_zip_eq_some.mpr ⟨hTarget, hMade⟩), made, rfl, rfl⟩

theorem calledTargets_of_none (targets : List Target) :
    calledTargets targets (targets.map fun _ => none) = [] := by
  induction targets with
  | nil => rfl
  | cons target rest ih => exact ih

variable {α : Type} [EngineAdapter α]

/-- The adapters after the calls of targets, one after the other. -/
def poolAfter (request : QueryRequest) (targets : List Target) (pool : List α) : List α :=
  targets.foldl (fun pool target => (callAt request pool target.adapter).2) pool

/-- A schedule leaves the adapters as the calls that it makes leave them. -/
theorem snd_schedule (limits : Limits) (request : QueryRequest) (opened : Instant)
    (held : List Instant) (targets : List Target) (pool : List α) :
    (schedule limits request opened held targets pool).2 =
      poolAfter request
        (calledTargets targets (schedule limits request opened held targets pool).1) pool := by
  induction targets generalizing held pool with
  | nil => rfl
  | cons target rest ih =>
      cases hBefore : limits.before (nextStart opened limits.lanes held).1 with
      | true =>
          simp only [schedule, hBefore, if_true, ih]
          rfl
      | false =>
          have hRuns : schedule limits request opened held (target :: rest) pool =
              ((target :: rest).map fun _ => none, pool) := by
            simp [schedule, hBefore]
          rw [hRuns, calledTargets_of_none]
          rfl

variable (limits : Limits) (request : QueryRequest) (opened : Instant) (targets : List Target)
  (pool : List α) (tracker : Health.Tracker)

theorem pool_run :
    (run limits request opened targets tracker pool).pool =
      poolAfter request
        (calledTargets targets (run limits request opened targets tracker pool).runs) pool :=
  snd_schedule limits request opened [] targets pool

/-- Each target has its call, which is made if it would begin before the deadline. -/
theorem exists_call_of_target {place : Nat} {target : Target} (hTarget : targets[place]? = some target) :
    ∃ call start, (callsOf request targets pool)[place]? = some call ∧
      (run limits request opened targets tracker pool).runs[place]? =
        some ((Run.ofCall start call (limits.timeoutOf target)).beforeDeadline limits) := by
  obtain ⟨call, free, hCall, hFree, hRun⟩ :=
    exists_freeRun_of_target limits request opened targets pool hTarget
  refine ⟨call, free.start, hCall, ?_⟩
  refine (congrArg (·[place]?) (schedule_eq_freeRuns limits request opened targets pool)).trans ?_
  rw [List.getElem?_map, hFree, ← hRun]
  rfl

/-- Whether a call is made is known of every target. -/
theorem exists_made_of_target {place : Nat} {target : Target} (hTarget : targets[place]? = some target) :
    ∃ made, (run limits request opened targets tracker pool).runs[place]? = some made := by
  obtain ⟨call, start, -, hMade⟩ :=
    exists_call_of_target limits request opened targets pool tracker hTarget
  exact ⟨_, hMade⟩

/-- What a dispatch reports of a target, from the run of this target that it leaves behind. -/
theorem getElem?_outcomes_of_made {place : Nat} {target : Target} {made : Option Run}
    (hTarget : targets[place]? = some target)
    (hMade : (run limits request opened targets tracker pool).runs[place]? = some made) :
    (run limits request opened targets tracker pool).report.outcomes[place]? =
      some (outcomeOf limits
        (run limits request opened targets tracker pool).report.deadlineElapsed
        ((run limits request opened targets tracker pool).finish - opened) target
        (heardInTime limits made)) := by
  obtain ⟨free, hFree, rfl⟩ := exists_freeRun_of_getElem?_runs limits request opened targets pool tracker
    hMade
  rw [heardInTime_beforeDeadline limits (start_le_finish (List.mem_of_getElem? hFree))]
  exact getElem?_outcomes_run limits request opened targets pool tracker hTarget hFree

/-- The deadline breaks a dispatch off exactly if some target is outstanding then. -/
theorem deadlineElapsed_run_iff :
    (run limits request opened targets tracker pool).report.deadlineElapsed = true ↔
      ∃ made ∈ (run limits request opened targets tracker pool).runs, outstanding limits made = true := by
  rw [← List.any_eq_true, ← Bool.eq_iff_iff]
  exact cut_collected limits opened _

variable {limits request opened targets pool tracker}

/-- A target without a call is reported to have timed out at the deadline, which breaks the dispatch
off. -/
theorem outcome_of_not_made {place : Nat} {target : Target} (hTarget : targets[place]? = some target)
    (hNone : (run limits request opened targets tracker pool).runs[place]? = some none) :
    (run limits request opened targets tracker pool).report.deadlineElapsed = true ∧
    (run limits request opened targets tracker pool).report.outcomes[place]? =
      some ⟨target.engine, .error (.timeout "request deadline elapsed"),
        (run limits request opened targets tracker pool).finish - opened⟩ := by
  have hCut := (deadlineElapsed_run_iff limits request opened targets pool tracker).mpr
    ⟨none, List.mem_of_getElem? hNone, rfl⟩
  refine ⟨hCut, ?_⟩
  rw [getElem?_outcomes_of_made limits request opened targets pool tracker hTarget hNone, hCut]
  rfl

/-- A target goes without a call only if there are more targets than permits, unless the deadline was
over before the dispatch opened. -/
theorem lanes_lt_of_not_made {place : Nat}
    (hNone : (run limits request opened targets tracker pool).runs[place]? = some none)
    (hOpened : limits.before opened = true) : limits.lanes < targets.length := by
  have hBusy := inProgress_run_of_waitsAt limits request opened targets pool tracker hNone (le_refl _)
    hOpened
  have hLength : (run limits request opened targets tracker pool).runs.length = targets.length := by
    refine (congrArg List.length (schedule_eq_freeRuns limits request opened targets pool)).trans ?_
    rw [List.length_map, length_freeRuns]
  -- The target that waits is not among the calls in progress.
  rw [← hBusy, ← hLength]
  refine List.countP_lt_length_iff.mpr ⟨none, List.mem_of_getElem? hNone, ?_⟩
  simp

/-- Every outcome is one of a target. -/
theorem exists_target_of_outcome {place : Nat} {outcome : EngineOutcome}
    (hOutcome : (run limits request opened targets tracker pool).report.outcomes[place]? = some outcome) :
    ∃ target, targets[place]? = some target ∧ target.engine = outcome.engine := by
  have hEngines := congrArg (·[place]?) (map_engine_outcomes_run limits request opened targets pool tracker)
  simp only [List.getElem?_map, hOutcome, Option.map_some] at hEngines
  exact Option.map_eq_some_iff.mp hEngines.symm

/-- Every outcome is one of a target whose adapter was called, or of one that waited for a permit until
the deadline. -/
theorem called_or_waited {outcome : EngineOutcome}
    (hOutcome : outcome ∈ (run limits request opened targets tracker pool).report.outcomes) :
    (∃ target ∈ calledTargets targets (run limits request opened targets tracker pool).runs,
      target.engine = outcome.engine) ∨
    (outcome.result = .error (.timeout "request deadline elapsed") ∧
      (run limits request opened targets tracker pool).report.deadlineElapsed = true ∧
      (limits.before opened = true → limits.lanes < targets.length)) := by
  obtain ⟨place, hPlace⟩ := List.mem_iff_getElem?.mp hOutcome
  obtain ⟨target, hTarget, hEngine⟩ := exists_target_of_outcome hPlace
  obtain ⟨made, hMade⟩ := exists_made_of_target limits request opened targets pool tracker hTarget
  cases made with
  | some call => exact Or.inl ⟨target, mem_calledTargets.mpr ⟨place, call, hTarget, hMade⟩, hEngine⟩
  | none =>
      obtain ⟨hCut, hTimedOut⟩ := outcome_of_not_made hTarget hMade
      cases hTimedOut.symm.trans hPlace
      exact Or.inr ⟨rfl, hCut, lanes_lt_of_not_made hMade⟩

end Metasearch.Dispatch
