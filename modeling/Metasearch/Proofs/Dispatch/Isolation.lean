import Metasearch.Proofs.Dispatch.Deadline

/-! Targets do not disturb each other. They share the permits, so one target can make another one begin
later, but what comes of a call is settled by the call itself and by the time it may take, counted from
its own start. -/
namespace Metasearch.Dispatch

/-- What a call makes of its target when it neither takes the task down nor is broken off. -/
inductive OwnOutcome (limits : Limits) (target : Target) (call : Call) : EngineOutcome → Prop where
  | answered {hits : List RawHit} (hEnding : call.ending = .answer hits)
      (hInTime : call.delay ≤ limits.timeoutOf target) :
      OwnOutcome limits target call
        ⟨target.engine, .ok (stamp limits target.engine hits), call.delay⟩
  | failed {error : EngineError} (hEnding : call.ending = .fail error)
      (hInTime : call.delay ≤ limits.timeoutOf target) :
      OwnOutcome limits target call ⟨target.engine, .error error, call.delay⟩
  | panicked (hEnding : call.ending = .panic) (hInTime : call.delay ≤ limits.timeoutOf target) :
      OwnOutcome limits target call
        ⟨target.engine, .error (.malformed "adapter panicked"), call.delay⟩
  | tookTooLong (hLong : call.ending = .hang ∨ limits.timeoutOf target < call.delay) :
      OwnOutcome limits target call
        ⟨target.engine, .error (timedOut (limits.timeoutOf target)), limits.timeoutOf target⟩

namespace OwnOutcome

variable {limits other : Limits} {target : Target} {call : Call} {outcome : EngineOutcome}

/-- A call has no more than one outcome of its own. -/
theorem unique (h : OwnOutcome limits target call outcome) {again : EngineOutcome}
    (hAgain : OwnOutcome limits target call again) : again = outcome := by
  -- The endings exclude each other, and so do an end in time and one that comes too late.
  cases h <;> cases hAgain <;> grind

/-- Of the limits only the timeout of the target and the number of hits that are kept matter. -/
theorem of_limits (h : OwnOutcome limits target call outcome)
    (hTimeout : other.timeoutOf target = limits.timeoutOf target)
    (hKept : other.resultsPerEngine = limits.resultsPerEngine) :
    OwnOutcome other target call outcome := by
  have hStamp : stamp limits = stamp other := by
    unfold stamp
    rw [hKept]
  cases h with
  | answered hEnding hInTime =>
      rw [hStamp]
      exact answered hEnding (hTimeout ▸ hInTime)
  | failed hEnding hInTime => exact failed hEnding (hTimeout ▸ hInTime)
  | panicked hEnding hInTime => exact panicked hEnding (hTimeout ▸ hInTime)
  | tookTooLong hLong =>
      rw [← hTimeout] at hLong ⊢
      exact tookTooLong hLong

end OwnOutcome

/-- A call that does not take its task down in time tells its own outcome. -/
theorem exists_heard_ownOutcome (limits : Limits) (target : Target) (start : Instant) {call : Call}
    (hAlive : call.ending = .abort → limits.timeoutOf target < call.delay) :
    ∃ heard, (Run.ofCall start call (limits.timeoutOf target)).heard = some heard ∧
      OwnOutcome limits target call
        ⟨target.engine, heard.result.map (stamp limits target.engine), heard.elapsed⟩ := by
  by_cases hInTime : call.delay ≤ limits.timeoutOf target
  · cases hEnding : call.ending with
    | answer hits =>
        refine ⟨⟨.ok hits, call.delay⟩, ?_, .answered hEnding hInTime⟩
        simp [Run.heard, Run.ofCall, settle, hInTime, hEnding]
    | fail error =>
        refine ⟨⟨.error error, call.delay⟩, ?_, .failed hEnding hInTime⟩
        simp [Run.heard, Run.ofCall, settle, hInTime, hEnding]
    | panic =>
        refine ⟨⟨.error (.malformed "adapter panicked"), call.delay⟩, ?_, .panicked hEnding hInTime⟩
        simp [Run.heard, Run.ofCall, settle, hInTime, hEnding]
    | hang =>
        refine ⟨⟨.error (timedOut _), limits.timeoutOf target⟩, ?_, .tookTooLong (Or.inl hEnding)⟩
        simp [Run.heard, Run.ofCall, settle, hInTime, hEnding]
    | abort => exact absurd (hAlive hEnding) (Nat.not_lt.mpr hInTime)
  · refine ⟨⟨.error (timedOut _), limits.timeoutOf target⟩, ?_,
      .tookTooLong (Or.inr (Nat.lt_of_not_le hInTime))⟩
    simp [Run.heard, Run.ofCall, settle, hInTime]

variable {α : Type} [EngineAdapter α] (request : QueryRequest)

theorem fst_callAt {pool : List α} {i : Nat} {engine : α} (h : pool[i]? = some engine) :
    (callAt request pool i).1 = (EngineAdapter.call request engine).1 := by
  simp [callAt, h]

theorem getElem?_callAt_of_ne (pool : List α) {i j : Nat} (h : i ≠ j) :
    (callAt request pool i).2[j]? = pool[j]? := by
  unfold callAt
  cases pool[i]? with
  | none => rfl
  | some engine => exact List.getElem?_set_ne h

/-- A target with an adapter of its own makes the call that the adapter makes at first. -/
theorem getElem?_callsOf {targets : List Target} (hOwn : (targets.map (·.adapter)).Nodup)
    {pool : List α} {place : Nat} {target : Target} {engine : α}
    (hTarget : targets[place]? = some target) (hEngine : pool[target.adapter]? = some engine) :
    (callsOf request targets pool)[place]? = some (EngineAdapter.call request engine).1 := by
  induction targets generalizing pool place with
  | nil => simp at hTarget
  | cons first rest ih =>
      rw [List.map_cons, List.nodup_cons] at hOwn
      cases place with
      | zero =>
          cases hTarget
          exact congrArg some (fst_callAt request hEngine)
      | succ place =>
          -- The call of the first target moves its own adapter on and leaves all others where they were.
          have hOther : first.adapter ≠ target.adapter := fun hEq =>
            hOwn.1 (hEq ▸ List.mem_map_of_mem (List.mem_of_getElem? hTarget))
          apply ih hOwn.2 hTarget
          rw [getElem?_callAt_of_ne request pool hOther, hEngine]

/-- In a dispatch without a deadline a target with an adapter of its own has its own outcome. The instant
at which its call begins depends on the other targets, but the outcome does not mention it. -/
theorem exists_ownOutcome_of_own (limits : Limits) (hFree : limits.deadline = none) (opened : Instant)
    {targets : List Target} (tracker : Health.Tracker) {pool : List α}
    (hOwn : (targets.map (·.adapter)).Nodup) {place : Nat} {target : Target} {engine : α}
    (hTarget : targets[place]? = some target) (hEngine : pool[target.adapter]? = some engine)
    (hAlive : (EngineAdapter.call request engine).1.ending = .abort →
      limits.timeoutOf target < (EngineAdapter.call request engine).1.delay) :
    ∃ outcome, (run limits request opened targets tracker pool).report.outcomes[place]? = some outcome ∧
      OwnOutcome limits target (EngineAdapter.call request engine).1 outcome := by
  obtain ⟨call, made, hCall, hMade, hRun⟩ :=
    exists_freeRun_of_target limits request opened targets pool hTarget
  rw [getElem?_callsOf request hOwn hTarget hEngine] at hCall
  obtain rfl : _ = call := Option.some.inj hCall
  obtain ⟨heard, hHeard, hOutcome⟩ := exists_heard_ownOutcome limits target made.start hAlive
  rw [← hRun] at hHeard
  have hTimely : limits.before made.finish = true := by simp [Limits.before, hFree]
  exact ⟨_, getElem?_outcomes_run_of_heard limits request opened targets pool tracker hTarget hMade
    hHeard hTimely, hOutcome⟩

variable (limits : Limits) (opened : Instant) {targets : List Target} (tracker : Health.Tracker)
  (pool : List α)

/-- Of a dispatch without a deadline, whose targets have an adapter each, every target that does not lose
its task has the outcome of its own call. It has the same outcome in every other such dispatch in which
its adapter stands as it does here and its call may take as long: the other targets, their adapters and
timeouts, the number of permits, the instant and the tracker may all be different. Only if the permits
cannot be counted is there no outcome at all. -/
theorem dispatch_isolates_targets (hOwn : (targets.map (·.adapter)).Nodup) {place : Nat}
    {target : Target} {engine : α} (hTarget : targets[place]? = some target)
    (hEngine : pool[target.adapter]? = some engine)
    (hAlive : (EngineAdapter.call request engine).1.ending = .abort →
      limits.timeoutOf target < (EngineAdapter.call request engine).1.delay) :
    (permitsCountable limits targets = true → ∃ done outcome,
      dispatch (limits.withDeadline none) request opened targets tracker pool = .ok done ∧
      done.report.outcomes[place]? = some outcome ∧
      OwnOutcome limits target (EngineAdapter.call request engine).1 outcome ∧
      ∀ (other : Limits) (later : Instant) (others : List Target) (otherTracker : Health.Tracker)
        (otherPool : List α),
        other.timeoutOf target = limits.timeoutOf target →
        other.resultsPerEngine = limits.resultsPerEngine →
        permitsCountable other others = true →
        (others.map (·.adapter)).Nodup →
        others[place]? = some target →
        otherPool[target.adapter]? = some engine →
        ∃ replaced,
          dispatch (other.withDeadline none) request later others otherTracker otherPool =
            .ok replaced ∧
          replaced.report.outcomes[place]? = some outcome) ∧
    (permitsCountable limits targets = false →
      dispatch (limits.withDeadline none) request opened targets tracker pool =
        .error .permitLimit) := by
  constructor
  · intro hPermits
    obtain ⟨outcome, hPlace, hOutcome⟩ := exists_ownOutcome_of_own request
      (limits.withDeadline none) rfl opened tracker hOwn hTarget hEngine hAlive
    refine ⟨_, outcome, dispatch_eq_ok _ _ _ _ _ _ hPermits, hPlace, hOutcome.of_limits rfl rfl, ?_⟩
    intro other later others otherTracker otherPool hTimeout hKept hOtherPermits hOtherOwn hOtherTarget
      hOtherEngine
    obtain ⟨again, hOtherPlace, hAgain⟩ := exists_ownOutcome_of_own request
      (other.withDeadline none) rfl later otherTracker hOtherOwn hOtherTarget hOtherEngine
      (fun hAbort => lt_of_eq_of_lt hTimeout (hAlive hAbort))
    refine ⟨_, dispatch_eq_ok _ _ _ _ _ _ hOtherPermits, ?_⟩
    rw [hOtherPlace, hOutcome.unique (hAgain.of_limits hTimeout.symm hKept.symm)]
  · intro hPermits
    exact dispatch_eq_error _ _ _ _ _ _ hPermits

/-- Of the neighbours of the second adapter of `slowPool` one now takes its call down with it, one
panics and one hangs. -/
def stormyPool : List Script :=
  [{ behaviours := [⟨5, .fixed .abort⟩] }, { behaviours := [⟨50, .echo⟩] },
    { behaviours := [⟨3, .fixed .panic⟩] }, { behaviours := [⟨0, .fixed .hang⟩] }]

/-- The second target has the same outcome among both sorts of neighbours, although with one permit it
has to wait for the task that is lost. -/
theorem dispatch_isolates_among_stormy_neighbours :
    (queuedTargets.map (·.adapter)).Nodup ∧
    permitsCountable { pairedLimits with concurrency := 1 } queuedTargets = true ∧
    ∃ done replaced : Dispatched Script, ∃ outcome,
      dispatch (pairedLimits.withDeadline none) { query := "x" } 7 queuedTargets {} slowPool =
        .ok done ∧
      dispatch (Limits.withDeadline { pairedLimits with concurrency := 1 } none) { query := "x" } 9
        queuedTargets {} stormyPool = .ok replaced ∧
      OwnOutcome pairedLimits ⟨⟨"b", "web"⟩, 1, none⟩
        ⟨50, .answer [Behaviour.echoHit { query := "x" }]⟩ outcome ∧
      done.report.outcomes[1]? = some outcome ∧ replaced.report.outcomes[1]? = some outcome := by
  have hOwn : (queuedTargets.map (·.adapter)).Nodup := by decide
  have hNarrow : permitsCountable { pairedLimits with concurrency := 1 } queuedTargets = true := by decide
  have hTarget : queuedTargets[1]? = some ⟨⟨"b", "web"⟩, 1, none⟩ := rfl
  obtain ⟨done, outcome, hDone, hPlace, hOutcome, hReplaced⟩ :=
    (dispatch_isolates_targets { query := "x" } pairedLimits 7 {} slowPool hOwn hTarget rfl
      (by decide)).1 (by decide)
  obtain ⟨replaced, hOther, hOtherPlace⟩ := hReplaced { pairedLimits with concurrency := 1 } 9
    queuedTargets {} stormyPool rfl rfl hNarrow hOwn hTarget rfl
  exact ⟨hOwn, hNarrow, done, replaced, outcome, hDone, hOther, hOutcome, hPlace, hOtherPlace⟩

end Metasearch.Dispatch
