import Metasearch.Proofs.Dispatch.Outcomes

/-! A dispatch with a deadline is the same dispatch without one, cut off. Both follow one timetable, of
which the deadline only hides what would be heard at or after it. -/
namespace Metasearch.Dispatch

/-- A call whose adapter never breaks down beyond repair is not lost, whatever its timeout. -/
theorem settle_ne_lost {call : Call} (h : call.ending ≠ .abort) (timeout : Millis) :
    (settle call timeout).2 ≠ .lost := by
  unfold settle
  cases hEnding : call.ending with
  | abort => exact absurd hEnding h
  | _ => split <;> simp

/-- What a call that is not lost tells, and how long it took. -/
theorem exists_heard_of_ne_lost {call : Run} (h : call.result ≠ .lost) :
    ∃ heard, call.heard = some heard ∧ heard.elapsed = call.finish - call.start := by
  unfold Run.heard
  cases hResult : call.result with
  | lost => exact absurd hResult h
  | hits hits => exact ⟨_, rfl, rfl⟩
  | failure error => exact ⟨_, rfl, rfl⟩

variable {α : Type} [EngineAdapter α] (limits : Limits) (request : QueryRequest) (opened : Instant)
  (targets : List Target) (pool : List α) (tracker : Health.Tracker)

theorem ne_lost_of_mem_freeRuns
    (hAlive : ∀ call ∈ callsOf request targets pool, call.ending ≠ .abort) {made : Run}
    (hMem : made ∈ freeRuns limits request opened targets pool) : made.result ≠ .lost := by
  obtain ⟨place, hPlace⟩ := List.mem_iff_getElem?.mp hMem
  obtain ⟨call, timeout, hCall, hMade⟩ := eq_ofCall_of_getElem?_timetable hPlace
  have hEnding := hAlive call (List.mem_of_getElem? (List.getElem?_zip_eq_some.mp hCall).1)
  rw [hMade, Run.result_ofCall]
  exact settle_ne_lost hEnding timeout

/-- The same limits with another deadline, or with none. -/
def Limits.withDeadline (limits : Limits) (deadline : Option Instant) : Limits :=
  { limits with deadline }

@[simp] theorem Limits.before_withDeadline_none (t : Instant) :
    (limits.withDeadline none).before t = true := rfl

@[simp] theorem Limits.before_withDeadline_some (deadline t : Instant) :
    (limits.withDeadline (some deadline)).before t = decide (t < deadline) := rfl

/-- Neither the calls nor the permits depend on the deadline, so the timetable does not. -/
@[simp] theorem freeRuns_withDeadline (deadline : Option Instant) :
    freeRuns (limits.withDeadline deadline) request opened targets pool =
      freeRuns limits request opened targets pool := rfl

/-- Without a deadline every call is made as the timetable has it. -/
theorem runs_run_withDeadline_none :
    (run (limits.withDeadline none) request opened targets tracker pool).runs =
      (freeRuns limits request opened targets pool).map some := by
  refine (schedule_eq_freeRuns _ request opened targets pool).trans ?_
  rw [freeRuns_withDeadline]
  rfl

theorem deadlineElapsed_withDeadline_some (deadline : Instant) :
    (run (limits.withDeadline (some deadline)) request opened targets tracker
      pool).report.deadlineElapsed = true ↔
      ∃ call ∈ freeRuns limits request opened targets pool, deadline ≤ call.finish := by
  rw [deadlineElapsed_run, freeRuns_withDeadline, List.any_eq_true]
  simp [outstanding]

/-- With a deadline the outcome is a timeout at the deadline if the call does not end before it. -/
theorem getElem?_outcomes_of_late {place : Nat} {target : Target} {call : Run} (span : Millis)
    (hTarget : targets[place]? = some target)
    (hCall : (freeRuns limits request opened targets pool)[place]? = some call)
    (hLate : opened + span ≤ call.finish) :
    (run (limits.withDeadline (some (opened + span))) request opened targets tracker
      pool).report.outcomes[place]? =
      some ⟨target.engine, .error (.timeout "request deadline elapsed"), span⟩ := by
  have hCut := (deadlineElapsed_withDeadline_some limits request opened targets pool tracker
    (opened + span)).mpr ⟨call, List.mem_of_getElem? hCall, hLate⟩
  obtain ⟨deadline, hDeadline, hFinish⟩ := finish_run_of_cut _ _ _ _ _ _ hCut
  cases hDeadline
  rw [getElem?_outcomes_run (limits.withDeadline (some (opened + span))) request opened targets pool
    tracker hTarget hCall, hFinish, hCut]
  simp [outcomeOf, heardInTime, silent, Nat.not_lt.mpr hLate]

/-- A dispatch with a deadline `span` after its opening compared with the same dispatch without one, for
adapters that never take their call down with them. A target whose call ends before the deadline has
the same outcome in both, every other one is a timeout at the deadline, and the deadline is said to have
broken the dispatch off exactly if there is a target of the second sort. A dispatch whose permits cannot
be counted fails alike in both. -/
theorem dispatch_with_deadline (span : Millis)
    (hAlive : ∀ call ∈ callsOf request targets pool, call.ending ≠ .abort) :
    (permitsCountable limits targets = true → ∃ free cut : Dispatched α,
      dispatch (limits.withDeadline none) request opened targets tracker pool = .ok free ∧
      dispatch (limits.withDeadline (some (opened + span))) request opened targets tracker pool =
        .ok cut ∧
      (∀ (place : Nat) (target : Target), targets[place]? = some target →
        ∃ (call : Run) (outcome : EngineOutcome),
          free.runs[place]? = some (some call) ∧
          free.report.outcomes[place]? = some outcome ∧
          outcome.elapsed = call.finish - call.start ∧
          cut.report.outcomes[place]? = some (
            if call.finish < opened + span then outcome
            else ⟨target.engine, .error (.timeout "request deadline elapsed"), span⟩)) ∧
      (cut.report.deadlineElapsed = true ↔
        ∃ call : Run, some call ∈ free.runs ∧ opened + span ≤ call.finish)) ∧
    (permitsCountable limits targets = false →
      dispatch (limits.withDeadline none) request opened targets tracker pool = .error .permitLimit ∧
      dispatch (limits.withDeadline (some (opened + span))) request opened targets tracker pool =
        .error .permitLimit) := by
  have hRuns := runs_run_withDeadline_none limits request opened targets pool tracker
  constructor
  · intro hPermits
    refine ⟨_, _, dispatch_eq_ok _ _ _ _ _ _ hPermits, dispatch_eq_ok _ _ _ _ _ _ hPermits, ?_, ?_⟩
    · intro place target hTarget
      obtain ⟨call, hCall⟩ : ∃ call,
          (freeRuns limits request opened targets pool)[place]? = some call := by
        apply Option.isSome_iff_exists.mp
        rw [isSome_getElem?, length_freeRuns]
        exact (List.getElem?_eq_some_iff.mp hTarget).1
      obtain ⟨heard, hHeard, hTook⟩ := exists_heard_of_ne_lost
        (ne_lost_of_mem_freeRuns limits request opened targets pool hAlive (List.mem_of_getElem? hCall))
      refine ⟨call, _, ?_, getElem?_outcomes_run_of_heard _ request opened targets pool tracker hTarget
        hCall hHeard rfl, hTook, ?_⟩
      · rw [hRuns, List.getElem?_map, hCall]
        rfl
      · split
        · rename_i hTimely
          exact getElem?_outcomes_run_of_heard (limits.withDeadline (some (opened + span))) request
            opened targets pool tracker hTarget hCall hHeard (by simpa using hTimely)
        · rename_i hLate
          exact getElem?_outcomes_of_late limits request opened targets pool tracker span hTarget hCall
            (Nat.le_of_not_lt hLate)
    · rw [deadlineElapsed_withDeadline_some, hRuns]
      simp
  · intro hPermits
    exact ⟨dispatch_eq_error _ _ _ _ _ _ hPermits, dispatch_eq_error _ _ _ _ _ _ hPermits⟩

/-- Two permits for four targets. -/
def pairedLimits : Limits :=
  { concurrency := 2, resultsPerEngine := none, engineTimeout := 1000, deadline := none }

def queuedTargets : List Target :=
  [⟨⟨"a", "web"⟩, 0, none⟩, ⟨⟨"b", "web"⟩, 1, none⟩, ⟨⟨"c", "web"⟩, 2, none⟩, ⟨⟨"d", "web"⟩, 3, some 5⟩]

def slowPool : List Script :=
  [{ behaviours := [⟨20, .echo⟩] }, { behaviours := [⟨50, .echo⟩] },
    { behaviours := [⟨0, .fixed .hang⟩] }, { behaviours := [⟨0, .fixed .panic⟩] }]

/-- The first call ends before the deadline, the second at that very instant, the third hangs, and the
fourth waits for the permit of the second. -/
theorem dispatch_with_deadline_at_an_end :
    (∀ call ∈ callsOf { query := "x" } queuedTargets slowPool, call.ending ≠ .abort) ∧
    ∃ free cut : Dispatched Script,
      dispatch (pairedLimits.withDeadline none) { query := "x" } 7 queuedTargets {} slowPool =
        .ok free ∧
      dispatch (pairedLimits.withDeadline (some (7 + 50))) { query := "x" } 7 queuedTargets {} slowPool =
        .ok cut ∧
      (∀ (place : Nat) (target : Target), queuedTargets[place]? = some target →
        ∃ (call : Run) (outcome : EngineOutcome),
          free.runs[place]? = some (some call) ∧
          free.report.outcomes[place]? = some outcome ∧
          outcome.elapsed = call.finish - call.start ∧
          cut.report.outcomes[place]? = some (
            if call.finish < 7 + 50 then outcome
            else ⟨target.engine, .error (.timeout "request deadline elapsed"), 50⟩)) ∧
      (cut.report.deadlineElapsed = true ↔
        ∃ call : Run, some call ∈ free.runs ∧ 7 + 50 ≤ call.finish) := by
  have hAlive : ∀ call ∈ callsOf { query := "x" } queuedTargets slowPool, call.ending ≠ .abort := by
    decide
  have hPermits : permitsCountable pairedLimits queuedTargets = true := by decide
  exact ⟨hAlive, (dispatch_with_deadline pairedLimits { query := "x" } 7 queuedTargets slowPool {} 50
    hAlive).1 hPermits⟩

end Metasearch.Dispatch
