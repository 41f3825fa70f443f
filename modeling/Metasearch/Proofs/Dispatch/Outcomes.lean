import Metasearch.Dispatch.Report
import Metasearch.Engine.Script
import Metasearch.Health.Event
import Metasearch.Proofs.Dispatch.Collection

/-! One outcome for each target. What a dispatch reports is read off the timetable of its calls: a call
that ends before the deadline tells what came of it, and of every other target nothing is heard. -/
namespace Metasearch.Dispatch

variable {α : Type} [EngineAdapter α] (limits : Limits)

/-- Nothing is missed of a call that is not made, since it would not end before the deadline either. -/
theorem heardInTime_beforeDeadline {run : Run} (h : run.start ≤ run.finish) :
    heardInTime limits (run.beforeDeadline limits) = heardInTime limits (some run) := by
  unfold Run.beforeDeadline
  cases hFinish : limits.before run.finish with
  | true => simp [heardInTime, Limits.before_of_le h hFinish, hFinish]
  | false => cases limits.before run.start <;> simp [heardInTime, hFinish]

theorem outstanding_beforeDeadline {run : Run} (h : run.start ≤ run.finish) :
    outstanding limits (run.beforeDeadline limits) = outstanding limits (some run) := by
  unfold Run.beforeDeadline
  cases hFinish : limits.before run.finish with
  | true => simp [outstanding, Limits.before_of_le h hFinish, hFinish]
  | false => cases limits.before run.start <;> simp [outstanding, hFinish]

/-- The calls of a dispatch, laid out without its deadline. -/
def freeRuns (request : QueryRequest) (opened : Instant) (targets : List Target)
    (pool : List α) : List Run :=
  timetable opened limits.lanes [] (timedCalls limits request targets pool)

variable (request : QueryRequest) (opened : Instant) (targets : List Target) (pool : List α)

@[simp] theorem length_freeRuns :
    (freeRuns limits request opened targets pool).length = targets.length := by
  simp [freeRuns]

theorem schedule_eq_freeRuns :
    (schedule limits request opened [] targets pool).1 =
      (freeRuns limits request opened targets pool).map (Run.beforeDeadline limits) :=
  schedule_eq_timetable limits request (by simp) targets pool

/-- Each target has its call, and this call has its run, which begins at some instant. -/
theorem exists_freeRun_of_target {place : Nat} {target : Target} (hTarget : targets[place]? = some target) :
    ∃ call made, (callsOf request targets pool)[place]? = some call ∧
      (freeRuns limits request opened targets pool)[place]? = some made ∧
      made = Run.ofCall made.start call (limits.timeoutOf target) := by
  obtain ⟨made, hMade⟩ : ∃ made, (freeRuns limits request opened targets pool)[place]? = some made := by
    apply Option.isSome_iff_exists.mp
    rw [isSome_getElem?, length_freeRuns]
    exact (List.getElem?_eq_some_iff.mp hTarget).1
  obtain ⟨call, timeout, hTimed, hRun⟩ := eq_ofCall_of_getElem?_timetable hMade
  obtain ⟨hCall, hTimeout⟩ := List.getElem?_zip_eq_some.mp hTimed
  rw [List.getElem?_map, hTarget] at hTimeout
  obtain rfl : limits.timeoutOf target = timeout := Option.some.inj hTimeout
  exact ⟨call, made, hCall, hMade, hRun⟩

/-- The deadline breaks a dispatch off exactly if some call would not end before it. -/
theorem cut_collected_schedule :
    (collected limits opened (schedule limits request opened [] targets pool).1).cut =
      (freeRuns limits request opened targets pool).any fun run => outstanding limits (some run) := by
  rw [cut_collected, schedule_eq_freeRuns, List.any_map, Bool.eq_iff_iff, List.any_eq_true,
    List.any_eq_true]
  constructor
  · rintro ⟨run, hMem, hOut⟩
    refine ⟨run, hMem, ?_⟩
    rwa [Function.comp_apply,
      outstanding_beforeDeadline limits (start_le_finish hMem)] at hOut
  · rintro ⟨run, hMem, hOut⟩
    refine ⟨run, hMem, ?_⟩
    rwa [Function.comp_apply,
      outstanding_beforeDeadline limits (start_le_finish hMem)]

theorem places_collected_schedule :
    (collected limits opened (schedule limits request opened [] targets pool).1).places =
      (freeRuns limits request opened targets pool).map fun run => heardInTime limits (some run) := by
  rw [places_collected, schedule_eq_freeRuns, List.map_map]
  apply List.map_congr_left
  intro run hMem
  exact heardInTime_beforeDeadline limits (start_le_finish hMem)

@[simp] theorem engine_outcomeOf (cut : Bool) (total : Millis) (target : Target)
    (heard : Option Heard) : (outcomeOf limits cut total target heard).engine = target.engine := by
  cases heard <;> rfl

variable (tracker : Health.Tracker)

/-- The outcomes of a dispatch, each from its target and its call. -/
theorem outcomes_run :
    (run limits request opened targets tracker pool).report.outcomes =
      List.zipWith (fun target run =>
        outcomeOf limits (Dispatch.run limits request opened targets tracker pool).report.deadlineElapsed
          ((Dispatch.run limits request opened targets tracker pool).finish - opened) target
          (heardInTime limits (some run)))
        targets (freeRuns limits request opened targets pool) := by
  have hPlaces := places_collected_schedule limits request opened targets pool
  simp only [run, reportOf, finishOf] at *
  rw [hPlaces, List.zipWith_map_right]

theorem getElem?_outcomes_run {place : Nat} {target : Target} {call : Run}
    (hTarget : targets[place]? = some target)
    (hCall : (freeRuns limits request opened targets pool)[place]? = some call) :
    (run limits request opened targets tracker pool).report.outcomes[place]? =
      some (outcomeOf limits
        (run limits request opened targets tracker pool).report.deadlineElapsed
        ((run limits request opened targets tracker pool).finish - opened) target
        (heardInTime limits (some call))) := by
  rw [outcomes_run, List.getElem?_zipWith, hTarget, hCall]

/-- The outcome of a call that is heard of in time is what the call tells. It does not depend on the rest
of the dispatch. -/
theorem getElem?_outcomes_run_of_heard {place : Nat} {target : Target} {call : Run} {heard : Heard}
    (hTarget : targets[place]? = some target)
    (hCall : (freeRuns limits request opened targets pool)[place]? = some call)
    (hHeard : call.heard = some heard) (hTimely : limits.before call.finish = true) :
    (run limits request opened targets tracker pool).report.outcomes[place]? =
      some ⟨target.engine, heard.result.map (stamp limits target.engine), heard.elapsed⟩ := by
  rw [getElem?_outcomes_run limits request opened targets pool tracker hTarget hCall]
  simp [outcomeOf, heardInTime, hHeard, hTimely]

theorem deadlineElapsed_run :
    (run limits request opened targets tracker pool).report.deadlineElapsed =
      (freeRuns limits request opened targets pool).any fun run => outstanding limits (some run) :=
  cut_collected_schedule limits request opened targets pool

theorem map_engine_outcomes_run :
    (run limits request opened targets tracker pool).report.outcomes.map (·.engine) =
      targets.map (·.engine) := by
  rw [outcomes_run, List.map_zipWith]
  simp only [engine_outcomeOf]
  exact zipWith_left_eq_map _ (by simp)

/-- A dispatch that is broken off ends at its deadline, or at once if that has passed. -/
theorem finish_run_of_cut
    (h : (run limits request opened targets tracker pool).report.deadlineElapsed = true) :
    ∃ deadline, limits.deadline = some deadline ∧
      (run limits request opened targets tracker pool).finish = max opened deadline := by
  have hAny := h
  rw [deadlineElapsed_run, List.any_eq_true] at hAny
  obtain ⟨late, -, hLate⟩ := hAny
  cases hDeadline : limits.deadline with
  | none => simp [outstanding, Limits.before, hDeadline] at hLate
  | some deadline => exact ⟨deadline, rfl, clock_collected_of_cut hDeadline h⟩

/-- A dispatch does not outlast its deadline, unless that has passed when it opens. -/
theorem finish_run_le {deadline : Instant} (hDeadline : limits.deadline = some deadline) :
    (run limits request opened targets tracker pool).finish ≤ max opened deadline := by
  refine (clock_collected_le_iff limits opened _ _).mpr ⟨le_max_left _ _, ?_⟩
  intro made _ t hWaited
  exact (le_of_mem_waitedUntil hWaited hDeadline).trans (le_max_right _ _)

/-- A dispatch that is not broken off has made every call and ends with the last of them. -/
theorem finish_run_of_complete
    (h : (run limits request opened targets tracker pool).report.deadlineElapsed = false) :
    (∀ made ∈ (run limits request opened targets tracker pool).runs, ∃ call, made = some call ∧
      limits.before call.finish = true ∧
      call.finish ≤ (run limits request opened targets tracker pool).finish) ∧
    ((run limits request opened targets tracker pool).finish = opened ∨
      ∃ call, some call ∈ (run limits request opened targets tracker pool).runs ∧
        (run limits request opened targets tracker pool).finish = call.finish) := by
  obtain ⟨hAll, hLast⟩ := clock_collected_of_complete h
  refine ⟨?_, hLast⟩
  intro made hMem
  have hTimely : outstanding limits made = false := by
    have hCut := (cut_collected limits opened _).symm.trans h
    simpa using List.any_eq_false.mp hCut made hMem
  cases made with
  | none => simp [outstanding] at hTimely
  | some call =>
      exact ⟨call, rfl, by simpa [outstanding] using hTimely, hAll call hMem⟩

/-- Telling a tracker the outcomes of targets is a run of reports, one for each target in order. -/
theorem tell_eq_run {report : Report} (now : Instant)
    (h : report.outcomes.map (·.engine) = targets.map (·.engine)) :
    tell tracker report now =
      tracker.run (List.zipWith (fun target outcome => .report target.engine outcome.health now)
        targets report.outcomes) := by
  obtain ⟨outcomes, deadlineElapsed⟩ := report
  simp only [tell, Health.Tracker.run] at h ⊢
  induction outcomes generalizing targets tracker with
  | nil => simp
  | cons outcome rest ih =>
      cases targets with
      | nil => simp at h
      | cons target targets =>
          simp only [List.map_cons, List.cons.injEq] at h
          simp only [List.zipWith_cons_cons, List.foldl_cons, Health.Tracker.step, ← h.1]
          exact ih targets _ h.2

theorem permitsCountable_eq_true_iff :
    permitsCountable limits targets = true ↔ targets = [] ∨ limits.concurrency ≤ maxPermits := by
  have hOne : 1 ≤ maxPermits := by decide
  simp only [permitsCountable, Bool.or_eq_true, List.isEmpty_iff, decide_eq_true_eq]
  exact or_congr_right (max_le_iff.trans (and_iff_left hOne))

theorem permitsCountable_eq_false_iff :
    permitsCountable limits targets = false ↔ targets ≠ [] ∧ maxPermits < limits.concurrency := by
  rw [← Bool.not_eq_true, permitsCountable_eq_true_iff, not_or, Nat.not_le]

theorem dispatch_eq_ok (h : permitsCountable limits targets = true) :
    dispatch limits request opened targets tracker pool =
      .ok (run limits request opened targets tracker pool) := by
  simp [dispatch, h]

theorem dispatch_eq_error (h : permitsCountable limits targets = false) :
    dispatch limits request opened targets tracker pool = .error .permitLimit := by
  simp [dispatch, h]

/-- A dispatch whose permits can be counted reports exactly one outcome for each target, in the order of
the targets, and leaves the tracker that hears of each target once, in that order, when the dispatch
ends. That is at the deadline if it breaks the dispatch off and with the last call otherwise. -/
theorem dispatch_reports_each_target
    (hPermits : permitsCountable limits targets = true) :
    ∃ done, dispatch limits request opened targets tracker pool = .ok done ∧
      done.report.outcomes.map (·.engine) = targets.map (·.engine) ∧
      done.tracker = tracker.run (List.zipWith
        (fun target outcome => .report target.engine outcome.health done.finish)
        targets done.report.outcomes) ∧
      (done.report.deadlineElapsed = true →
        ∃ deadline, limits.deadline = some deadline ∧ done.finish = max opened deadline) ∧
      (done.report.deadlineElapsed = false →
        (∀ made ∈ done.runs, ∃ call, made = some call ∧
          limits.before call.finish = true ∧ call.finish ≤ done.finish) ∧
        (done.finish = opened ∨ ∃ call, some call ∈ done.runs ∧ done.finish = call.finish)) := by
  have hEngines := map_engine_outcomes_run limits request opened targets pool tracker
  refine ⟨run limits request opened targets tracker pool, ?_, hEngines, ?_, ?_, ?_⟩
  · exact dispatch_eq_ok limits request opened targets pool tracker hPermits
  · exact tell_eq_run targets tracker _ hEngines
  · exact finish_run_of_cut limits request opened targets pool tracker
  · exact finish_run_of_complete limits request opened targets pool tracker

/-- One permit, and a deadline before the timeout of the calls. -/
def narrowLimits : Limits :=
  { concurrency := 1, resultsPerEngine := some 2, engineTimeout := 1000, deadline := some 50 }

/-- Three targets of two engines. -/
def repeatedTargets : List Target :=
  [⟨⟨"a", "web"⟩, 0, none⟩, ⟨⟨"b", "web"⟩, 1, none⟩, ⟨⟨"a", "web"⟩, 0, some 10⟩]

/-- The first adapter takes its call down with it, the second never answers. -/
def brokenPool : List Script :=
  [{ behaviours := [⟨5, .fixed .abort⟩] }, { behaviours := [⟨0, .fixed .hang⟩] }]

/-- With one permit the first call is lost, the second hangs until the deadline, and the third, of the
same engine as the first, never begins. -/
theorem dispatch_reports_lost_hanging_and_waiting :
    permitsCountable narrowLimits repeatedTargets = true ∧
    ∃ done, dispatch narrowLimits { query := "x" } 7 repeatedTargets {} brokenPool = .ok done ∧
      done.report.outcomes.map (·.engine) = [⟨"a", "web"⟩, ⟨"b", "web"⟩, ⟨"a", "web"⟩] ∧
      done.tracker = Health.Tracker.run {} (List.zipWith
        (fun target outcome => .report target.engine outcome.health done.finish)
        repeatedTargets done.report.outcomes) := by
  have hPermits : permitsCountable narrowLimits repeatedTargets = true := by decide
  obtain ⟨done, hDone, hEngines, hTracker, -⟩ := dispatch_reports_each_target narrowLimits
    { query := "x" } 7 repeatedTargets brokenPool {} hPermits
  exact ⟨hPermits, done, hDone, hEngines, hTracker⟩

end Metasearch.Dispatch
