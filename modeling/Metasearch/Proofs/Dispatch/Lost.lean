import Metasearch.Proofs.Dispatch.Calls

/-! Targets of which nothing is heard. There are two causes: the call did not end before the deadline, or
its task was lost before it could tell anything. A dispatch keeps them apart only by whether the deadline
broke it off, so a lost task is reported as a timeout as soon as any other target is outstanding. -/
namespace Metasearch.Dispatch

/-- Whether the task of a target was lost before the deadline. -/
def lostInTime (limits : Limits) : Option Run → Bool
  | none => false
  | some run => limits.before run.finish && decide (run.result = .lost)

theorem heard_eq_none_iff {run : Run} : run.heard = none ↔ run.result = .lost := by
  unfold Run.heard
  cases run.result <;> simp

theorem heardInTime_of_lostInTime {limits : Limits} {made : Option Run}
    (h : lostInTime limits made = true) : heardInTime limits made = none := by
  cases made with
  | none => rfl
  | some run =>
      simp only [lostInTime, Bool.and_eq_true, decide_eq_true_eq] at h
      simp [heardInTime, heard_eq_none_iff.mpr h.2]

/-- A task is lost if its call takes it down before the timeout. -/
theorem snd_settle_eq_lost_iff {call : Call} {timeout : Millis} :
    (settle call timeout).2 = .lost ↔ call.ending = .abort ∧ call.delay ≤ timeout := by
  unfold settle
  by_cases hInTime : call.delay ≤ timeout
  · cases call.ending <;> simp [hInTime]
  · simp [hInTime]

/-- A task is lost before the deadline if its call takes it down before the timeout and the deadline. A
deadline that keeps the call from being made comes before the loss, too. -/
theorem lostInTime_ofCall_iff {limits : Limits} {start : Instant} {call : Call} {timeout : Millis} :
    lostInTime limits ((Run.ofCall start call timeout).beforeDeadline limits) = true ↔
      call.ending = .abort ∧ call.delay ≤ timeout ∧ limits.before (start + call.delay) = true := by
  have hFinish : call.ending = .abort ∧ call.delay ≤ timeout →
      (Run.ofCall start call timeout).finish = start + call.delay := by
    rintro ⟨hEnding, hInTime⟩
    simp [fst_settle, hEnding, hInTime]
  constructor
  · intro h
    unfold Run.beforeDeadline at h
    split at h
    · simp only [lostInTime, Bool.and_eq_true, decide_eq_true_eq, Run.result_ofCall,
        snd_settle_eq_lost_iff] at h
      rw [hFinish h.2] at h
      exact ⟨h.2.1, h.2.2, h.1⟩
    · cases h
  · rintro ⟨hEnding, hInTime, hTimely⟩
    have hBegins : limits.before (Run.ofCall start call timeout).start = true :=
      Limits.before_of_le (Nat.le_add_right start call.delay) hTimely
    simp only [Run.beforeDeadline, hBegins, if_true, lostInTime, Bool.and_eq_true, decide_eq_true_eq,
      Run.result_ofCall, snd_settle_eq_lost_iff]
    rw [hFinish ⟨hEnding, hInTime⟩]
    exact ⟨hTimely, hEnding, hInTime⟩

/-- Something is heard of every target that is neither outstanding at the deadline nor lost before it. -/
theorem outstanding_or_lostInTime_or_heardInTime (limits : Limits) (made : Option Run) :
    outstanding limits made = true ∨ lostInTime limits made = true ∨
      ∃ heard, heardInTime limits made = some heard := by
  cases made with
  | none => exact Or.inl rfl
  | some run =>
      cases hFinish : limits.before run.finish with
      | false => exact Or.inl (by simp [outstanding, hFinish])
      | true =>
          cases hHeard : run.heard with
          | none =>
              refine Or.inr (Or.inl ?_)
              simp [lostInTime, hFinish, heard_eq_none_iff.mp hHeard]
          | some heard => exact Or.inr (Or.inr ⟨heard, by simp [heardInTime, hFinish, hHeard]⟩)

variable {α : Type} [EngineAdapter α] (limits : Limits) (request : QueryRequest) (opened : Instant)
  (targets : List Target) (pool : List α) (tracker : Health.Tracker)

/-- The failure of a target of which nothing is heard depends on the cause only in part. A target that is
outstanding at the deadline, because its call did not end before it or was not made, has timed out. One
whose call took its task down before has lost its connection if no target is outstanding at the deadline,
and else it is said to have timed out as well. What is heard of any other target is its outcome, and
there is no fourth case. -/
theorem dispatch_reports_silent_targets (hPermits : permitsCountable limits targets = true) :
    ∃ done, dispatch limits request opened targets tracker pool = .ok done ∧
      (done.report.deadlineElapsed = true ↔ ∃ made ∈ done.runs, outstanding limits made = true) ∧
      ∀ (place : Nat) (target : Target), targets[place]? = some target →
        ∃ call start made outcome, (callsOf request targets pool)[place]? = some call ∧
          made = (Run.ofCall start call (limits.timeoutOf target)).beforeDeadline limits ∧
          done.runs[place]? = some made ∧ done.report.outcomes[place]? = some outcome ∧
          (lostInTime limits made = true ↔ call.ending = .abort ∧
            call.delay ≤ limits.timeoutOf target ∧ limits.before (start + call.delay) = true) ∧
          (outstanding limits made = true → outcome =
            ⟨target.engine, .error (.timeout "request deadline elapsed"), done.finish - opened⟩) ∧
          (lostInTime limits made = true → done.report.deadlineElapsed = false → outcome =
            ⟨target.engine, .error (.connection "engine task aborted"), done.finish - opened⟩) ∧
          (lostInTime limits made = true → done.report.deadlineElapsed = true → outcome =
            ⟨target.engine, .error (.timeout "request deadline elapsed"), done.finish - opened⟩) ∧
          (∀ heard, heardInTime limits made = some heard → outcome =
            ⟨target.engine, heard.result.map (stamp limits target.engine), heard.elapsed⟩) ∧
          (outstanding limits made = true ∨ lostInTime limits made = true ∨
            ∃ heard, heardInTime limits made = some heard) := by
  have hCut := deadlineElapsed_run_iff limits request opened targets pool tracker
  refine ⟨_, dispatch_eq_ok limits request opened targets pool tracker hPermits, hCut, ?_⟩
  intro place target hTarget
  obtain ⟨call, start, hCall, hMade⟩ :=
    exists_call_of_target limits request opened targets pool tracker hTarget
  generalize hRun : (Run.ofCall start call (limits.timeoutOf target)).beforeDeadline limits = made at hMade
  refine ⟨call, start, made, _, hCall, hRun.symm, hMade,
    getElem?_outcomes_of_made limits request opened targets pool tracker hTarget hMade,
    ?_, ?_, ?_, ?_, ?_, outstanding_or_lostInTime_or_heardInTime limits made⟩
  · rw [← hRun]
    exact lostInTime_ofCall_iff
  · intro hOut
    rw [heardInTime_of_outstanding hOut, hCut.mpr ⟨made, List.mem_of_getElem? hMade, hOut⟩]
    rfl
  · intro hLost hElapsed
    rw [heardInTime_of_lostInTime hLost, hElapsed]
    rfl
  · intro hLost hElapsed
    rw [heardInTime_of_lostInTime hLost, hElapsed]
    rfl
  · intro heard hHeard
    rw [hHeard]
    rfl

/-- Room for both targets, and a deadline before the timeout of the calls. -/
def hurriedLimits : Limits :=
  { concurrency := 2, resultsPerEngine := none, engineTimeout := 1000, deadline := some 100 }

def neighbours : List Target :=
  [⟨⟨"dead", "general"⟩, 0, none⟩, ⟨⟨"slow", "general"⟩, 1, none⟩]

/-- The first adapter takes its call down with it before the deadline, the second behaves as given. -/
def fatalPool (behaviour : Behaviour) : List Script :=
  [{ behaviours := [⟨30, .fixed .abort⟩] }, { behaviours := [behaviour] }]

/-- Next to a target that answers in time the lost task is reported as what it is. -/
theorem dispatch_reports_loss_next_to_answer :
    permitsCountable hurriedLimits neighbours = true ∧
    ∃ done, dispatch hurriedLimits { query := "x" } 0 neighbours {} (fatalPool ⟨60, .echo⟩) = .ok done ∧
      done.report.outcomes[0]? =
        some ⟨⟨"dead", "general"⟩, .error (.connection "engine task aborted"), 60⟩ := by
  have hPermits : permitsCountable hurriedLimits neighbours = true := by decide
  obtain ⟨done, hDone, -, hEach⟩ := dispatch_reports_silent_targets hurriedLimits { query := "x" } 0
    neighbours (fatalPool ⟨60, .echo⟩) {} hPermits
  refine ⟨hPermits, done, hDone, ?_⟩
  obtain rfl := Except.ok.inj hDone
  obtain ⟨call, start, made, outcome, -, -, hMade, hOutcome, -, -, hLost, -⟩ := hEach 0 _ rfl
  obtain rfl : some ⟨0, 30, .lost⟩ = made := Option.some.inj hMade
  rw [hOutcome, hLost rfl rfl]
  rfl

/-- Next to a target that hangs the same task, lost at the same instant, is reported to have timed out at
the deadline, although it was not outstanding then. -/
theorem exists_loss_reported_as_timeout :
    ∃ done, dispatch hurriedLimits { query := "x" } 0 neighbours {} (fatalPool ⟨0, .fixed .hang⟩) =
        .ok done ∧
      done.runs[0]? = some (some ⟨0, 30, .lost⟩) ∧
      lostInTime hurriedLimits (some ⟨0, 30, .lost⟩) = true ∧
      outstanding hurriedLimits (some ⟨0, 30, .lost⟩) = false ∧
      done.report.outcomes[0]? =
        some ⟨⟨"dead", "general"⟩, .error (.timeout "request deadline elapsed"), 100⟩ :=
  ⟨_, rfl, rfl, rfl, rfl, rfl⟩

end Metasearch.Dispatch
