import Metasearch.Proofs.Health.History
import Metasearch.Proofs.Policy.Lengths

/-! Failures of an engine that is suspended already, as when a request that was under way ends late. The
latest failure alone says how long the engine rests from then on. It does not cut the suspension short if
its rule asks for as long a rest as the failure before it, but it may do so otherwise. -/
namespace Metasearch.Health

variable {policy : SuspensionPolicy} {state : EngineState}

/-- The suspension of an engine, if there is one, is that of its latest failure. -/
structure EngineState.OfLatest (policy : SuspensionPolicy) (state : EngineState) : Prop where
  streak_le : state.streak ≤ maxStreak
  suspended : ∀ ends, state.status = .suspended ends → ∃ kind failedAt,
    state.lastFailure = some kind ∧ state.lastFailureAt = some failedAt ∧
    ends = failedAt + 1000 * policy.seconds kind state.streak

namespace EngineState.OfLatest

theorem fresh (policy : SuspensionPolicy) : OfLatest policy {} where
  streak_le := Nat.zero_le _
  suspended := by
    intro ends hStatus
    cases hStatus

theorem refreshed (h : OfLatest policy state) (now : Instant) :
    OfLatest policy (state.refreshed now) := by
  cases hRuns : state.mayRun now with
  | false => rwa [refreshed_of_not_mayRun hRuns]
  | true =>
      rw [EngineState.refreshed, if_pos hRuns]
      refine ⟨h.streak_le, ?_⟩
      intro ends hStatus
      cases hStatus

/-- A report leaves no suspension but its own. -/
theorem after (policy : SuspensionPolicy) (state : EngineState) (outcome : Outcome) (now : Instant) :
    OfLatest policy (state.after policy outcome now) := by
  cases outcome with
  | success =>
      refine ⟨Nat.zero_le _, ?_⟩
      intro ends hStatus
      cases hStatus
  | failure kind =>
      refine ⟨Nat.min_le_right _ _, ?_⟩
      intro ends hStatus
      cases hStatus
      exact ⟨kind, now, rfl, rfl, rfl⟩

end EngineState.OfLatest

/-- After any run of events the suspension of an engine is that of its latest failure. -/
theorem ofLatest_run (policy : SuspensionPolicy) (events : List Event) (engine : EngineId) :
    ((Tracker.run { policy } events).stateOf engine).OfLatest policy := by
  apply stateOf_run_induction (.fresh policy)
  · intro state outcome now _
    exact .after policy state outcome now
  · intro state now h
    exact h.refreshed now

/-- A report changes the state of its engine. -/
theorem stateOf_run_report (policy : SuspensionPolicy) (events : List Event) (engine : EngineId)
    (outcome : Outcome) (now : Instant) :
    (Tracker.run { policy } (events ++ [.report engine outcome now])).stateOf engine =
      ((Tracker.run { policy } events).stateOf engine).after policy outcome now := by
  have hOrdered := Tracker.ordered_run (states_nil_ordered policy) events
  rw [Tracker.run_append]
  refine (Tracker.stateOf_update hOrdered engine engine _).trans ?_
  rw [if_pos rfl, Tracker.policy_run]

/-- A streak does not get shorter when a failure is added to it. -/
theorem EngineState.OfLatest.streak_le_next (h : state.OfLatest policy) :
    state.streak ≤ min (state.streak + 1) maxStreak :=
  Nat.le_min.mpr ⟨Nat.le_succ _, h.streak_le⟩

/-- A failure of a suspended engine ends the suspension that it finds and begins one of its own, which ends
when its own rule says. This is no earlier than the end before exactly if the rest that it brings, together
with the time since the failure before it, is as long as the rest that was under way. So it is enough that
the rest is as long by itself, and a failure of the same kind, or of one with the same rule, never cuts a
suspension short. -/
theorem further_failure_suspends (policy : SuspensionPolicy) (events : List Event) (engine : EngineId)
    {state : EngineState} (hState : (Tracker.run { policy } events).stateOf engine = state)
    {ends : Instant} (hSuspended : state.status = .suspended ends) :
    ∃ kind failedAt, state.lastFailure = some kind ∧ state.lastFailureAt = some failedAt ∧
      ends = failedAt + 1000 * policy.seconds kind state.streak ∧
      ∀ next now, failedAt ≤ now → ∃ nextEnds,
        ((Tracker.run { policy } (events ++ [.report engine (.failure next) now])).stateOf engine).status =
          .suspended nextEnds ∧
        nextEnds = now + 1000 * policy.seconds next (min (state.streak + 1) maxStreak) ∧
        (ends ≤ nextEnds ↔ 1000 * policy.seconds kind state.streak ≤
          now - failedAt + 1000 * policy.seconds next (min (state.streak + 1) maxStreak)) ∧
        (policy.seconds kind state.streak ≤ policy.seconds next (min (state.streak + 1) maxStreak) →
          ends ≤ nextEnds) ∧
        (policy.rule next = policy.rule kind → ends ≤ nextEnds) := by
  have hLatest := ofLatest_run policy events engine
  rw [hState] at hLatest
  obtain ⟨kind, failedAt, hKind, hFailedAt, hEnds⟩ := hLatest.suspended ends hSuspended
  refine ⟨kind, failedAt, hKind, hFailedAt, hEnds, ?_⟩
  intro next now hLater
  have hNext := stateOf_run_report policy events engine (.failure next) now
  rw [hState] at hNext
  have hLonger : ∀ {rest nextRest : Nat}, rest ≤ nextRest →
      failedAt + 1000 * rest ≤ now + 1000 * nextRest := fun hRest =>
    Nat.add_le_add hLater (Nat.mul_le_mul_left 1000 hRest)
  refine ⟨now + 1000 * policy.seconds next (min (state.streak + 1) maxStreak),
    congrArg EngineState.status hNext, rfl, ?_, ?_, ?_⟩
  · obtain ⟨since, rfl⟩ := Nat.exists_eq_add_of_le hLater
    rw [hEnds, Nat.add_sub_cancel_left, Nat.add_assoc]
    exact Nat.add_le_add_iff_left
  · intro hRest
    rw [hEnds]
    exact hLonger hRest
  · intro hRule
    rw [hEnds]
    refine hLonger ?_
    rw [SuspensionPolicy.seconds, SuspensionPolicy.seconds, hRule]
    exact Backoff.seconds_le_seconds _ hLatest.streak_le_next

/-- An engine that timed out breaks down again before its rest is over. Both kinds of failure have one rule,
so the second one doubles the rest. -/
theorem further_failure_suspends_for_twice_as_long :
    ((Tracker.run {} [.report ⟨"a", "web"⟩ (.failure .timeout) 10000]).stateOf ⟨"a", "web"⟩).status =
      .suspended 15000 ∧
    ∃ nextEnds, ((Tracker.run {} ([.report ⟨"a", "web"⟩ (.failure .timeout) 10000] ++
        [.report ⟨"a", "web"⟩ (.failure .connectionError) 12000])).stateOf ⟨"a", "web"⟩).status =
      .suspended nextEnds ∧ nextEnds = 12000 + 1000 * 10 ∧ 15000 ≤ nextEnds := by
  have hSuspended : ((Tracker.run {} [.report ⟨"a", "web"⟩ (.failure .timeout) 10000]).stateOf
      ⟨"a", "web"⟩).status = .suspended 15000 := by decide
  obtain ⟨kind, failedAt, hKind, hFailedAt, -, hNext⟩ :=
    further_failure_suspends {} [.report ⟨"a", "web"⟩ (.failure .timeout) 10000] ⟨"a", "web"⟩ rfl hSuspended
  cases hKind
  cases hFailedAt
  obtain ⟨nextEnds, hStatus, hEnds, -, -, hSame⟩ := hNext .connectionError 12000 (by decide)
  exact ⟨hSuspended, nextEnds, hStatus, hEnds, hSame rfl⟩

/-- Under the rules that hold if nothing else is set, an engine that asked for a proof of being human rests
for a day. A call that was under way and times out a second later lets it off after ten more seconds. -/
theorem exists_failure_that_cuts_suspension_short :
    SuspensionPolicy.validate {} = .ok () ∧
    ((Tracker.run {} [.report ⟨"a", "web"⟩ (.failure .captcha) 0]).stateOf ⟨"a", "web"⟩).status =
      .suspended 86400000 ∧
    ((Tracker.run {} [.report ⟨"a", "web"⟩ (.failure .captcha) 0,
      .report ⟨"a", "web"⟩ (.failure .timeout) 1000]).stateOf ⟨"a", "web"⟩).status = .suspended 11000 :=
  ⟨rfl, rfl, rfl⟩

end Metasearch.Health
