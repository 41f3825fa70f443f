import Metasearch.Proofs.Health.Relapses

/-! How long an engine that has failed is left out. Its rest is counted from the failure, and nothing that
happens to other engines changes it. A policy that passes its check leaves it out for a second at least and
for thirty days at most. -/
namespace Metasearch.Health

variable {policy : SuspensionPolicy} {past between : List Event} {engine : EngineId} {kind : FailureKind}
  {failedAt now : Instant} {candidates : List EngineId}

namespace EngineState

theorem mayRun_of_suspended {state : EngineState} {ends : Instant} (h : state.status = .suspended ends) :
    state.mayRun now = true ↔ ends ≤ now := by
  simp [mayRun, h]

end EngineState

/-- The tracker after a failure of an engine and events that do not concern the engine. -/
def failedBefore (policy : SuspensionPolicy) (past : List Event) (engine : EngineId) (kind : FailureKind)
    (failedAt : Instant) (between : List Event) : Tracker :=
  Tracker.run { policy } (past ++ .report engine (.failure kind) failedAt :: between)

theorem ordered_failedBefore :
    (failedBefore policy past engine kind failedAt between).states.Ordered :=
  Tracker.ordered_run (states_nil_ordered policy) _

/-- The failure is the last that is known of the engine, and its rule says how long the engine rests. -/
theorem stateOf_failedBefore (hQuiet : ∀ event ∈ between, event.concerns engine = false) :
    (failedBefore policy past engine kind failedAt between).stateOf engine =
      ((Tracker.run { policy } past).stateOf engine).after policy (.failure kind) failedAt := by
  have hSplit : past ++ .report engine (.failure kind) failedAt :: between =
      (past ++ [.report engine (.failure kind) failedAt]) ++ between := by simp
  rw [failedBefore, hSplit, Tracker.run_append,
    stateOf_run_of_not_concerns (Tracker.ordered_run (states_nil_ordered policy) _) hQuiet,
    stateOf_run_report]

/-- The streak of an engine with one more failure. -/
def nextStreak (policy : SuspensionPolicy) (past : List Event) (engine : EngineId) : Nat :=
  min (((Tracker.run { policy } past).stateOf engine).streak + 1) maxStreak

theorem mayRun_failedBefore (hQuiet : ∀ event ∈ between, event.concerns engine = false) :
    ((failedBefore policy past engine kind failedAt between).stateOf engine).mayRun now = true ↔
      failedAt + 1000 * policy.seconds kind (nextStreak policy past engine) ≤ now := by
  rw [stateOf_failedBefore hQuiet]
  exact EngineState.mayRun_of_suspended rfl

/-- A selection takes the engine if its rest is over. -/
theorem mem_eligible_failedBefore (hQuiet : ∀ event ∈ between, event.concerns engine = false)
    (hMem : engine ∈ candidates) :
    engine ∈ ((failedBefore policy past engine kind failedAt between).select now candidates).1.eligible ↔
      failedAt + 1000 * policy.seconds kind (nextStreak policy past engine) ≤ now := by
  rw [Tracker.eligible_select now ordered_failedBefore, List.mem_filter, mayRun_failedBefore hQuiet]
  exact and_iff_right hMem

/-- A selection that comes too early leaves the engine out for what is left of its rest. -/
theorem mem_skipped_failedBefore (hQuiet : ∀ event ∈ between, event.concerns engine = false)
    (hMem : engine ∈ candidates) {skipped : SkippedEngine} :
    skipped ∈ ((failedBefore policy past engine kind failedAt between).select now candidates).1.skipped ∧
        skipped.engine = engine ↔
      now < failedAt + 1000 * policy.seconds kind (nextStreak policy past engine) ∧
      skipped = ⟨engine, failedAt + 1000 * policy.seconds kind (nextStreak policy past engine) - now,
        some kind⟩ := by
  have hRuns : ((failedBefore policy past engine kind failedAt between).stateOf engine).mayRun now = true ↔
      failedAt + 1000 * policy.seconds kind (nextStreak policy past engine) ≤ now :=
    mayRun_failedBefore hQuiet
  have hListed : (failedBefore policy past engine kind failedAt between).skippedOf now engine =
      ⟨engine, failedAt + 1000 * policy.seconds kind (nextStreak policy past engine) - now, some kind⟩ := by
    rw [Tracker.skippedOf, stateOf_failedBefore hQuiet]
    rfl
  rw [Tracker.skipped_select now ordered_failedBefore, ← hListed, ← Nat.not_le, ← hRuns]
  simp only [List.mem_map, List.mem_filter, Bool.not_eq_true', Bool.not_eq_true]
  constructor
  · rintro ⟨⟨id, ⟨-, hWaits⟩, rfl⟩, hEngine⟩
    obtain rfl : id = engine := hEngine
    exact ⟨hWaits, rfl⟩
  · rintro ⟨hWaits, rfl⟩
    exact ⟨⟨engine, ⟨hMem, hWaits⟩, rfl⟩, rfl⟩

/-- Under a policy that passes its check, after any past, an engine that fails is left out by each selection
of the next second, and taken by each that comes thirty days later or after that, if nothing else concerns
the engine in between. This holds for every kind of failure and every streak. For one kind the rest never
gets shorter as the streak grows. -/
theorem failed_engine_rests_a_second_to_thirty_days (hValid : policy.validate = .ok ())
    (hQuiet : ∀ event ∈ between, event.concerns engine = false) (hMem : engine ∈ candidates) :
    (now < failedAt + 1000 →
      engine ∉ ((failedBefore policy past engine kind failedAt between).select now
        candidates).1.eligible ∧
      ∃ skipped ∈ ((failedBefore policy past engine kind failedAt between).select now
        candidates).1.skipped, skipped.engine = engine ∧ skipped.lastFailure = some kind) ∧
    (failedAt + 30 * 24 * 60 * 60 * 1000 ≤ now →
      engine ∈ ((failedBefore policy past engine kind failedAt between).select now
        candidates).1.eligible ∧
      ∀ skipped ∈ ((failedBefore policy past engine kind failedAt between).select now
        candidates).1.skipped, skipped.engine ≠ engine) ∧
    ∀ shorter longer, shorter ≤ longer → policy.seconds kind shorter ≤ policy.seconds kind longer := by
  have hSome := SuspensionPolicy.seconds_pos hValid kind (nextStreak policy past engine)
  have hMost : policy.seconds kind (nextStreak policy past engine) ≤ 30 * 24 * 60 * 60 :=
    Backoff.seconds_le_maxSuspension _ _
  refine ⟨?_, ?_, fun _ _ hStreak => Backoff.seconds_le_seconds _ hStreak⟩
  · intro hEarly
    have hWaits : now < failedAt + 1000 * policy.seconds kind (nextStreak policy past engine) :=
      Nat.lt_of_lt_of_le hEarly (Nat.add_le_add_left (Nat.mul_le_mul_left 1000 hSome) failedAt)
    refine ⟨fun hEligible => ?_, ?_⟩
    · exact Nat.not_le_of_lt hWaits ((mem_eligible_failedBefore hQuiet hMem).mp hEligible)
    · obtain ⟨hSkipped, hEngine⟩ := (mem_skipped_failedBefore hQuiet hMem).mpr ⟨hWaits, rfl⟩
      exact ⟨_, hSkipped, hEngine, rfl⟩
  · intro hLate
    have hOver : failedAt + 1000 * policy.seconds kind (nextStreak policy past engine) ≤ now :=
      Nat.le_trans (Nat.add_le_add_left (Nat.mul_le_mul_left 1000 hMost) failedAt) hLate
    refine ⟨(mem_eligible_failedBefore hQuiet hMem).mpr hOver, ?_⟩
    intro skipped hSkipped hEngine
    exact Nat.not_lt_of_le hOver ((mem_skipped_failedBefore hQuiet hMem).mp ⟨hSkipped, hEngine⟩).1

/-- An engine without luck: it has asked for a proof of being human twice, and times out at last. Another
engine is reset and selected in between. -/
theorem failed_engine_rests_a_second_to_thirty_days_after_captchas :
    SuspensionPolicy.validate {} = .ok () ∧
    (⟨"a", "web"⟩ : EngineId) ∉ ((failedBefore {}
      [.report ⟨"a", "web"⟩ (.failure .captcha) 7, .report ⟨"a", "web"⟩ (.failure .captcha) 9]
      ⟨"a", "web"⟩ .timeout 5000 [.reset ⟨"b", "web"⟩, .select [⟨"b", "web"⟩] 6000]).select 5999
        [⟨"b", "web"⟩, ⟨"a", "web"⟩]).1.eligible ∧
    (⟨"a", "web"⟩ : EngineId) ∈ ((failedBefore {}
      [.report ⟨"a", "web"⟩ (.failure .captcha) 7, .report ⟨"a", "web"⟩ (.failure .captcha) 9]
      ⟨"a", "web"⟩ .timeout 5000 [.reset ⟨"b", "web"⟩, .select [⟨"b", "web"⟩] 6000]).select 2592005000
        [⟨"b", "web"⟩, ⟨"a", "web"⟩]).1.eligible := by
  have hValid : SuspensionPolicy.validate {} = .ok () := rfl
  have hQuiet : ∀ event ∈ ([.reset ⟨"b", "web"⟩, .select [⟨"b", "web"⟩] 6000] : List Event),
      event.concerns ⟨"a", "web"⟩ = false := by decide
  have hMem : (⟨"a", "web"⟩ : EngineId) ∈ ([⟨"b", "web"⟩, ⟨"a", "web"⟩] : List EngineId) := by decide
  exact ⟨hValid,
    ((failed_engine_rests_a_second_to_thirty_days hValid hQuiet hMem).1 (by decide)).1,
    ((failed_engine_rests_a_second_to_thirty_days hValid hQuiet hMem).2.1 (by decide)).1⟩

end Metasearch.Health
