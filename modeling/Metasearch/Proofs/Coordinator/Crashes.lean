import Metasearch.Coordinator.Overlap
import Metasearch.Proofs.Coordinator.Contacts

/-! When a request gets no answer at all. However the adapters behave, and whatever the timeouts and the
deadline are, a dispatch reports on every target, unless it has targets and more permits than can be
counted. A coordinator hands the configured number of permits to its dispatches, and validity sets no
upper limit to it, so a valid configuration may crash with the first request that reaches an engine. -/
namespace Metasearch

namespace Dispatch

variable {α : Type} [EngineAdapter α] (limits : Limits) (request : QueryRequest) (opened : Instant)
  (targets : List Target) (pool : List α) (tracker : Health.Tracker)

/-- A dispatch reports on every target exactly if its permits can be counted. -/
theorem exists_dispatch_eq_ok_iff :
    (∃ done, dispatch limits request opened targets tracker pool = .ok done ∧
      done.report.outcomes.map (·.engine) = targets.map (·.engine)) ↔
      targets = [] ∨ limits.concurrency ≤ maxPermits := by
  rw [← permitsCountable_eq_true_iff]
  constructor
  · rintro ⟨done, hDone, -⟩
    by_contra hNot
    rw [dispatch_eq_error _ _ _ _ _ _ (Bool.eq_false_of_not_eq_true hNot)] at hDone
    cases hDone
  · intro hPermits
    exact ⟨_, dispatch_eq_ok _ _ _ _ _ _ hPermits, map_engine_outcomes_run ..⟩

theorem dispatch_eq_error_iff (crash : Crash) :
    dispatch limits request opened targets tracker pool = .error crash ↔
      crash = .permitLimit ∧ targets ≠ [] ∧ maxPermits < limits.concurrency := by
  rw [← permitsCountable_eq_false_iff]
  cases hPermits : permitsCountable limits targets with
  | true =>
      rw [dispatch_eq_ok _ _ _ _ _ _ hPermits]
      simp
  | false =>
      rw [dispatch_eq_error _ _ _ _ _ _ hPermits]
      simp [eq_comm]

end Dispatch

namespace Coordinator

open Dispatch

variable {α : Type} {coordinator : Coordinator} {request : QueryRequest} {session opened : Session α}

/-- The limits of a request come from the configuration. -/
theorem limits_of_openRequest {pending : Pending}
    (h : coordinator.openRequest request session = (.pending pending, opened)) :
    pending.limits = coordinator.limitsOf request session.now := by
  rcases openRequest_cases coordinator request session with ⟨error, hOpen⟩ |
    ⟨candidates, -, -, ⟨results, -, hOpen⟩ | ⟨-, hOpen⟩⟩
  · cases hOpen.symm.trans h
  · cases hOpen.symm.trans h
  · cases hOpen.symm.trans h
    rfl

variable [EngineAdapter α]

theorem handle_eq_error_iff (coordinator : Coordinator) (request : QueryRequest) (session : Session α)
    (crash : Crash) :
    coordinator.handle request session = .error crash ↔
      crash = .permitLimit ∧ coordinator.passedOn request session ≠ [] ∧
      maxPermits < coordinator.config.maxConcurrentEngines.toNat := by
  unfold handle passedOn
  cases hOpen : coordinator.openRequest request session with
  | mk opening opened =>
      cases opening with
      | refused error => simp
      | served response => simp
      | pending pending =>
          have hLimits := limits_of_openRequest hOpen
          have hDispatch := dispatch_eq_error_iff pending.limits request pending.opened pending.targets
            opened.pool opened.tracker crash
          rw [hLimits] at hDispatch
          refine Iff.trans ?_ hDispatch
          dsimp only
          rw [hLimits]
          split
          · rename_i hError
            simp only [hError, Except.error.injEq]
          · rename_i hDone
            rw [hDone]
            simp

theorem crash_of_handle {crash : Crash} (h : coordinator.handle request session = .error crash) :
    crash = .permitLimit ∧ maxPermits < coordinator.config.maxConcurrentEngines.toNat := by
  obtain ⟨hCrash, -, hMany⟩ := (handle_eq_error_iff coordinator request session crash).mp h
  exact ⟨hCrash, hMany⟩

theorem crash_of_handleInTurn {first second : QueryRequest} {begins : Instant} {crash : Crash}
    (h : coordinator.handleInTurn first second begins session = .error crash) :
    crash = .permitLimit ∧ maxPermits < coordinator.config.maxConcurrentEngines.toNat := by
  unfold handleInTurn handleAt at h
  cases hOne : coordinator.handle first session with
  | error other =>
      rw [hOne] at h
      cases h
      exact crash_of_handle hOne
  | ok one =>
      rw [hOne] at h
      cases hTwo : coordinator.handle second { one.2 with now := begins } with
      | error other =>
          simp only [bind, Except.bind, hTwo] at h
          cases h
          exact crash_of_handle hTwo
      | ok two =>
          simp only [bind, Except.bind, hTwo] at h
          cases h

theorem crash_of_handlePair {first second : QueryRequest} {gap : Millis} {crash : Crash}
    (h : coordinator.handlePair first second gap session = .error crash) :
    crash = .permitLimit ∧ maxPermits < coordinator.config.maxConcurrentEngines.toNat := by
  unfold handlePair at h
  dsimp only at h
  split at h
  · rename_i one opened hOpen
    have hLimits := limits_of_openRequest hOpen
    cases hAlone : dispatch one.limits first one.opened one.targets opened.tracker opened.pool with
    | error other =>
        rw [hAlone] at h
        cases h
        obtain ⟨hCrash, -, hMany⟩ := (dispatch_eq_error_iff ..).mp hAlone
        rw [hLimits] at hMany
        exact ⟨hCrash, hMany⟩
    | ok alone =>
        simp only [hAlone, bind, Except.bind] at h
        split at h
        · exact crash_of_handleInTurn h
        · split at h
          · cases h
          · cases h
          · rename_i two later hOpenTwo
            split at h
            · cases h
            · rename_i hPermits
              cases h
              have hMany := (permitsCountable_eq_false_iff ..).mp (Bool.eq_false_of_not_eq_true hPermits)
              rw [limits_of_openRequest hOpenTwo] at hMany
              exact ⟨rfl, hMany.2⟩
  · exact crash_of_handleInTurn h

/-- There is one reason only for a dispatch, a request or a pair of overlapping requests to crash. A dispatch
reports on every target exactly if it has none or its permits can be counted. A request crashes exactly if
it reaches an engine and the coordinator is configured for more calls at once than that, and of two
requests that overlap neither crashes for another reason. -/
theorem only_uncountable_permits_crash (limits : Limits) (targets : List Target) (opened : Instant)
    (coordinator : Coordinator) (request : QueryRequest) (session : Session α) :
    ((∃ done, dispatch limits request opened targets session.tracker session.pool = .ok done ∧
        done.report.outcomes.map (·.engine) = targets.map (·.engine)) ↔
      targets = [] ∨ limits.concurrency ≤ maxPermits) ∧
    (∀ crash, dispatch limits request opened targets session.tracker session.pool = .error crash ↔
      crash = .permitLimit ∧ targets ≠ [] ∧ maxPermits < limits.concurrency) ∧
    (∀ crash, coordinator.handle request session = .error crash ↔
      crash = .permitLimit ∧ coordinator.passedOn request session ≠ [] ∧
      maxPermits < coordinator.config.maxConcurrentEngines.toNat) ∧
    ∀ later gap crash, coordinator.handlePair request later gap session = .error crash →
      crash = .permitLimit ∧ maxPermits < coordinator.config.maxConcurrentEngines.toNat :=
  ⟨exists_dispatch_eq_ok_iff limits request opened targets session.pool session.tracker,
    dispatch_eq_error_iff limits request opened targets session.pool session.tracker,
    handle_eq_error_iff coordinator request session,
    fun _ _ _ => crash_of_handlePair⟩

/-- One engine, and room for a number of calls at once. -/
def roomyConfig (room : UInt64) : SearchConfig :=
  { engines := [{ name := "a" }], maxConcurrentEngines := room }

def roomyCoordinator (room : UInt64) : Coordinator :=
  { config := roomyConfig room
    engines := [⟨⟨"a", "general"⟩, 0, none⟩]
    emptyCache := { lifetime := 0 } }

def roomySession : Session Script :=
  { tracker := Health.Tracker.run {} [.register ⟨"a", "general"⟩]
    cache := { lifetime := 0 }
    pool := [{ behaviours := [⟨20, .echo⟩] }]
    now := 0 }

/-- With as many permits as can be counted a request is answered. With one more a pair of requests crashes. -/
theorem only_uncountable_permits_crash_one_engine :
    (∃ answer, (roomyCoordinator 2305843009213693951).handle { query := "x" } roomySession = .ok answer) ∧
    (roomyCoordinator 2305843009213693952).handlePair { query := "x" } { query := "y" } 5 roomySession =
      .error .permitLimit ∧
    maxPermits < (roomyCoordinator 2305843009213693952).config.maxConcurrentEngines.toNat := by
  refine ⟨?_, rfl, ?_⟩
  · obtain ⟨-, -, hHandle, -⟩ := only_uncountable_permits_crash pairedLimits [] 0
      (roomyCoordinator 2305843009213693951) { query := "x" } roomySession
    cases hAnswer : (roomyCoordinator 2305843009213693951).handle { query := "x" } roomySession with
    | ok answer => exact ⟨answer, rfl⟩
    | error crash =>
        obtain ⟨-, -, hMany⟩ := (hHandle crash).mp hAnswer
        exact absurd hMany (by decide)
  · obtain ⟨-, -, -, hPair⟩ := only_uncountable_permits_crash pairedLimits [] 0
      (roomyCoordinator 2305843009213693952) { query := "x" } roomySession
    exact (hPair { query := "y" } 5 .permitLimit rfl).2

/-- A coordinator that comes out of a valid configuration may crash with its first request, and so may the
dispatch of one target. -/
theorem exists_valid_config_whose_requests_crash :
    ∃ (config : SearchConfig) (names : List String) (coordinator : Coordinator) (tracker : Health.Tracker)
      (pool : List Script),
      config.validate = .ok () ∧ build config names = .ok (.ok coordinator, tracker) ∧
      coordinator.handle { query := "x" } ⟨tracker, coordinator.emptyCache, pool, 0⟩ =
        .error .permitLimit ∧
      dispatch { pairedLimits with concurrency := config.maxConcurrentEngines.toNat } { query := "x" } 0
        [⟨⟨"a", "general"⟩, 0, none⟩] tracker pool = .error .permitLimit :=
  ⟨roomyConfig 2305843009213693952, ["a"], roomyCoordinator 2305843009213693952, roomySession.tracker,
    roomySession.pool, rfl, rfl, rfl, rfl⟩

end Coordinator

end Metasearch
