import Metasearch.Proofs.Coordinator.Resting

/-! How long an answer may take. Both the timeout that a request asks for and the one that is configured
bound the time that its answer takes, to the next whole tick, so the shorter of the two does. -/
namespace Metasearch

namespace Duration

variable {a b : Duration}

theorem secs_eq (d : Duration) : d.secs.toNat = d.inNanos / nanosPerSec := by
  simp only [inNanos, nanosPerSec]
  omega

theorem secs_le_secs (h : a.inNanos ≤ b.inNanos) : a.secs.toNat ≤ b.secs.toNat := by
  rw [secs_eq, secs_eq]
  exact Nat.div_le_div_right h

theorem ticks_le_ticks (h : a.inNanos ≤ b.inNanos) : a.ticks ≤ b.ticks :=
  Nat.div_le_div_right (Nat.add_le_add_right h _)

theorem ticks_ofMillis (ms : UInt64) : (ofMillis ms.toNat).ticks = ms.toNat := by
  have hWhole : (ms.toNat * 1000000 + (1000000 - 1)) / 1000000 = ms.toNat := by omega
  rw [ticks, inNanos_ofMillis]
  exact hWhole

theorem inNanos_min_le_left (a b : Duration) : (a.min b).inNanos ≤ a.inNanos := by
  unfold Duration.min
  split
  · exact le_refl _
  · rename_i hLess
    exact (Nat.lt_of_not_le hLess).le

theorem inNanos_min_le_right (a b : Duration) : (a.min b).inNanos ≤ b.inNanos := by
  unfold Duration.min
  split
  · rename_i hLess
    exact hLess
  · exact le_refl _

end Duration

namespace Coordinator

open Dispatch

/-- The clock can tell every timeout that can be configured. -/
theorem secs_ofMillis_lt (ms : UInt64) : (Duration.ofMillis ms.toNat).secs.toNat < clockSeconds := by
  have hMax := ms.toNat_lt_size
  rw [Duration.secs_eq, Duration.inNanos_ofMillis]
  simp only [Duration.nanosPerSec, Duration.nanosPerMilli, clockSeconds, UInt64.size] at hMax ⊢
  omega

section Limits

variable {config : SearchConfig} {request : QueryRequest}

theorem timeoutOf_le_asked {asked : Duration} (hAsked : request.timeout = some asked) :
    ∃ timeout, timeoutOf config request = some timeout ∧ timeout.inNanos ≤ asked.inNanos := by
  unfold timeoutOf
  rw [hAsked]
  cases config.requestTimeoutMs with
  | none => exact ⟨asked, rfl, le_refl _⟩
  | some ms => exact ⟨_, rfl, Duration.inNanos_min_le_left ..⟩

theorem timeoutOf_le_limit {ms : UInt64} (hLimit : config.requestTimeoutMs = some ms) :
    ∃ timeout, timeoutOf config request = some timeout ∧
      timeout.inNanos ≤ (Duration.ofMillis ms.toNat).inNanos := by
  unfold timeoutOf
  rw [hLimit]
  cases request.timeout with
  | none => exact ⟨_, rfl, le_refl _⟩
  | some asked => exact ⟨_, rfl, Duration.inNanos_min_le_right ..⟩

/-- A request is broken off no later than after any length of time that the clock can tell and that its
timeout does not exceed. -/
theorem deadlineOf_le {timeout length : Duration} (hTimeout : timeoutOf config request = some timeout)
    (hLength : timeout.inNanos ≤ length.inNanos) (hClock : length.secs.toNat < clockSeconds)
    (now : Instant) :
    ∃ deadline, deadlineOf config request now = some deadline ∧ deadline ≤ now + length.ticks := by
  have hTold : ¬ timeout.secs.toNat ≥ clockSeconds :=
    Nat.not_le.mpr (Nat.lt_of_le_of_lt (Duration.secs_le_secs hLength) hClock)
  refine ⟨now + timeout.ticks, ?_, Nat.add_le_add_left (Duration.ticks_le_ticks hLength) now⟩
  rw [deadlineOf, hTimeout, Option.bind_some, if_neg hTold]

end Limits

variable {α : Type} [EngineAdapter α] {coordinator : Coordinator} {request : QueryRequest}
  {session final : Session α} {response : Response}

/-- An answer tells how long it took. -/
theorem now_eq_add_elapsed
    (hHandle : coordinator.handle request session = .ok (.ok response, final)) :
    final.now = session.now + response.elapsed := by
  have hLater := now_le_of_handle hHandle
  cases answered_of_handle hHandle with
  | served hValid hCandidates hKept => rfl
  | called hValid hCandidates hKept hPermits => exact (Nat.add_sub_cancel' hLater).symm

theorem elapsed_le_of_deadline {deadline : Instant} {length : Millis}
    (hHandle : coordinator.handle request session = .ok (.ok response, final))
    (hDeadline : deadlineOf coordinator.config request session.now = some deadline)
    (hLength : deadline ≤ session.now + length) : response.elapsed ≤ length := by
  cases answered_of_handle hHandle with
  | served hValid hCandidates hKept => exact Nat.zero_le _
  | @called candidates hValid hCandidates hKept hPermits =>
      have hFinish : (coordinator.dispatchedOf request session candidates).finish ≤
          max session.now deadline := finish_run_le _ _ _ _ _ _ hDeadline
      refine Nat.sub_le_iff_le_add'.mpr (hFinish.trans (max_le ?_ hLength))
      exact Nat.le_add_right _ _

/-- An answer takes no longer than the timeout that the request asks for, if the clock can tell it, counted
in whole ticks of which the last one may be broken. It takes no longer than the configured timeout either,
whatever the request asks for, however many engines there are, and however they behave. A valid request
with candidates is answered, provided that the permits can be counted. -/
theorem elapsed_le_timeouts (coordinator : Coordinator) (request : QueryRequest) (session : Session α) :
    (∀ response final, coordinator.handle request session = .ok (.ok response, final) →
      final.now = session.now + response.elapsed ∧
      (∀ asked, request.timeout = some asked → asked.secs.toNat < clockSeconds →
        response.elapsed ≤ asked.ticks) ∧
      ∀ limit, coordinator.config.requestTimeoutMs = some limit → response.elapsed ≤ limit.toNat) ∧
    (max coordinator.config.maxConcurrentEngines.toNat 1 ≤ maxPermits → request.validate = .ok () →
      ∀ candidates, coordinator.candidates request = .ok candidates →
        ∃ response final, coordinator.handle request session = .ok (.ok response, final)) := by
  constructor
  · intro response final hHandle
    refine ⟨now_eq_add_elapsed hHandle, ?_, ?_⟩
    · intro asked hAsked hClock
      obtain ⟨timeout, hTimeout, hLength⟩ := timeoutOf_le_asked hAsked
      obtain ⟨deadline, hDeadline, hLater⟩ := deadlineOf_le hTimeout hLength hClock session.now
      exact elapsed_le_of_deadline hHandle hDeadline hLater
    · intro limit hLimit
      obtain ⟨timeout, hTimeout, hLength⟩ := timeoutOf_le_limit hLimit
      obtain ⟨deadline, hDeadline, hLater⟩ :=
        deadlineOf_le hTimeout hLength (secs_ofMillis_lt limit) session.now
      rw [Duration.ticks_ofMillis] at hLater
      exact elapsed_le_of_deadline hHandle hDeadline hLater
  · intro hPermits hValid candidates hCandidates
    obtain ⟨response, final, hAnswered⟩ : ∃ response final,
        coordinator.Answered request session response final :=
      exists_answered hPermits hValid hCandidates
    exact ⟨response, final, handle_of_answered hAnswered⟩

/-- A request that asks for less time than is configured, and for a broken number of milliseconds. The
engine that hangs takes all of it, and the one that waits for the permit does not add to it. -/
theorem elapsed_le_timeouts_in_single_file :
    singleFileConfig.requestTimeoutMs = some 100 ∧
    ∃ response final,
      singleFileCoordinator.handle { query := "x", timeout := some ⟨0, 70500000⟩ } singleFileSession =
        .ok (.ok response, final) ∧
      response.failedIds = [⟨"slow", "general"⟩, ⟨"next", "general"⟩] ∧
      response.elapsed ≤ 71 ∧ response.elapsed ≤ 100 ∧ final.now = 71 := by
  obtain ⟨hBounds, hAnswers⟩ := elapsed_le_timeouts singleFileCoordinator
    { query := "x", timeout := some ⟨0, 70500000⟩ } singleFileSession
  obtain ⟨response, final, hHandle⟩ := hAnswers (by decide) rfl _ rfl
  obtain ⟨hNow, hAsked, hLimit⟩ := hBounds response final hHandle
  obtain ⟨_, _, hSame, hFailed, hEnd⟩ : ∃ response final,
      singleFileCoordinator.handle { query := "x", timeout := some ⟨0, 70500000⟩ } singleFileSession =
        .ok (.ok response, final) ∧
      response.failedIds = [⟨"slow", "general"⟩, ⟨"next", "general"⟩] ∧ final.now = 71 :=
    ⟨_, _, rfl, rfl, rfl⟩
  cases hSame.symm.trans hHandle
  exact ⟨rfl, response, final, hHandle, hFailed, hAsked _ rfl (by decide), hLimit 100 rfl, hEnd⟩

end Coordinator

end Metasearch
