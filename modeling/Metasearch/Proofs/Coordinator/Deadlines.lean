import Metasearch.Proofs.Coordinator.Built

/-! A deadline always lies ahead. Neither a request that is answered nor a checked configuration sets a
timeout of zero, and a timeout of less than a tick still ends at the next one. -/
namespace Metasearch

namespace Duration

theorem isZero_iff {d : Duration} : d.isZero = true ↔ d.inNanos = 0 := by
  obtain ⟨secs, nanos⟩ := d
  have hSecs : secs = 0 ↔ secs.toNat = 0 := UInt64.toNat_inj.symm
  have hNanos : nanos = 0 ↔ nanos.val = 0 := Fin.ext_iff
  simp only [isZero, inNanos, nanosPerSec, Bool.and_eq_true, beq_iff_eq, hSecs, hNanos]
  omega

theorem ticks_pos {d : Duration} (h : d.isZero = false) : 0 < d.ticks := by
  have hNanos : d.inNanos ≠ 0 := fun hZero => by simp [isZero_iff.mpr hZero] at h
  exact Nat.div_pos (by omega) (by decide)

theorem isZero_min {a b : Duration} (ha : a.isZero = false) (hb : b.isZero = false) :
    (a.min b).isZero = false := by
  unfold Duration.min
  split
  · exact ha
  · exact hb

theorem inNanos_ofMillis (ms : UInt64) : (ofMillis ms.toNat).inNanos = ms.toNat * nanosPerMilli := by
  have hSecs : (UInt64.ofNat (ms.toNat / 1000)).toNat = ms.toNat / 1000 :=
    UInt64.toNat_ofNat_of_lt' (Nat.lt_of_le_of_lt (Nat.div_le_self _ _) ms.toNat_lt_size)
  have hNanos : (Fin.ofNat 1000000000 (ms.toNat % 1000 * nanosPerMilli)).val =
      ms.toNat % 1000 * nanosPerMilli :=
    Nat.mod_eq_of_lt (by unfold nanosPerMilli; omega)
  rw [inNanos, ofMillis, hSecs, hNanos, nanosPerSec, nanosPerMilli]
  omega

theorem isZero_ofMillis {ms : UInt64} (h : ms ≠ 0) : (ofMillis ms.toNat).isZero = false := by
  have hPos : ms.toNat ≠ 0 := fun hZero => h (UInt64.toNat_inj.mp hZero)
  rw [Bool.eq_false_iff, ne_eq, isZero_iff, inNanos_ofMillis]
  exact Nat.mul_ne_zero hPos (by decide)

end Duration

theorem QueryRequest.isZero_of_mem_timeout {request : QueryRequest} (h : request.validate = .ok ())
    {asked : Duration} (hAsked : request.timeout = some asked) : asked.isZero = false := by
  unfold validate at h
  rw [hAsked] at h
  repeat' split at h
  all_goals simp_all

theorem SearchConfig.requestTimeoutMs_ne_zero {config : SearchConfig} (h : config.validate = .ok ()) :
    config.requestTimeoutMs ≠ some 0 := by
  intro hZero
  have hFault := (validate_eq_ok_iff.mp h).1
  by_cases hEngine : config.engineTimeoutMs = 0 <;> simp [limitFault?, hEngine, hZero] at hFault

namespace Coordinator

theorem Built.validate_config {coordinator : Coordinator} (h : coordinator.Built) :
    coordinator.config.validate = .ok () := by
  obtain ⟨config, names, tracker, final, h⟩ := h
  obtain ⟨hValid, -, -, hConfig⟩ := withTracker_eq_ok h
  rw [hConfig]
  exact hValid

theorem isZero_of_mem_timeoutOf {config : SearchConfig} {request : QueryRequest}
    (hConfig : config.validate = .ok ()) (hRequest : request.validate = .ok ()) {timeout : Duration}
    (h : timeoutOf config request = some timeout) : timeout.isZero = false := by
  have hLimit : ∀ limit, (config.requestTimeoutMs.map fun ms => Duration.ofMillis ms.toNat) = some limit →
      limit.isZero = false := by
    intro limit hLimit
    obtain ⟨ms, hMs, rfl⟩ := Option.map_eq_some_iff.mp hLimit
    exact Duration.isZero_ofMillis fun hZero =>
      SearchConfig.requestTimeoutMs_ne_zero hConfig (hZero ▸ hMs)
  unfold timeoutOf at h
  split at h
  · rename_i asked limit hAsked hSet
    cases h
    exact Duration.isZero_min (QueryRequest.isZero_of_mem_timeout hRequest hAsked) (hLimit limit hSet)
  · rename_i asked hAsked _
    cases h
    exact QueryRequest.isZero_of_mem_timeout hRequest hAsked
  · exact hLimit timeout h

/-- A request that can be answered is not broken off in the instant in which it is opened. -/
theorem lt_of_mem_deadlineOf {config : SearchConfig} {request : QueryRequest} {now deadline : Instant}
    (hConfig : config.validate = .ok ()) (hRequest : request.validate = .ok ())
    (h : deadlineOf config request now = some deadline) : now < deadline := by
  obtain ⟨timeout, hTimeout, hDeadline⟩ := Option.bind_eq_some_iff.mp h
  have hTicks := Duration.ticks_pos (isZero_of_mem_timeoutOf hConfig hRequest hTimeout)
  split at hDeadline
  · cases hDeadline
  · cases hDeadline
    exact Nat.lt_add_of_pos_right hTicks

end Coordinator

end Metasearch
