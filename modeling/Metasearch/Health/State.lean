import Metasearch.Duration
import Metasearch.Policy.Suspension

/-!
The health of one engine. A failure suspends the engine for as long as the policy says; the first
selection after that time gives it another chance. The streak of failures lasts until a success, so
that a failed second chance costs more.
-/

namespace Metasearch.Health

/-- Whether an engine may be called. -/
inductive Status where
  | healthy
  /-- Not before the given instant. -/
  | suspended (ends : Instant)
deriving DecidableEq, Repr

/-- What became of one call. -/
inductive Outcome where
  | success
  | failure (kind : FailureKind)
deriving DecidableEq, Repr

/-- The greatest streak of failures that is counted. -/
def maxStreak : Nat := UInt32.size - 1

/-- What is known of one engine. -/
structure EngineState where
  status : Status := .healthy
  /-- Failures since the last success. -/
  streak : Nat := 0
  lastFailure : Option FailureKind := none
  lastFailureAt : Option Instant := none
  lastSuccessAt : Option Instant := none
  totalRequests : Nat := 0
  totalFailures : Nat := 0
deriving DecidableEq, Repr

namespace EngineState

/-- The end of the present suspension. -/
def suspendedUntil (state : EngineState) : Option Instant :=
  match state.status with
  | .healthy => none
  | .suspended ends => some ends

/-- Whether an engine may be called at an instant. -/
def mayRun (state : EngineState) (now : Instant) : Bool :=
  match state.status with
  | .healthy => true
  | .suspended ends => decide (ends ≤ now)

/-- Give an engine whose suspension is over another chance. -/
def refreshed (state : EngineState) (now : Instant) : EngineState :=
  if state.mayRun now then { state with status := .healthy } else state

/-- The state after a call has ended. -/
def after (state : EngineState) (policy : SuspensionPolicy) (outcome : Outcome) (now : Instant) :
    EngineState :=
  match outcome with
  | .success =>
    { state with
      status := .healthy
      streak := 0
      lastSuccessAt := some now
      totalRequests := state.totalRequests + 1 }
  | .failure kind =>
    let streak := min (state.streak + 1) maxStreak
    { state with
      status := .suspended (now + 1000 * policy.seconds kind streak)
      streak
      lastFailure := some kind
      lastFailureAt := some now
      totalRequests := state.totalRequests + 1
      totalFailures := state.totalFailures + 1 }

end EngineState

end Metasearch.Health
