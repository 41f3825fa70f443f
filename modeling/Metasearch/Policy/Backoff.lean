import Metasearch.Engine.Failure

/-!
How long an engine rests after a failure.
-/

namespace Metasearch

/-- The longest rest that any rule gives: thirty days, in seconds. -/
def maxSuspension : Nat := 30 * 24 * 60 * 60

/-- The greatest 64-bit number, at which products are held. -/
def wordMax : Nat := UInt64.size - 1

/-- The rule for the length of a rest, in seconds. -/
inductive Backoff where
  /-- The base after the first failure in a row, doubled with each further one up to a ceiling. -/
  | exponential (baseSecs maxSecs : UInt64)
  /-- The same length however many failures came before. -/
  | fixed (secs : UInt64)
deriving DecidableEq, Repr

namespace Backoff

/-- The factor for a number of doublings, held at the greatest word from the sixty-fourth on. -/
def factor (doublings : Nat) : Nat :=
  if doublings < 64 then Nat.pow 2 doublings else wordMax

/-- The length in seconds of the rest after `streak` failures in a row. A streak of zero counts as
one. -/
def seconds (rule : Backoff) (streak : Nat) : Nat :=
  let length := match rule with
    | fixed secs => secs.toNat
    | exponential baseSecs maxSecs =>
      min (min (baseSecs.toNat * factor (max streak 1 - 1)) wordMax) maxSecs.toNat
  min length maxSuspension

end Backoff

/-- What makes a rule unusable. -/
inductive BackoffFault where
  | zeroSeconds
  | emptyRange
  | tooLong
deriving DecidableEq, Repr

/-- The fault of the rule for one kind of failure, in words. -/
def BackoffFault.message (kind : FailureKind) : BackoffFault → String
  | zeroSeconds => "suspension for " ++ kind.label ++ " must be > 0 seconds"
  | emptyRange => "suspension for " ++ kind.label ++ " needs 0 < base_secs <= max_secs"
  | tooLong =>
    "suspension for " ++ kind.label ++ " must not exceed " ++ toString maxSuspension ++ " seconds"

/-- Check that a rule gives a rest that is neither empty nor too long. -/
def Backoff.validate : Backoff → Except BackoffFault Unit
  | fixed secs =>
    if secs = 0 then .error .zeroSeconds
    else if secs.toNat > maxSuspension then .error .tooLong
    else .ok ()
  | exponential baseSecs maxSecs =>
    if baseSecs = 0 ∨ maxSecs < baseSecs then .error .emptyRange
    else if maxSecs.toNat > maxSuspension then .error .tooLong
    else .ok ()

end Metasearch
