import Metasearch.Policy.Backoff

/-!
The suspension policy: one rule for each kind of failure.
-/

namespace Metasearch

/-- A rule for every kind of failure. Failures that pass by themselves start short and grow; refusals
are met with a long rest at once. -/
structure SuspensionPolicy where
  timeout : Backoff := .exponential 5 300
  connectionError : Backoff := .exponential 5 300
  malformedResponse : Backoff := .exponential 10 600
  rateLimited : Backoff := .fixed 3600
  captcha : Backoff := .fixed 86400
  accessDenied : Backoff := .fixed 86400
deriving DecidableEq, Repr

namespace SuspensionPolicy

/-- The rule for one kind of failure. -/
def rule (policy : SuspensionPolicy) : FailureKind → Backoff
  | .timeout => policy.timeout
  | .connectionError => policy.connectionError
  | .malformedResponse => policy.malformedResponse
  | .rateLimited => policy.rateLimited
  | .captcha => policy.captcha
  | .accessDenied => policy.accessDenied

/-- The rest in seconds after the last of `streak` failures in a row, which was of the given kind. -/
def seconds (policy : SuspensionPolicy) (kind : FailureKind) (streak : Nat) : Nat :=
  (policy.rule kind).seconds streak

/-- Check the rules in the order of the failure kinds; the first fault is reported with its kind. -/
def validate (policy : SuspensionPolicy) : Except (FailureKind × BackoffFault) Unit :=
  FailureKind.all.forM fun kind =>
    match (policy.rule kind).validate with
    | .ok () => .ok ()
    | .error fault => .error (kind, fault)

end SuspensionPolicy

end Metasearch
