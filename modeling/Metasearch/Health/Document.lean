import Metasearch.Duration.Document
import Metasearch.Engine.Document
import Metasearch.Health.Tracker

/-!
Health in documents. Times that remain are written as durations.
-/

namespace Metasearch.Health

open Document

/-- A number of milliseconds, written as a duration. -/
def ofMillis (ms : Millis) : Value :=
  (Duration.ofMillis ms).toValue

def SkippedEngine.toValue (skipped : SkippedEngine) : Value :=
  .table [("engine", skipped.engine.toValue), ("remaining", ofMillis skipped.remaining),
    ("last_failure", ofOption FailureKind.toValue skipped.lastFailure)]

def Snapshot.toValue (snapshot : Snapshot) : Value :=
  .table [("engine", snapshot.engine.toValue), ("suspended", .bool snapshot.suspended),
    ("suspended_for", ofOption ofMillis snapshot.suspendedFor),
    ("consecutive_failures", ofNat snapshot.streak),
    ("last_failure", ofOption FailureKind.toValue snapshot.lastFailure),
    ("total_requests", ofNat snapshot.totalRequests),
    ("total_failures", ofNat snapshot.totalFailures)]

end Metasearch.Health
