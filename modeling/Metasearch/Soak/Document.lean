import Metasearch.Document.Record
import Metasearch.Soak.Report

/-!
The tallies of a run in documents. Times are written in seconds.
-/

namespace Metasearch.Soak

open Document

def Verdict.toValue (verdict : Verdict) : Value :=
  .text verdict.name

/-- The tallies, after the moment at which the run was begun. -/
def Report.toValue (report : Report) (startedAt : String) : Value :=
  .table [("started_at", .text startedAt),
    ("total_searches", ofNat report.totalSearches),
    ("successful_searches", ofNat report.successfulSearches),
    ("failed_searches", ofNat report.failedSearches),
    ("total_results", ofNat report.totalResults),
    ("engine_results", .table (report.engineResults.map fun (name, n) => (name, ofNat n))),
    ("unresponsive_counts", .table (report.unresponsiveCounts.map fun (name, n) => (name, ofNat n))),
    ("unresponsive_reasons",
      .table (report.unresponsiveReasons.map fun (name, reason) => (name, .text reason))),
    ("response_times", .list (report.responseTimes.map fun time => .float time.inSeconds))]

end Metasearch.Soak
