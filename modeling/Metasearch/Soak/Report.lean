import Metasearch.Crash
import Metasearch.Decimal.Read
import Metasearch.Duration
import Metasearch.Response

/-!
The tallies of a run of searches and how the run is judged by them.
-/

namespace Metasearch.Soak

/-- Values by name, in strictly increasing order of names. -/
abbrev Tally (α : Type) := List (String × α)

/-- Change the value of a name, which starts from `none`. -/
def Tally.change {α : Type} (name : String) (change : Option α → α) : Tally α → Tally α
  | [] => [(name, change none)]
  | (key, value) :: rest =>
    if key = name then (key, change (some value)) :: rest
    else if name < key then (name, change none) :: (key, value) :: rest
    else (key, value) :: Tally.change name change rest

/-- Count one more for a name. -/
def Tally.count (tally : Tally Nat) (name : String) : Tally Nat :=
  tally.change name fun n => n.getD 0 + 1

/-- Set the value of a name. -/
def Tally.set {α : Type} (tally : Tally α) (name : String) (value : α) : Tally α :=
  tally.change name fun _ => value

/-- The tally of a list of values by name; later ones replace earlier ones. -/
def Tally.ofList {α : Type} (entries : List (String × α)) : Tally α :=
  entries.foldl (fun tally (name, value) => tally.set name value) []

/-- How well a run went. -/
inductive Verdict where
  | excellent
  | good
  | warning
deriving DecidableEq, Repr

namespace Verdict

/-- The percentage of successes from which on a run is excellent, and from which on it passes. -/
def excellentRate : Float := 95.0

def passRate : Float := 80.0

/-- The verdict on a percentage of successes. -/
def ofRate (rate : Float) : Verdict :=
  if rate ≥ excellentRate then excellent else if rate ≥ passRate then good else warning

def name : Verdict → String
  | excellent => "excellent"
  | good => "good"
  | warning => "warning"

def message : Verdict → String
  | excellent => "EXCELLENT: ready for continuous operation"
  | good => "GOOD: continuous operation works with minor issues"
  | warning => "WARNING: success rate is lower than expected, check configuration"

end Verdict

/-- The tallies of a run. -/
structure Report where
  totalSearches : Nat := 0
  successfulSearches : Nat := 0
  failedSearches : Nat := 0
  totalResults : Nat := 0
  /-- For each engine the results it contributed to. -/
  engineResults : Tally Nat := []
  /-- For each engine the searches in which it failed or was left out. -/
  unresponsiveCounts : Tally Nat := []
  /-- For each such engine the latest reason. -/
  unresponsiveReasons : Tally String := []
  responseTimes : List Duration := []

/-- A count as a double. -/
def ofCount (n : Nat) : Float :=
  (Decimal.Unsigned.mk n 0).toFloat

namespace Report

/-- Note the outcome of one search. -/
def record {ε : Type} (report : Report) (elapsed : Duration) (outcome : Except ε Response) : Report :=
  let report :=
    { report with
      totalSearches := report.totalSearches + 1
      responseTimes := report.responseTimes ++ [elapsed] }
  match outcome with
  | .error _ => { report with failedSearches := report.failedSearches + 1 }
  | .ok response =>
    { report with
      successfulSearches := report.successfulSearches + 1
      totalResults := report.totalResults + response.numberOfResults
      engineResults :=
        (response.results.flatMap MergedResult.engineNames).foldl Tally.count report.engineResults
      unresponsiveCounts :=
        (response.unresponsive.map (·.1)).foldl Tally.count report.unresponsiveCounts
      unresponsiveReasons :=
        response.unresponsive.foldl (fun tally (name, reason) => tally.set name reason)
          report.unresponsiveReasons }

/-- The percentage of searches that were answered. -/
def successRate (report : Report) : Float :=
  if report.totalSearches = 0 then 0.0
  else ofCount report.successfulSearches / ofCount report.totalSearches * 100.0

def verdict (report : Report) : Verdict :=
  .ofRate report.successRate

def passed (report : Report) : Bool :=
  report.successRate ≥ Verdict.passRate

/-- The mean number of results of the answered searches. -/
def averageResults (report : Report) : Float :=
  ofCount report.totalResults / ofCount (max report.successfulSearches 1)

/-- The sum of durations, if a duration can hold it. -/
def totalTime (times : List Duration) : Option Duration :=
  Duration.ofNanos? (times.foldl (fun sum time => sum + time.inNanos) 0)

/-- The mean duration of a search, with a fraction of a nanosecond dropped; none without searches. -/
def averageTime (report : Report) : Except Crash (Option Duration) :=
  match report.responseTimes with
  | [] => .ok none
  | times =>
    match totalTime times with
    | none => .error .durationOverflow
    | some total => .ok (Duration.ofNanos? (total.inNanos / times.length))

def minTime (report : Report) : Option Duration :=
  match report.responseTimes with
  | [] => none
  | time :: rest => some (rest.foldl Duration.min time)

def maxTime (report : Report) : Option Duration :=
  match report.responseTimes with
  | [] => none
  | time :: rest => some (rest.foldl Duration.max time)

/-- The engines that contributed to most results, most first and by name among equals. -/
def topEngines (report : Report) (limit : Nat) : List (String × Nat) :=
  (report.engineResults.mergeSort fun a b => decide (b.2 ≤ a.2)).take limit

end Report

end Metasearch.Soak
