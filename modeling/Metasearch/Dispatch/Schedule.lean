import Metasearch.Engine.Adapter

/-!
When the engines of one dispatch are called. Every call holds a permit from its start to its end; the
engines queue for permits in the order in which they are listed. Nothing here depends on what else
happens on the clock, so a schedule is a list of runs and no simulated world.
-/

namespace Metasearch.Dispatch

/-- An engine to call. -/
structure Target where
  engine : EngineId
  /-- The number of the adapter that calls it. -/
  adapter : Nat
  /-- How long the call may take, if not as long as for the other engines. -/
  timeout : Option Millis
deriving DecidableEq, Repr

/-- The limits of a dispatch. -/
structure Limits where
  /-- How many engines may be called at once; zero counts as one. -/
  concurrency : Nat
  /-- How many hits of each engine are kept; all if not given. -/
  resultsPerEngine : Option Nat
  /-- How long a call may take. -/
  engineTimeout : Millis
  /-- The instant at which the whole dispatch is broken off. -/
  deadline : Option Instant
deriving DecidableEq, Repr

/-- How many engines may be called at once. -/
def Limits.lanes (limits : Limits) : Nat :=
  max limits.concurrency 1

/-- Whether an instant is still before the deadline. -/
def Limits.before (limits : Limits) (t : Instant) : Bool :=
  match limits.deadline with
  | none => true
  | some deadline => decide (t < deadline)

/-- How long the call of a target may take. -/
def Limits.timeoutOf (limits : Limits) (target : Target) : Millis :=
  target.timeout.getD limits.engineTimeout

/-- How a call that was begun came to its end: with hits, with a failure, or without a word. -/
inductive Result where
  | hits (hits : List RawHit)
  | failure (error : EngineError)
  | lost
deriving DecidableEq, Repr

/-- The failure of a call that took too long. -/
def timedOut (timeout : Millis) : EngineError :=
  .timeout ("no response within " ++ toString timeout ++ "ms")

/-- The length of a call under a timeout, and its result. A call that ends exactly at the timeout has
ended in time. -/
def settle (call : Call) (timeout : Millis) : Millis × Result :=
  if call.delay ≤ timeout then
    match call.ending with
    | .answer hits => (call.delay, .hits hits)
    | .fail error => (call.delay, .failure error)
    | .panic => (call.delay, .failure (.malformed "adapter panicked"))
    | .abort => (call.delay, .lost)
    | .hang => (timeout, .failure (timedOut timeout))
  else (timeout, .failure (timedOut timeout))

/-- One call that was begun. -/
structure Run where
  start : Instant
  finish : Instant
  result : Result
deriving DecidableEq, Repr

/-- The run of a call that begins at an instant. -/
def Run.ofCall (start : Instant) (call : Call) (timeout : Millis) : Run :=
  let (length, result) := settle call timeout
  ⟨start, start + length, result⟩

/-- The least of a list of instants, or a given one if the list is empty. -/
def earliest (default : Instant) : List Instant → Instant
  | [] => default
  | t :: rest => rest.foldl min t

/-- When the next call can begin, and what the permits are held until then for. `held` are the ends of
the calls that last took each permit; while there are fewer than `lanes` a permit is free at once. -/
def nextStart (opened : Instant) (lanes : Nat) (held : List Instant) : Instant × List Instant :=
  if held.length < lanes then (opened, held)
  else
    let start := earliest opened held
    (start, held.erase start)

/-- The runs of the targets in order: `none` for one that got no permit before the deadline. The
adapters are called, and so changed, in the order of the targets. -/
def schedule {α : Type} [EngineAdapter α] (limits : Limits) (request : QueryRequest)
    (opened : Instant) : List Instant → List Target → List α → List (Option Run) × List α
  | _, [], pool => ([], pool)
  | held, target :: rest, pool =>
    let (start, others) := nextStart opened limits.lanes held
    if limits.before start then
      let (call, pool) := callAt request pool target.adapter
      let run := Run.ofCall start call (limits.timeoutOf target)
      let (runs, pool) := schedule limits request opened (run.finish :: others) rest pool
      (some run :: runs, pool)
    else (none :: rest.map fun _ => none, pool)

/-- The most calls that are in progress at once: at the start of each, those begun before it that have
not ended. -/
def peak : List Run → Nat
  | [] => 0
  | runs@(_ :: _) =>
    (List.range runs.length).foldl (fun most k =>
      match runs[k]? with
      | none => most
      | some run => max most (1 + ((runs.take k).filter fun earlier => run.start < earlier.finish).length)) 0

end Metasearch.Dispatch
