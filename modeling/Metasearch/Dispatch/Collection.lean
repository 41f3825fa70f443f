import Metasearch.Dispatch.Schedule

/-!
Waiting for the calls of one dispatch. The calls end in an order of their own; what each one tells is
put into the place of its target. The waiting stops when all calls have ended or when the deadline comes.
-/

namespace Metasearch.Dispatch

/-- What was heard of one target: its hits or its failure, and how long the call took. -/
structure Heard where
  result : Except EngineError (List RawHit)
  elapsed : Millis

/-- What a call tells at its end. A lost one tells nothing. -/
def Run.heard (run : Run) : Option Heard :=
  match run.result with
  | .hits hits => some ⟨.ok hits, run.finish - run.start⟩
  | .failure error => some ⟨.error error, run.finish - run.start⟩
  | .lost => none

/-- What has been collected at some point of a dispatch. -/
structure Collection where
  /-- One place for each target, empty until something is heard of it. -/
  places : List (Option Heard)
  clock : Instant
  /-- Whether the deadline broke the dispatch off. -/
  cut : Bool := false

namespace Collection

/-- Nothing has been heard of a number of targets yet. -/
def start (opened : Instant) (targets : Nat) : Collection :=
  { places := List.replicate targets none, clock := opened }

/-- Note the end of the call of the target at a place. -/
def note (collection : Collection) (place : Nat) (run : Run) : Collection :=
  { collection with
    places := match run.heard with
      | some heard => collection.places.set place (some heard)
      | none => collection.places
    clock := max collection.clock run.finish }

/-- Stop waiting at the deadline, or at once if it is over already. -/
def breakOff (limits : Limits) (collection : Collection) : Collection :=
  { collection with
    clock := max collection.clock (limits.deadline.getD collection.clock)
    cut := true }

end Collection

/-- Wait for targets, given with their places in the order in which they end. A call that ends at the
very instant of the deadline comes too late. -/
def collect (limits : Limits) : List (Option Run × Nat) → Collection → Collection
  | [], collection => collection
  | (none, _) :: _, collection => collection.breakOff limits
  | (some run, place) :: rest, collection =>
    if limits.before run.finish then collect limits rest (collection.note place run)
    else collection.breakOff limits

/-- Whether a target does not end after another one. A target without a permit never ends. -/
def endsBy : Option Run → Option Run → Bool
  | some a, some b => decide (a.finish ≤ b.finish)
  | _, none => true
  | none, some _ => false

/-- Put a target before the first one that it does not end after. -/
def insertByEnd (entry : Option Run × Nat) : List (Option Run × Nat) → List (Option Run × Nat)
  | [] => [entry]
  | other :: rest =>
    if endsBy entry.1 other.1 then entry :: other :: rest else other :: insertByEnd entry rest

/-- Targets with their places in the order in which they end. Of those that end together the first that
is listed comes first. -/
def inOrderOfEnd (runs : List (Option Run)) : List (Option Run × Nat) :=
  runs.zipIdx.foldr insertByEnd []

/-- All that is collected in a dispatch that opens at an instant. -/
def collected (limits : Limits) (opened : Instant) (runs : List (Option Run)) : Collection :=
  collect limits (inOrderOfEnd runs) (.start opened runs.length)

end Metasearch.Dispatch
