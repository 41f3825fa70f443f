import Metasearch.Dispatch.Schedule

/-!
The calls of two dispatches that are under way together. Each dispatch has permits of its own, but both
call the same adapters, so it matters which call begins before which, even at one instant. Within an
instant everything happens in turns. First the calls that end take their turns, in the order in which
they began. Then the targets of a dispatch that opens at this instant ask for permits, in the order in
which they are listed. A target that is handed a permit takes its turn after all that were due by then.
-/

namespace Metasearch.Dispatch

/-- One of two dispatches. -/
inductive Side where
  | first
  | second
deriving DecidableEq, Repr

/-- What happens at one point of an instant. -/
inductive Turn where
  /-- A target asks for a permit. -/
  | asked (side : Side) (target : Target)
  /-- A target that waited was handed a permit. -/
  | granted (side : Side) (target : Target)
  /-- A call is over and its permit is given back. -/
  | finished (side : Side)
deriving DecidableEq, Repr

/-- A dispatch that is under way. -/
structure Progress where
  request : QueryRequest
  limits : Limits
  /-- The permits in nobody's hands. -/
  free : Nat
  /-- The targets that asked in vain, in the order in which they asked. -/
  waiting : List Target
  /-- The calls begun so far, the latest first. -/
  runs : List Run

/-- A dispatch of which no target has asked yet. -/
def Progress.start (request : QueryRequest) (limits : Limits) : Progress :=
  { request, limits, free := limits.lanes, waiting := [], runs := [] }

/-- Two dispatches under way and the adapters they share. -/
structure Interleaving (α : Type) where
  now : Instant
  /-- The turns due at the present instant, in order. -/
  due : List Turn
  /-- When the calls that are in progress end, in the order in which they began. -/
  ends : List (Instant × Side)
  /-- When the targets that have not asked yet will ask, in order. -/
  asks : List (Instant × Turn)
  one : Progress
  two : Progress
  pool : List α

namespace Interleaving

variable {α : Type}

def progress (state : Interleaving α) : Side → Progress
  | .first => state.one
  | .second => state.two

def setProgress (state : Interleaving α) (side : Side) (progress : Progress) : Interleaving α :=
  match side with
  | .first => { state with one := progress }
  | .second => { state with two := progress }

/-- Give a permit back. The target that has waited longest gets it. -/
def giveBack (state : Interleaving α) (side : Side) : Interleaving α :=
  let progress := state.progress side
  match progress.waiting with
  | [] => state.setProgress side { progress with free := progress.free + 1 }
  | target :: rest =>
    let state := state.setProgress side { progress with waiting := rest }
    { state with due := state.due ++ [.granted side target] }

/-- Begin the call of a target that holds a permit. A call that takes no time is over in the same turn.
From the deadline on no call is made. -/
def beginCall [EngineAdapter α] (state : Interleaving α) (side : Side) (target : Target) :
    Interleaving α :=
  let progress := state.progress side
  if progress.limits.before state.now then
    let (call, pool) := callAt progress.request state.pool target.adapter
    let run := Run.ofCall state.now call (progress.limits.timeoutOf target)
    let state := { state with pool }.setProgress side { progress with runs := run :: progress.runs }
    if run.finish = state.now then state.giveBack side
    else { state with ends := state.ends ++ [(run.finish, side)] }
  else state

/-- Let one turn be taken. -/
def take [EngineAdapter α] (state : Interleaving α) : Turn → Interleaving α
  | .asked side target =>
    let progress := state.progress side
    if progress.free = 0 then
      state.setProgress side { progress with waiting := progress.waiting ++ [target] }
    else
      (state.setProgress side { progress with free := progress.free - 1 }).beginCall side target
  | .granted side target => state.beginCall side target
  | .finished side => state.giveBack side

/-- The next instant at which something happens. -/
def next? (state : Interleaving α) : Option Instant :=
  (state.ends.map (·.1) ++ state.asks.map (·.1)).min?

/-- Move on to an instant: all that happens there becomes due. -/
def moveTo (state : Interleaving α) (t : Instant) : Interleaving α :=
  { state with
    now := t
    due := (state.ends.filter (·.1 == t)).map (fun ended => .finished ended.2) ++
      (state.asks.filter (·.1 == t)).map (·.2)
    ends := state.ends.filter (·.1 != t)
    asks := state.asks.filter (·.1 != t) }

/-- Take the first turn that is due, or move on to the next instant. -/
def step [EngineAdapter α] (state : Interleaving α) : Interleaving α :=
  match state.due with
  | turn :: rest => { state with due := rest }.take turn
  | [] =>
    match state.next? with
    | some t => state.moveTo t
    | none => state

/-- Take a number of steps. -/
def steps [EngineAdapter α] : Nat → Interleaving α → Interleaving α
  | 0, state => state
  | count + 1, state => steps count state.step

end Interleaving

/-- What is to be dispatched, and from when on. -/
structure Opened where
  request : QueryRequest
  limits : Limits
  instant : Instant
  targets : List Target

namespace Opened

/-- The targets of a dispatch ask for permits when it opens. -/
def asks (opened : Opened) (side : Side) : List (Instant × Turn) :=
  opened.targets.map fun target => (opened.instant, .asked side target)

/-- One optional run for each target, in order: the calls that were begun are those of the first
targets, because permits are handed out in the order of the targets. -/
def runsOf (opened : Opened) (progress : Progress) : List (Option Run) :=
  progress.runs.reverse.map some ++
    List.replicate (opened.targets.length - progress.runs.length) none

end Opened

/-- The runs of the targets of two dispatches, of which the second does not open before the first, and
the adapters after both. Each target takes at most three turns, and time moves on at most twice for
the openings and once for the end of each call, which bounds the number of steps. -/
def interleave {α : Type} [EngineAdapter α] (one two : Opened) (pool : List α) :
    List (Option Run) × List (Option Run) × List α :=
  let begun : Interleaving α :=
    { now := one.instant, due := [], ends := [], asks := one.asks .first ++ two.asks .second
      one := .start one.request one.limits, two := .start two.request two.limits, pool }
  let final := begun.steps (4 * (one.targets.length + two.targets.length) + 2)
  (one.runsOf final.one, two.runsOf final.two, final.pool)

end Metasearch.Dispatch
