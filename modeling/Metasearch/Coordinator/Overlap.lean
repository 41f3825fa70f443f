import Metasearch.Coordinator.Handle
import Metasearch.Dispatch.Interleaving

/-!
Two requests that overlap in time. Each has permits of its own, but they call the same adapters, read
health when they begin and write it when they end. The calls of both are therefore laid out together.
-/

namespace Metasearch.Coordinator

open Dispatch

/-- A dispatch whose calls are laid out and whose outcomes nobody has yet been told. -/
structure Laid where
  pending : Pending
  report : Report
  finish : Instant

/-- What a request that was opened dispatches. -/
def Pending.toOpened (pending : Pending) : Opened :=
  ⟨pending.request, pending.limits, pending.opened, pending.targets⟩

def Laid.ofRuns (pending : Pending) (runs : List (Option Run)) : Laid :=
  { pending
    report := reportOf pending.limits pending.opened pending.targets runs
    finish := finishOf pending.limits pending.opened runs }

/-- Whether the second of two dispatches is over before the first. At the same instant a deadline comes
before the end of a call. -/
def Laid.overBefore (second first : Laid) : Bool :=
  second.finish < first.finish ||
    (second.finish == first.finish && second.report.deadlineElapsed && !first.report.deadlineElapsed)

/-- Close a dispatch: tell the tracker, make the answer, keep its results. -/
def Laid.close {α : Type} (coordinator : Coordinator) (laid : Laid) (session : Session α) :
    Response × Session α :=
  let response := coordinator.responseOf laid.pending laid.report laid.finish
  (response,
    { session with
      tracker := tell session.tracker laid.report laid.finish
      cache := keep laid.pending response session.cache
      now := max session.now laid.finish })

/-- Whether a dispatch is over before a second request begins. One that ends at that instant is over only
if its deadline ended it, or if it had nothing to wait for. -/
def overAt {α : Type} (pending : Pending) (dispatched : Dispatched α) (begins : Instant) : Bool :=
  dispatched.finish < begins ||
    (dispatched.finish == begins && (pending.targets.isEmpty || dispatched.report.deadlineElapsed))

/-- Answer a request, with the clock moved to an instant first. -/
def handleAt {α : Type} [EngineAdapter α] (coordinator : Coordinator) (request : QueryRequest)
    (begins : Instant) (session : Session α) :
    Except Crash (Except SearchError Response × Session α) :=
  coordinator.handle request { session with now := begins }

/-- The two answers, in the order of the requests, and the session after both. -/
abbrev PairAnswer (α : Type) := Except SearchError Response × Except SearchError Response × Session α

/-- Answer two requests of which the first is over when the second begins. -/
def handleInTurn {α : Type} [EngineAdapter α] (coordinator : Coordinator)
    (first second : QueryRequest) (begins : Instant) (session : Session α) :
    Except Crash (PairAnswer α) := do
  let (one, session) ← coordinator.handle first session
  let (two, session) ← coordinator.handleAt second begins session
  return (one, two, session)

/-- Close the first of two requests when the second was answered at once. -/
def closeAlone {α : Type} (coordinator : Coordinator) (one : Pending) (alone : Dispatched α)
    (two : Except SearchError Response) (session : Session α) : PairAnswer α :=
  let laid : Laid := ⟨one, alone.report, alone.finish⟩
  let (answer, session) := laid.close coordinator { session with pool := alone.pool }
  (.ok answer, two, session)

/-- Lay out the calls of two requests together and close both in the order in which they are over. -/
def closeBoth {α : Type} [EngineAdapter α] (coordinator : Coordinator) (one two : Pending)
    (session : Session α) : PairAnswer α :=
  let (runsOne, runsTwo, pool) := interleave one.toOpened two.toOpened session.pool
  let laidOne := Laid.ofRuns one runsOne
  let laidTwo := Laid.ofRuns two runsTwo
  let session := { session with pool }
  if laidTwo.overBefore laidOne then
    let (answerTwo, session) := laidTwo.close coordinator session
    let (answerOne, session) := laidOne.close coordinator session
    (.ok answerOne, .ok answerTwo, session)
  else
    let (answerOne, session) := laidOne.close coordinator session
    let (answerTwo, session) := laidTwo.close coordinator session
    (.ok answerOne, .ok answerTwo, session)

/-- Answer two requests, the second of which begins `gap` after the first. -/
def handlePair {α : Type} [EngineAdapter α] (coordinator : Coordinator) (first second : QueryRequest)
    (gap : Millis) (session : Session α) : Except Crash (PairAnswer α) := do
  let begins := session.now + gap
  match coordinator.openRequest first session with
  | (.pending one, opened) =>
    let alone ← dispatch one.limits first one.opened one.targets opened.tracker opened.pool
    if overAt one alone begins then coordinator.handleInTurn first second begins session
    else
      match coordinator.openRequest second { opened with now := begins } with
      | (.refused error, session) => return coordinator.closeAlone one alone (.error error) session
      | (.served response, session) => return coordinator.closeAlone one alone (.ok response) session
      | (.pending two, session) =>
        if permitsCountable two.limits two.targets then return coordinator.closeBoth one two session
        else throw .permitLimit
  | _ => coordinator.handleInTurn first second begins session

end Metasearch.Coordinator
