import Metasearch.Duration
import Metasearch.Engine.Failure
import Metasearch.Query.Request
import Metasearch.Result.Basic

/-!
What stands between the program and an engine. A call is described by how long it takes and how it
would end if nobody stopped it.
-/

namespace Metasearch

/-- How a call ends when it is left alone. -/
inductive Ending where
  /-- With hits. -/
  | answer (hits : List RawHit)
  /-- With a failure that the engine reports. -/
  | fail (error : EngineError)
  /-- Never. -/
  | hang
  /-- With a breakdown that is caught and counts as a failure. -/
  | panic
  /-- With a breakdown so severe that not even the failure comes through. -/
  | abort
deriving DecidableEq, Repr

/-- One call of an engine: after a delay it ends in its way. -/
structure Call where
  delay : Millis
  ending : Ending
deriving DecidableEq, Repr

/-- An engine that can be called. A call may change what the next one does, and this change is made
when the call begins. -/
class EngineAdapter (α : Type) where
  call : QueryRequest → α → Call × α

/-- The engines at hand, addressed by number. A number that stands for none gives a call that breaks
down at once. -/
def callAt {α : Type} [EngineAdapter α] (request : QueryRequest) (pool : List α) (i : Nat) :
    Call × List α :=
  match pool[i]? with
  | none => (⟨0, .abort⟩, pool)
  | some engine =>
    let (call, engine) := EngineAdapter.call request engine
    (call, pool.set i engine)

end Metasearch
