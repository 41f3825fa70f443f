import Metasearch.Engine.Adapter

/-!
Engines whose behaviour is laid down in advance, call by call.
-/

namespace Metasearch

/-- How a scripted call ends: in a fixed way, or by repeating the request. -/
inductive Behaviour.Reply where
  | fixed (ending : Ending)
  | echo
deriving DecidableEq, Repr

/-- What a scripted engine does in one call. -/
structure Behaviour where
  delay : Millis := 0
  reply : Behaviour.Reply := .fixed (.answer [])
deriving DecidableEq, Repr

/-- The one hit with which a request is repeated: the query is its title and the filters are its
snippet. -/
def Behaviour.echoHit (request : QueryRequest) : RawHit :=
  { url := "https://echo.test/"
    title := request.query
    snippet := "|".intercalate
      [request.language.getD "-", (request.timeRange.map TimeRange.name).getD "-",
        toString request.safeSearch.level, toString request.page]
    engine := ⟨"unset", "none"⟩
    rank := 1 }

/-- The call that a behaviour stands for. -/
def Behaviour.toCall (behaviour : Behaviour) (request : QueryRequest) : Call :=
  match behaviour.reply with
  | .fixed ending => ⟨behaviour.delay, ending⟩
  | .echo => ⟨behaviour.delay, .answer [Behaviour.echoHit request]⟩

/-- An engine that behaves as laid down; the last behaviour repeats. It counts its calls. -/
structure Script where
  behaviours : List Behaviour
  calls : Nat := 0
deriving DecidableEq, Repr

namespace Script

/-- The behaviour of the next call. -/
def next (script : Script) : Behaviour :=
  script.behaviours.head?.getD {}

/-- The script after a call. -/
def advance (script : Script) : Script :=
  { behaviours := if script.behaviours.length > 1 then script.behaviours.tail else script.behaviours
    calls := script.calls + 1 }

instance : EngineAdapter Script where
  call request script := (script.next.toCall request, script.advance)

end Script

end Metasearch
