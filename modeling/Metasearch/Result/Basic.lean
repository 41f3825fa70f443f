import Metasearch.Engine.Id

/-!
Hits of single engines and the results they are merged into.
-/

namespace Metasearch

/-- One hit of one engine. -/
structure RawHit where
  url : String
  title : String
  snippet : String
  /-- The engine that the hit is credited to. -/
  engine : EngineId
  /-- The place the engine gave it, counted from one; zero counts as one. -/
  rank : UInt32
deriving DecidableEq, Repr

/-- A result, merged from the hits of one or more engines. -/
structure MergedResult where
  url : String
  /-- The key under which the hits met. -/
  normalizedUrl : String
  title : String
  snippet : String
  /-- The engines that returned it, in the order in which they did. -/
  engines : List EngineId
  score : Float
  /-- Its place in the ranking, counted from one. -/
  position : Nat

/-- The names of the engines that returned a result. -/
def MergedResult.engineNames (result : MergedResult) : List String :=
  result.engines.map EngineId.name

end Metasearch
