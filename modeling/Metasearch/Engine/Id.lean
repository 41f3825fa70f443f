/-!
The identity of a search engine.
-/

namespace Metasearch

/-- A search engine is known by its name together with the category it is registered under. The same
name under two categories is two engines. -/
structure EngineId where
  name : String
  category : String
deriving DecidableEq, Repr

namespace EngineId

/-- Engines are ordered by name, then by category, both by code points. -/
def lt (a b : EngineId) : Prop :=
  a.name < b.name ∨ (a.name = b.name ∧ a.category < b.category)

instance : LT EngineId := ⟨lt⟩

instance (a b : EngineId) : Decidable (a < b) :=
  inferInstanceAs (Decidable (a.name < b.name ∨ (a.name = b.name ∧ a.category < b.category)))

/-- Whether the first engine does not come after the second. -/
def le (a b : EngineId) : Bool :=
  decide (¬ b < a)

/-- What a reader is shown of an engine. -/
def display (id : EngineId) : String :=
  id.name

/-- Sort engines; repeated ones stay. -/
def sort (ids : List EngineId) : List EngineId :=
  ids.mergeSort le

/-- Keep the first of every run of equal engines. -/
def dropRepeats : List EngineId → List EngineId
  | [] => []
  | [id] => [id]
  | a :: b :: rest => if a = b then dropRepeats (b :: rest) else a :: dropRepeats (b :: rest)

/-- The set of engines of a list, in order. -/
def sortedSet (ids : List EngineId) : List EngineId :=
  dropRepeats (sort ids)

end EngineId

end Metasearch
