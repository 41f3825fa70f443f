import Metasearch.Document.Record
import Metasearch.Engine.Failure
import Metasearch.Engine.Id

/-!
Engines and kinds of failure in documents.
-/

namespace Metasearch

open Document

namespace EngineId

def read (source : Source) (v : Value) : Option EngineId := do
  let fields ← asRecord source ["name", "category"] v
  let name ← fields.required "name" asText
  let category ← fields.required "category" asText
  return ⟨name, category⟩

def toValue (id : EngineId) : Value :=
  .table [("name", .text id.name), ("category", .text id.category)]

end EngineId

namespace FailureKind

def read (source : Source) (v : Value) : Option FailureKind :=
  asChoice source all name v

def toValue (kind : FailureKind) : Value :=
  .text kind.name

end FailureKind

end Metasearch
