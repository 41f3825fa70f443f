import Metasearch.Engine.Document
import Metasearch.Result.Basic

/-!
Hits and results in documents.
-/

namespace Metasearch

open Document

namespace RawHit

/-- Read a hit, of which every field has to be present. -/
def read (source : Source) (v : Value) : Option RawHit := do
  let fields ← asRecord source ["url", "title", "snippet", "engine", "rank"] v
  let url ← fields.required "url" asText
  let title ← fields.required "title" asText
  let snippet ← fields.required "snippet" asText
  let engine ← fields.required "engine" (EngineId.read source)
  let rank ← fields.required "rank" asUInt32
  return { url, title, snippet, engine, rank }

def toValue (hit : RawHit) : Value :=
  .table [("url", .text hit.url), ("title", .text hit.title), ("snippet", .text hit.snippet),
    ("engine", hit.engine.toValue), ("rank", ofUInt32 hit.rank)]

end RawHit

def MergedResult.toValue (result : MergedResult) : Value :=
  .table [("url", .text result.url), ("normalized_url", .text result.normalizedUrl),
    ("title", .text result.title), ("snippet", .text result.snippet),
    ("engines", .list (result.engines.map EngineId.toValue)), ("score", .float result.score),
    ("position", ofNat result.position)]

end Metasearch
