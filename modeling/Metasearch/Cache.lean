import Metasearch.Crash
import Metasearch.Query.Request
import Metasearch.Result.Basic
import Metasearch.Text.Case
import Metasearch.Text.Utf8

/-!
Results kept for requests that ask for the same thing again.
-/

namespace Metasearch

/-- What two requests have to share for the results of one to answer the other. -/
structure CacheKey where
  /-- The words of the query with one blank between them, in lower case. -/
  query : String
  language : Option String
  timeRange : Option TimeRange
  safeSearch : SafeSearch
  page : UInt32
  /-- The set of engines, as the bytes that stand for it. -/
  engines : List UInt8
deriving DecidableEq, Repr

namespace CacheKey

/-- A byte that occurs in no text and so ends one. -/
def endMark : UInt8 := 0xFF

/-- A text as bytes, with an end. -/
def closedBytes (s : String) : List UInt8 :=
  Text.Utf8.encode s.toList ++ [endMark]

/-- The bytes that stand for a set of engines: the engines in order, each once. -/
def engineBytes (engines : List EngineId) : List UInt8 :=
  (EngineId.sortedSet engines).flatMap fun id => closedBytes id.name ++ closedBytes id.category

/-- The words of a query with one blank between them, in lower case. -/
def plainQuery (query : String) : String :=
  String.ofList (Text.lowerChars (Text.joinWith [' '] (Text.words query)))

/-- The key of a request that is answered from a set of engines. -/
def ofRequest (request : QueryRequest) (engines : List EngineId) : CacheKey :=
  { query := plainQuery request.query
    language := request.language.map fun text => Text.lower (Text.trim text)
    timeRange := request.timeRange
    safeSearch := request.safeSearch
    page := request.page
    engines := engineBytes engines }

end CacheKey

/-- Results by key. Only the latest ones put in for a key are found, and none at all if nothing is kept
for any time. -/
structure ResultCache where
  /-- How long results may be served again, in seconds. -/
  lifetime : Nat
  entries : List (CacheKey × List MergedResult) := []

namespace ResultCache

/-- The longest lifetime of results, in seconds: a thousand years. -/
def maxLifetime : Nat := 1000 * 365 * 24 * 60 * 60

/-- An empty cache of a lifetime. -/
def ofLifetime (secs : Nat) : Except Crash ResultCache :=
  if secs > maxLifetime then .error .cacheLifetime else .ok { lifetime := secs }

def get? (cache : ResultCache) (key : CacheKey) : Option (List MergedResult) :=
  if cache.lifetime = 0 then none else cache.entries.lookup key

def insert (cache : ResultCache) (key : CacheKey) (results : List MergedResult) : ResultCache :=
  if cache.lifetime = 0 then cache
  else { cache with entries := (key, results) :: cache.entries.filter (·.1 != key) }

/-- Forget all results. -/
def clear (cache : ResultCache) : ResultCache :=
  { cache with entries := [] }

end ResultCache

end Metasearch
