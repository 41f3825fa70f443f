import Metasearch.Duration.Document
import Metasearch.Query.Request

/-!
Search requests in documents.
-/

namespace Metasearch

open Document

namespace TimeRange

def read (source : Source) (v : Value) : Option TimeRange :=
  asChoice source all name v

def toValue (range : TimeRange) : Value :=
  .text range.name

end TimeRange

namespace SafeSearch

def read (source : Source) (v : Value) : Option SafeSearch :=
  asChoice source all name v

def toValue (filter : SafeSearch) : Value :=
  .text filter.name

end SafeSearch

namespace QueryRequest

def fieldNames : List String :=
  ["query", "categories", "engines", "language", "time_range", "safe_search", "page", "timeout"]

/-- Read a request. All fields but the query text may be absent. -/
def read (source : Source) (v : Value) : Option QueryRequest := do
  let fields ← asRecord source fieldNames v
  let query ← fields.required "query" asText
  let categories ← fields.withDefault "categories" [] (asList asText)
  let engines ← fields.optional "engines" (asList asText)
  let language ← fields.optional "language" asText
  let timeRange ← fields.optional "time_range" (TimeRange.read source)
  let safeSearch ← fields.withDefault "safe_search" .moderate (SafeSearch.read source)
  let page ← fields.withDefault "page" 1 asUInt32
  let timeout ← fields.optional "timeout" (Duration.read source)
  return { query, categories, engines, language, timeRange, safeSearch, page, timeout }

/-- Write a request. A timeout that is not set is left out; other missing fields are null. -/
def toValue (request : QueryRequest) : Value :=
  .table ([("query", .text request.query),
    ("categories", .list (request.categories.map .text)),
    ("engines", ofOption (fun names => .list (names.map .text)) request.engines),
    ("language", ofOption .text request.language),
    ("time_range", ofOption TimeRange.toValue request.timeRange),
    ("safe_search", request.safeSearch.toValue),
    ("page", ofUInt32 request.page)] ++
    match request.timeout with
      | none => []
      | some timeout => [("timeout", timeout.toValue)])

end QueryRequest

end Metasearch
