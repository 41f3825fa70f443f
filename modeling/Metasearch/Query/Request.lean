import Metasearch.Duration
import Metasearch.Text.Blank
import Metasearch.Text.Case

/-!
Search requests and the conditions under which one is usable.
-/

namespace Metasearch

/-- What makes a request unusable. -/
inductive RequestFault where
  | blankQuery
  | pageZero
  | timeoutZero
  /-- A time range that is none of the known ones, as it was understood. -/
  | unknownTimeRange (text : String)
  | unknownSafeSearch (level : Nat)
deriving DecidableEq, Repr

def RequestFault.message : RequestFault → String
  | blankQuery => "query text is empty"
  | pageZero => "pageno must be >= 1"
  | timeoutZero => "timeout must be > 0"
  | unknownTimeRange text => "unknown time_range '" ++ text ++ "'"
  | unknownSafeSearch level => "safesearch level must be 0, 1 or 2, got " ++ toString level

/-- A window of time before now from which results are wanted. -/
inductive TimeRange where
  | day
  | week
  | month
  | year
deriving DecidableEq, Repr

namespace TimeRange

def all : List TimeRange := [day, week, month, year]

def name : TimeRange → String
  | day => "day"
  | week => "week"
  | month => "month"
  | year => "year"

/-- Read a time range. Blanks around it and the case of Latin letters do not matter. -/
def ofText (text : String) : Except RequestFault TimeRange :=
  let plain := Text.lowerLatin (Text.trim text)
  match all.find? (·.name == plain) with
  | some range => .ok range
  | none => .error (.unknownTimeRange plain)

end TimeRange

/-- How strictly results are filtered. -/
inductive SafeSearch where
  | off
  | moderate
  | strict
deriving DecidableEq, Repr

namespace SafeSearch

def all : List SafeSearch := [off, moderate, strict]

def name : SafeSearch → String
  | off => "off"
  | moderate => "moderate"
  | strict => "strict"

/-- The numeric level of a filter. -/
def level : SafeSearch → Nat
  | off => 0
  | moderate => 1
  | strict => 2

/-- The filter of a numeric level. -/
def ofLevel (n : Nat) : Except RequestFault SafeSearch :=
  match n with
  | 0 => .ok off
  | 1 => .ok moderate
  | 2 => .ok strict
  | _ => .error (.unknownSafeSearch n)

end SafeSearch

/-- One search request. -/
structure QueryRequest where
  query : String
  /-- The categories to search; none means the configured ones. -/
  categories : List String := []
  /-- If given, only engines of these names are asked. -/
  engines : Option (List String) := none
  language : Option String := none
  timeRange : Option TimeRange := none
  safeSearch : SafeSearch := .moderate
  /-- The page of results, counted from one. -/
  page : UInt32 := 1
  /-- How long the whole request may take; the configured limit holds beside it. -/
  timeout : Option Duration := none
deriving DecidableEq, Repr

/-- Check that a request is usable. Of several faults the first in the order query, page, timeout is
reported. -/
def QueryRequest.validate (request : QueryRequest) : Except RequestFault Unit :=
  if Text.isBlankText request.query then .error .blankQuery
  else if request.page = 0 then .error .pageZero
  else if request.timeout.any Duration.isZero then .error .timeoutZero
  else .ok ()

end Metasearch
