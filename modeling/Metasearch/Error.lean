import Metasearch.Config.Basic
import Metasearch.Query.Request

/-!
The errors of a search. Failures of single engines are no errors; they are part of the answer.
-/

namespace Metasearch

/-- The kinds of error of a search. -/
inductive SearchError.Kind where
  | invalidQuery
  | noEnginesRegistered
  | config
deriving DecidableEq, Repr

/-- The text of an error of a kind, given its detail. -/
def SearchError.Kind.message : SearchError.Kind → String → String
  | invalidQuery, detail => "invalid query: " ++ detail
  | noEnginesRegistered, detail => "no engines registered: " ++ detail
  | config, detail => "config error: " ++ detail

/-- Why a search was not made. -/
inductive SearchError where
  | invalidQuery (fault : RequestFault)
  /-- No engine that is switched on belongs to any of the categories, which are listed in order. -/
  | noEnginesRegistered (categories : List String)
  | config (fault : ConfigFault)
deriving DecidableEq, Repr

namespace SearchError

def kind : SearchError → Kind
  | invalidQuery _ => .invalidQuery
  | noEnginesRegistered _ => .noEnginesRegistered
  | config _ => .config

def detail : SearchError → String
  | invalidQuery fault => fault.message
  | noEnginesRegistered categories =>
    "no enabled engine in categories [" ++ ", ".intercalate categories ++ "]"
  | config fault => fault.message

def message (error : SearchError) : String :=
  error.kind.message error.detail

end SearchError

end Metasearch
