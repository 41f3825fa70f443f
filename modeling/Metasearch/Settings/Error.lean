import Metasearch.Error
import Metasearch.Simulated.Config

/-!
The errors of the whole program: those of a search, and those of its settings, its files and its runs.
-/

namespace Metasearch

/-- The kinds of error of the program. -/
inductive AppError.Kind where
  | search
  | config
  | file
  | soak
deriving DecidableEq, Repr

/-- The text of an error of a kind, given its detail. The detail of a search error is its whole text. -/
def AppError.Kind.message : AppError.Kind → String → String
  | search, detail => detail
  | config, detail => "config error: " ++ detail
  | file, detail => "I/O error: " ++ detail
  | soak, detail => "soak error: " ++ detail

/-- Why a file could not be read as a text. -/
inductive FileFault where
  | missing
  | notText
deriving DecidableEq, Repr

def FileFault.message : FileFault → String
  | missing => "No such file or directory (os error 2)"
  | notText => "stream did not contain valid UTF-8"

/-- What is wrong with settings beside the search configuration. -/
inductive SettingsFault where
  /-- The text is no TOML, or does not fit. -/
  | unreadable
  /-- The settings cannot be written, because a number in them is too large. -/
  | unwritable
  | simulated (fault : SimulatedFault)
  | definedTwice (engine : String)
deriving DecidableEq, Repr

def SettingsFault.message : SettingsFault → String
  | unreadable => "TOML parse error"
  | unwritable => "out-of-range value for u64 type"
  | simulated fault => fault.message
  | definedTwice engine => "simulated engine '" ++ engine ++ "' defined twice"

/-- Why a run of searches was not begun. -/
inductive SoakFault where
  | noSearches
  | noQueries
deriving DecidableEq, Repr

def SoakFault.message : SoakFault → String
  | noSearches => "searches must be greater than 0"
  | noQueries => "query list is empty"

/-- Why the program could not do what it was asked. -/
inductive AppError where
  | search (error : SearchError)
  | settings (fault : SettingsFault)
  | file (fault : FileFault)
  | soak (fault : SoakFault)
deriving DecidableEq, Repr

namespace AppError

def kind : AppError → Kind
  | search _ => .search
  | settings _ => .config
  | file _ => .file
  | soak _ => .soak

def detail : AppError → String
  | search error => error.message
  | settings fault => fault.message
  | file fault => fault.message
  | soak fault => fault.message

def message (error : AppError) : String :=
  error.kind.message error.detail

end AppError

end Metasearch
