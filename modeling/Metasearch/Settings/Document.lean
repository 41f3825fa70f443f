import Metasearch.Config.Document
import Metasearch.Settings.Basic
import Metasearch.Simulated.Document
import Metasearch.Text.Utf8
import Metasearch.Toml.Printer
import Metasearch.Toml.Reader

/-!
Settings in documents and in files.
-/

namespace Metasearch.Settings

open Document

/-- Read settings, of which every field may be absent. -/
def read (source : Source) (v : Value) : Option Settings := do
  let fields ← asRecord source ["search", "simulated"] v
  let search ← fields.withDefault "search" {} (SearchConfig.read source)
  let simulated ← fields.withDefault "simulated" [] (asList (SimulatedEngineConfig.read source))
  return { search, simulated }

def fields (settings : Settings) : List (String × Value) :=
  [("search", settings.search.toValue),
    ("simulated", .list (settings.simulated.map SimulatedEngineConfig.toValue))]

def toValue (settings : Settings) : Value :=
  .table settings.fields

/-- The settings that a TOML text describes. -/
def ofToml (text : String) : Except AppError Settings :=
  match (Toml.read text).bind (read .toml) with
  | some settings => .ok settings
  | none => .error (.settings .unreadable)

/-- The TOML text of settings. -/
def toToml (settings : Settings) : Except AppError String :=
  match Toml.text? settings.fields with
  | some text => .ok text
  | none => .error (.settings .unwritable)

/-- The settings in a file, given its bytes if there is one. -/
def ofFile (content : Option (List UInt8)) : Except AppError Settings :=
  match content with
  | none => .error (.file .missing)
  | some bytes =>
    match Text.Utf8.decode? bytes with
    | none => .error (.file .notText)
    | some text => ofToml (String.ofList text)

/-- The settings in the file at the default place, or the demonstration if there is none. -/
def ofDefaultFile (content : Option (List UInt8)) : Except AppError Settings :=
  match content with
  | none => .ok demo
  | some bytes => ofFile (some bytes)

end Metasearch.Settings
