/-!
Where the settings file is looked for when none is named.
-/

namespace Metasearch.Settings

/-- What decides where the settings file is. -/
structure Environment where
  /-- A directory meant for this program alone. -/
  ownDirectory : Option String := none
  /-- The directory for the settings of all programs. -/
  configHome : Option String := none
  /-- The home directory as the environment gives it. -/
  home : Option String := none
  /-- The home directory that the account has otherwise. -/
  accountHome : Option String := none

/-- A name within a directory. The empty directory is where the program runs. -/
def within (directory name : String) : String :=
  if directory.isEmpty || directory.endsWith "/" then directory ++ name else directory ++ "/" ++ name

/-- The home directory. An empty one does not count. -/
def Environment.homeDirectory (env : Environment) : Option String :=
  match env.home with
  | some home => if home.isEmpty then env.accountHome else some home
  | none => env.accountHome

/-- The directory for the settings of all programs. It counts only as an absolute path. -/
def Environment.configDirectory (env : Environment) : Option String :=
  match env.configHome with
  | some directory =>
    if directory.startsWith "/" then some directory else env.homeDirectory.map (within · ".config")
  | none => env.homeDirectory.map (within · ".config")

/-- The path of the settings file. -/
def Environment.defaultPath (env : Environment) : String :=
  let directory := match env.ownDirectory with
    | some directory => directory
    | none =>
      match env.configDirectory with
      | some directory => within directory "searchmux"
      | none => "/tmp/searchmux-config"
  within directory "config.toml"

end Metasearch.Settings
