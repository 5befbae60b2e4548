import PortRoster.Files
import PortRoster.Log
import PortRoster.Settings.Basic

/-! # Loading settings

Settings are loaded from one file that the user names, or else from the file of the user and on top
of it the file of the working directory. A file that is missing or cannot be used counts as one that
says nothing; the log says why. -/

namespace PortRoster.Settings

/-- The name of the settings file of a working directory. -/
def localPath : String := "portreg.toml"

/-- The path of the settings file of the user, below the directory for settings: the one that the
environment names by an absolute path, or else `.config` in the home directory. -/
def globalPath? (env : String → Option String) : Option String :=
  let directory :=
    match env "XDG_CONFIG_HOME" with
    | some d => if Text.startsWith ['/'] d.toList then some d else none
    | none => none
  let home :=
    match env "HOME" with
    | some h => if h = "" then none else some (joinPath h ".config")
    | none => none
  (directory.or home).map (joinPath · "portreg/config.toml")

/-- The settings in a file, if it is there and can be used. -/
def readFile (files : Files) (path : String) : Option Settings :=
  match files path with
  | .text s => ofToml s
  | .missing | .unreadable _ => none

/-- Why a file that is there cannot be used. -/
def readFileJournal (files : Files) (path : String) : List Log.Record :=
  match files path with
  | .missing => []
  | .unreadable reason =>
    [⟨.warn, .settings, "Configuration error: Failed to read config file " ++ path ++ ": "
      ++ reason⟩]
  | .text s =>
    if (ofToml s).isSome then []
    else [⟨.warn, .settings, "Configuration error: Failed to parse config file " ++ path
      ++ ": not a settings file"⟩]

/-- The settings in a file that the user names. -/
def loadFrom (files : Files) (path : String) : Settings := (readFile files path).getD empty

/-- The log of loading a file that the user names. -/
def loadFromJournal (files : Files) (path : String) : List Log.Record :=
  readFileJournal files path ++
    match readFile files path with
    | some _ => [⟨.debug, .settings, "Loaded config from " ++ path⟩]
    | none => [⟨.warn, .settings, "Could not load config from " ++ path ++ ", using defaults"⟩]

/-- The settings of the user and of the working directory, one on top of the other. -/
def load (files : Files) (globalPath : Option String) : Settings :=
  ((globalPath.bind (readFile files)).getD empty).merge ((readFile files localPath).getD empty)

/-- The log of loading a layer. -/
def layerJournal (files : Files) (path message : String) : List Log.Record :=
  readFileJournal files path ++
    if (readFile files path).isSome then [⟨.debug, .settings, message⟩] else []

/-- The log of loading the settings of the user and of the working directory. -/
def loadJournal (files : Files) (globalPath : Option String) : List Log.Record :=
  (match globalPath with
    | some path => layerJournal files path ("Loaded global config from " ++ path)
    | none => [])
  ++ layerJournal files localPath ("Loaded local config from " ++ localPath)

end PortRoster.Settings
