import StaffSearch.Json.Reader
import StaffSearch.Settings.Coercion
import StaffSearch.Settings.Environment
import StaffSearch.Toml.Reader

/-!
# Loading settings

The settings come from several sources, each of which has precedence over the ones before it: the
defaults, a file, the environment, the two variables that hosts set, and the command line. What
comes out must be valid.

A file is given by its name, with or without its ending; the ending says how it is written. When no
file is given, files in two usual places are read if they are there.
-/

namespace StaffSearch.Settings

/-! ## Files -/

/-- What is written in the file of a name, if there is one. -/
abbrev Files := String → Option String

/-- The ways to write a file. -/
inductive FileFormat where
  /-- An object in JSON. -/
  | json
  /-- A table in TOML. -/
  | toml
  deriving DecidableEq, Repr

/-- The ending of the files of a format. -/
def FileFormat.ending : FileFormat → String
  | json => "json"
  | toml => "toml"

/-- Every format. -/
def FileFormat.all : List FileFormat := [json, toml]

/-- The ending of a file name: what stands behind its last point, if something stands before it. -/
def endingOf? (path : String) : Option String :=
  let name := match Text.cutAtLast? '/' path.toList with
    | some (_, name) => name
    | none => path.toList
  match Text.cutAtLast? '.' name with
  | some ([], _) | none => none
  | some (_, ending) => some (String.ofList ending)

/-- The format of a file name. -/
def formatOf? (path : String) : Option FileFormat :=
  (endingOf? path).bind fun ending => FileFormat.all.find? fun format => format.ending == ending

/-- The source in a text of a format. -/
def parseSource? (format : FileFormat) (text : String) : Option (List (String × Tree)) :=
  match format with
  | .toml => Toml.parse? text
  | .json =>
    match Json.parse? text with
    | some (.object members) => some (Tree.ofJson (.object members)).entries
    | _ => none

/-- The text of the file of a name with its format, which is none for an unknown ending. A file of
exactly this name comes first; else one of the known endings is put behind the name. -/
def findFile? (files : Files) (path : String) : Option (Option FileFormat × String) :=
  match files path with
  | some text => some (formatOf? path, text)
  | none =>
    FileFormat.all.findSome? fun format =>
      (files (path ++ "." ++ format.ending)).map fun text => (some format, text)

/-- Where files are looked for when none is given. -/
def usualPlaces : List String := ["employee-search", "config/employee-search"]

/-! ## Loading -/

/-- Why settings cannot be loaded. -/
inductive LoadError where
  /-- A file is missing or cannot be read. -/
  | unreadable
  /-- A value is of the wrong kind. -/
  | undecodable
  /-- The settings make no sense. -/
  | invalid (cause : SearchError)
  deriving DecidableEq, Repr

/-- The description of a failure. -/
def LoadError.describe : LoadError → String
  | unreadable => "Failed to build configuration"
  | undecodable => "Failed to deserialize configuration"
  | invalid cause => cause.describe

/-- Settings from the command line. -/
structure Overrides where
  /-- The socket address. -/
  bindAddress : Option String := none
  /-- The filter of the log. -/
  level : Option String := none
  /-- The kind of store. -/
  backend : Option Backend := none
  deriving DecidableEq, Repr

/-- Where settings come from. -/
structure Sources where
  /-- The files there are. -/
  files : Files := fun _ => none
  /-- The file to read. -/
  file : Option String := none
  /-- The environment. -/
  environment : List (String × String) := []
  /-- Whether settings are taken from the environment. -/
  readsVariables : Bool := false
  /-- Whether the two variables that hosts set are taken from the environment. -/
  readsHostVariables : Bool := false
  /-- The command line. -/
  overrides : Overrides := {}

/-- The source in a file that must be there. -/
def requiredSource (files : Files) (path : String) : Except LoadError (List (String × Tree)) :=
  match findFile? files path with
  | some (some format, text) =>
    match parseSource? format text with
    | some source => .ok source
    | none => .error .unreadable
  | _ => .error .unreadable

/-- The source in a file that may be missing; one of an unknown kind is passed over. -/
def optionalSource (files : Files) (path : String) : Except LoadError (List (String × Tree)) :=
  match findFile? files path with
  | some (some _, _) => requiredSource files path
  | _ => .ok []

/-- The sources in files. -/
def fileSources (sources : Sources) : Except LoadError (List (List (String × Tree))) :=
  match sources.file with
  | some path => (requiredSource sources.files path).map fun source => [source]
  | none => usualPlaces.mapM (optionalSource sources.files)

/-- The tree of all sources but the command line. -/
def layers (sources : Sources) : Except LoadError Tree := do
  let files ← fileSources sources
  let variableSource :=
    if sources.readsVariables then Environment.source sources.environment else []
  return (files ++ [variableSource]).foldl Tree.addSource Tree.ofDefaults

/-- The settings with those from the command line. -/
def override (settings : Settings) (overrides : Overrides) : Settings :=
  { settings with
    server := { settings.server with
      bindAddress := overrides.bindAddress.getD settings.server.bindAddress }
    logging := { settings.logging with level := overrides.level.getD settings.logging.level }
    store := { settings.store with backend := overrides.backend.getD settings.store.backend } }

/-- The settings of a tree with those that come after it. -/
def finish (sources : Sources) (settings : Settings) : Except SearchError Settings :=
  let (settings, outcome) :=
    if sources.readsHostVariables then
      settings.withHostVariables (sources.environment.lookup "MONGO_URI")
        (sources.environment.lookup "PORT")
    else (settings, .ok ())
  match outcome with
  | .error cause => .error cause
  | .ok () =>
    let settings := settings.override sources.overrides
    match settings.validate with
    | .error cause => .error cause
    | .ok () => .ok settings

/-- The settings that the sources add up to. -/
def load (sources : Sources) : Except LoadError Settings :=
  match layers sources with
  | .error failure => .error failure
  | .ok tree =>
    match tree.settings? with
    | none => .error .undecodable
    | some settings => (finish sources settings).mapError .invalid

end StaffSearch.Settings
