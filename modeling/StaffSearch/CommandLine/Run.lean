import StaffSearch.CommandLine.Arguments
import StaffSearch.Log.Filter
import StaffSearch.Service
import StaffSearch.Settings.Loader
import StaffSearch.Settings.Sample
import StaffSearch.Store.Connection

/-!
# A run of the program

A run reads the command line, loads the settings, opens the log, opens the store, fills it if it is
empty, and listens. What the system around the program allows is part of what a run is given, so
that a run is a function: it ends with what is printed, with what is written, and with what has been
logged.
-/

namespace StaffSearch.CommandLine

open StaffSearch.Log StaffSearch.Query

/-! ## The system -/

/-- What the system around the program has and allows. -/
structure Surroundings where
  /-- The files there are. -/
  files : Settings.Files
  /-- The environment. -/
  environment : List (String × String)
  /-- Whether a file can be written. -/
  canWrite : String → Bool
  /-- Whether a directory can be made, or is there. -/
  canMakeDirectory : String → Bool
  /-- Why a program cannot listen at an address, if it cannot. -/
  listenFault? : SocketAddress → Option String

/-! ## How a run ends -/

/-- How a run ends. -/
inductive Ending where
  /-- With an answer about the program. -/
  | answered (text : String)
  /-- With a file that has been written. -/
  | wrote (path text : String)
  /-- With a command line that is not understood. -/
  | refused (cause : UsageError)
  /-- With a failure, and perhaps what caused it. -/
  | failed (message : String) (cause : Option String)
  /-- It does not end: the program listens. -/
  | listening (address : SocketAddress)

/-- What a run does. -/
structure Report where
  /-- How it ends. -/
  ending : Ending
  /-- What is logged, in order. -/
  log : List Event := []
  /-- How and where it is logged. -/
  logging : LogSettings := {}

/-- The exit code of an ended run. -/
def Ending.code : Ending → Nat
  | answered _ | wrote _ _ | listening _ => 0
  | failed _ _ => 1
  | refused _ => 2

/-- What an ended run prints. -/
def Ending.output : Ending → String
  | answered text => text
  | wrote path _ => "Sample configuration written to " ++ path ++ "\n"
  | refused _ | failed _ _ | listening _ => ""

/-- The first line of what an ended run complains about. -/
def Ending.complaint : Ending → String
  | refused cause => "error: " ++ cause.describe
  | failed message _ => "Error: " ++ message
  | answered _ | wrote _ _ | listening _ => ""

/-! ## Messages -/

/-- The report that the log is open. -/
def logOpened (logging : LogSettings) : Event :=
  { level := .info
    target := "employee_search::logging"
    fields := [
      ("level", .text logging.level),
      ("format", .text logging.format.label),
      ("file_dir", match logging.directory with
        | some directory => .text directory
        | none => .null)]
    message := "logging initialized" }

/-- The report that the program starts. -/
def started : Event :=
  { level := .info
    target := "employee_search"
    fields := [("version", .text version)]
    message := "starting employee-search" }

/-- The report that records are kept in memory. -/
def memoryUsed : Event :=
  { level := .info, target := "employee_search", message := "using in-memory employee store" }

/-- The reports that sample records have been added. -/
def seeded (backend : String) (count : Nat) : List Event := [
  { level := .info
    target := "employee_search::store::seed"
    fields := [("inserted", .integer count), ("backend", .text backend)]
    message := "sample employee data inserted" },
  { level := .info
    target := "employee_search"
    fields := [("inserted", .integer count)]
    message := "store was empty, sample employees added" }]

/-! ## The stages of a run -/

/-- Why there is no connection to the database. A database that can be asked is none of the things
that a run is given. -/
def connectFault (connection : Connection) : StoreError :=
  match connection.validate with
  | .error cause => cause
  | .ok () =>
    match ConnectionString.parse? connection.uri with
    | none => .invalidQuery "Invalid argument: the connection string cannot be read"
    | some .direct => .connectionFailed "Server selection failed: no server can be reached"
    | some .lookup => .queryFailed "Kind: the name of the servers cannot be resolved"

/-- What is logged when a store is filled. -/
def seedLog (settings : StoreSettings) : List Event :=
  if settings.seedsWhenEmpty && settings.seedCount != 0 then
    seeded (Store.memory []).backend settings.seedCount.toNat
  else []

/-- The end of a run with open log, and what is logged until then. -/
def operate (surroundings : Surroundings) (settings : Settings) : Ending × List Event :=
  match settings.store.backend with
  | .mongodb =>
    let cause := connectFault settings.connection
    (.failed "Failed to connect to MongoDB" (some cause.describe), [])
  | .memory =>
    let log := memoryUsed :: seedLog settings.store
    match settings.compilerSettings >>= Compiler.ofSettings with
    | .error cause => (.failed cause.describe none, log)
    | .ok _ =>
      match settings.address with
      | .error cause => (.failed cause.describe none, log)
      | .ok address =>
        match surroundings.listenFault? address with
        | some reason => (.failed (SearchError.io reason).describe none, log)
        | none => (.listening address, log)

/-- The messages that the filter of the log lets through. -/
def admitted (level : String) (events : List Event) : List Event :=
  events.filter (Log.Filter.ofSetting level).admits

/-- A run with settings. -/
def runWith (surroundings : Surroundings) (settings : Settings) : Report :=
  let logging := settings.logging
  let hasDirectory := match logging.directory with
    | some directory => surroundings.canMakeDirectory directory
    | none => true
  if hasDirectory then
    let (ending, log) := operate surroundings settings
    { ending, log := admitted logging.level (logOpened logging :: started :: log), logging }
  else
    { ending := .failed ("Failed to create log directory " ++ logging.directory.getD "") none }

/-- The file with the settings that the environment names. -/
def configVariable? (surroundings : Surroundings) : Option String :=
  surroundings.environment.lookup "EMPLOYEE_SEARCH_CONFIG"

/-- Where the settings of a run come from. -/
def sourcesOf (surroundings : Surroundings) (arguments : Arguments) : Settings.Sources :=
  { files := surroundings.files
    file := arguments.config
    environment := surroundings.environment
    readsVariables := true
    readsHostVariables := true
    overrides := {
      bindAddress := arguments.bind
      level := arguments.logLevel
      backend := arguments.store } }

/-- A run of the program with the words of its command line. -/
def run (surroundings : Surroundings) (words : List String) : Report :=
  let configVariable := configVariable? surroundings
  match parse configVariable words with
  | .error cause => { ending := .refused cause }
  | .ok (.answer question) => { ending := .answered (answerText configVariable question) }
  | .ok (.run arguments) =>
    match arguments.generateConfig with
    | some path =>
      if surroundings.canWrite path then { ending := .wrote path Settings.sampleText }
      else { ending := .failed ("Failed to write " ++ path) none }
    | none =>
      match Settings.load (sourcesOf surroundings arguments) with
      | .error failure => { ending := .failed failure.describe none }
      | .ok settings => runWith surroundings settings

end StaffSearch.CommandLine
