import StaffSearch.Network.SocketAddress
import StaffSearch.Query.Compiler
import StaffSearch.Store.Connection
import StaffSearch.Word

/-!
# Settings

What the program can be told: where to listen, where the records are, how queries are read, and what
is logged. Settings are texts and numbers as they were given; `validate` says whether they make
sense, and the program's parts get theirs from `address`, `compilerSettings` and `connection`.

Two variables of the environment that many hosts set, the address of the database and the port, have
the last word over files: `withHostVariables`.

## Main results

* `Settings.validate_default` — the default settings are valid.
* `Settings.withHostVariables_none` — without the two variables nothing changes.
-/

namespace StaffSearch

open StaffSearch.Query StaffSearch.Text

/-! ## The settings -/

/-- The kinds of record stores. -/
inductive Backend where
  /-- A document database. -/
  | mongodb
  /-- The memory of the program. -/
  | memory
  deriving DecidableEq, Repr

/-- Where the program listens, and to whom. -/
structure ServerSettings where
  /-- The socket address. -/
  bindAddress : String := "0.0.0.0:5000"
  /-- Whether pages from anywhere may ask. -/
  allowsAnyOrigin : Bool := true
  deriving DecidableEq, Repr

/-- Where the records are. -/
structure StoreSettings where
  /-- The kind of store. -/
  backend : Backend := .mongodb
  /-- Where the database is. -/
  uri : String := "mongodb://localhost:27017"
  /-- The name of the database. -/
  database : String := "Employee"
  /-- The name of the collection. -/
  collection : String := "employees"
  /-- Whether an empty store is filled with sample records. -/
  seedsWhenEmpty : Bool := true
  /-- The number of sample records. -/
  seedCount : UInt64 := 50
  deriving DecidableEq, Repr

/-- How queries are read. -/
structure SearchSettings where
  /-- The number of tokens searched around an anchor. -/
  window : UInt64 := defaultWindow
  /-- Terms that are blocked besides the default ones. -/
  blockedTerms : List String := []
  /-- Terms that are added to the vocabularies, by the names of categories. -/
  extraTerms : List (String × List String) := []
  deriving DecidableEq, Repr

/-- The forms of a log. -/
inductive LogFormat where
  /-- For people. -/
  | pretty
  /-- One JSON object a line. -/
  | json
  deriving DecidableEq, Repr

/-- When a new log file is begun. -/
inductive Rotation where
  /-- Every day. -/
  | daily
  /-- Every hour. -/
  | hourly
  /-- Never. -/
  | never
  deriving DecidableEq, Repr

/-- What is logged, and where. -/
structure LogSettings where
  /-- The filter of the log. -/
  level : String := "info"
  /-- The form of the log. -/
  format : LogFormat := .pretty
  /-- The directory of log files, if there are to be any. -/
  directory : Option String := none
  /-- When a new file is begun. -/
  rotation : Rotation := .daily
  deriving DecidableEq, Repr

/-- All settings. -/
structure Settings where
  /-- Where the program listens. -/
  server : ServerSettings := {}
  /-- Where the records are. -/
  store : StoreSettings := {}
  /-- How queries are read. -/
  search : SearchSettings := {}
  /-- What is logged. -/
  logging : LogSettings := {}
  deriving DecidableEq, Repr

namespace Settings

/-! ## What the parts of the program get -/

/-- The address to listen at. -/
def address (settings : Settings) : Except SearchError SocketAddress :=
  match SocketAddress.parse? settings.server.bindAddress with
  | some address => .ok address
  | none =>
    .error (.configuration ("Invalid server.bind_addr '" ++ settings.server.bindAddress ++
      "': invalid socket address syntax"))

/-- Terms by the names of categories as terms by categories. -/
def resolveTerms : List (String × List String) → Except SearchError (List (Category × List String))
  | [] => .ok []
  | (name, terms) :: rest =>
    match Category.parse name with
    | .error cause => .error cause
    | .ok category =>
      match resolveTerms rest with
      | .error cause => .error cause
      | .ok others => .ok ((category, terms) :: others)

/-- The settings of the compiler. -/
def compilerSettings (settings : Settings) : Except SearchError CompilerSettings :=
  (resolveTerms settings.search.extraTerms).map fun extraTerms =>
    { window := settings.search.window
      blockedTerms := settings.search.blockedTerms
      extraTerms }

/-- The settings of the connection to the database. -/
def connection (settings : Settings) : Connection :=
  { uri := settings.store.uri
    database := settings.store.database
    collection := settings.store.collection }

/-! ## Validity -/

/-- Checks the settings; of several faults the first one counts. -/
def validate (settings : Settings) : Except SearchError Unit :=
  if isBlankText settings.server.bindAddress then
    .error (.configuration "server.bind_addr cannot be empty")
  else
    match settings.address with
    | .error cause => .error cause
    | .ok _ =>
      if settings.search.window = 0 then
        .error (.configuration "search.numeral_window must be at least 1")
      else if settings.store.backend = .mongodb ∧ isBlankText settings.store.uri = true then
        .error (.configuration "store.uri is required for the mongodb backend")
      else
        match settings.compilerSettings with
        | .error cause => .error cause
        | .ok _ => .ok ()

theorem parse?_default :
    SocketAddress.parse? "0.0.0.0:5000" = some { host := .four 0 0 0 0, port := 5000 } := by
  decide +kernel

theorem validate_default : validate {} = .ok () := by
  have haddress : isBlankText "0.0.0.0:5000" = false := by decide +kernel
  have huri : isBlankText "mongodb://localhost:27017" = false := by decide +kernel
  have hwindow : defaultWindow ≠ 0 := by decide
  simp [validate, address, compilerSettings, resolveTerms, parse?_default, haddress, huri, hwindow,
    Except.map]

/-! ## Variables that hosts set -/

/-- The settings with another address of the database. -/
def withUri (settings : Settings) (uri : String) : Settings :=
  { settings with store := { settings.store with uri } }

/-- The settings with another socket address. -/
def withBindAddress (settings : Settings) (bindAddress : String) : Settings :=
  { settings with server := { settings.server with bindAddress } }

/-- The port that the text of a variable denotes. -/
def portOfText? (text : String) : Option UInt16 :=
  ((natural? (trimList text.toList)).filter (Word.fitsUnsigned 16)).map UInt16.ofNat

/-- A socket address with another port; what has no port yet is taken for no host either. -/
def replacePort (bindAddress : String) (port : UInt16) : String :=
  let host := match cutAtLast? ':' bindAddress.toList with
    | some (host, _) => String.ofList host
    | none => "0.0.0.0"
  host ++ ":" ++ toString port.toNat

/-- The settings with the database and the port that the host of the program has set, and whether
the port is one. A blank address of the database does not count. -/
def withHostVariables (settings : Settings) (uri port : Option String) :
    Settings × Except SearchError Unit :=
  let settings := match uri with
    | some uri => if isBlankText uri then settings else settings.withUri uri
    | none => settings
  match port with
  | none => (settings, .ok ())
  | some text =>
    match portOfText? text with
    | none => (settings, .error (.configuration ("Invalid PORT value '" ++ text ++ "'")))
    | some port =>
      (settings.withBindAddress (replacePort settings.server.bindAddress port), .ok ())

@[simp] theorem withHostVariables_none (settings : Settings) :
    settings.withHostVariables none none = (settings, .ok ()) := rfl

end Settings

end StaffSearch
