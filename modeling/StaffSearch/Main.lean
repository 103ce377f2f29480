import StaffSearch.CommandLine.Run
import StaffSearch.Log.Printer

/-!
# The program

The outermost layer: it looks up the files and variables that a run may read, and carries out what
the run ends with. A run is first made in surroundings that allow everything; if the system then
refuses to write, the run is made again in surroundings that refuse it, so that all wording comes
from the run. There are no sockets here, so a run that would listen ends with the complaint that this
is not supported.
-/

namespace StaffSearch.CommandLine

/-- The variables of the environment that a run may read. -/
def variableNames : List String := [
  "EMPLOYEE_SEARCH_CONFIG", "MONGO_URI", "PORT",
  "EMPLOYEE_SEARCH__SERVER__BIND_ADDR", "EMPLOYEE_SEARCH__SERVER__CORS_ENABLED",
  "EMPLOYEE_SEARCH__STORE__BACKEND", "EMPLOYEE_SEARCH__STORE__URI",
  "EMPLOYEE_SEARCH__STORE__DATABASE", "EMPLOYEE_SEARCH__STORE__COLLECTION",
  "EMPLOYEE_SEARCH__STORE__SEED_WHEN_EMPTY", "EMPLOYEE_SEARCH__STORE__SEED_COUNT",
  "EMPLOYEE_SEARCH__SEARCH__NUMERAL_WINDOW", "EMPLOYEE_SEARCH__SEARCH__BLOCKED_TERMS",
  "EMPLOYEE_SEARCH__LOGGING__LEVEL", "EMPLOYEE_SEARCH__LOGGING__FORMAT",
  "EMPLOYEE_SEARCH__LOGGING__FILE_DIR", "EMPLOYEE_SEARCH__LOGGING__ROTATION"]

/-- The variables that are set. -/
def readVariables : IO (List (String × String)) :=
  variableNames.filterMapM fun (name : String) => do
    return (← IO.getEnv name).map fun value => (name, value)

/-- The files among some names, with and without an ending. -/
def readFiles (names : List String) : IO (List (String × String)) :=
  let spellings := names.flatMap fun name => [name, name ++ ".json", name ++ ".toml"]
  spellings.filterMapM fun (name : String) => do
    try
      return some (name, ← IO.FS.readFile name)
    catch _ =>
      return none

/-- The file that a command line names. -/
def configFiles (environment : List (String × String)) (words : List String) : List String :=
  match parse (environment.lookup "EMPLOYEE_SEARCH_CONFIG") words with
  | .ok (.run arguments) => arguments.config.toList
  | _ => []

/-- Whether an action succeeds. -/
def succeeds (action : IO Unit) : IO Bool := do
  try
    action
    return true
  catch _ =>
    return false

end StaffSearch.CommandLine

open StaffSearch StaffSearch.CommandLine

/-- The program. -/
def main (words : List String) : IO UInt32 := do
  let environment ← readVariables
  let files ← readFiles (configFiles environment words ++ Settings.usualPlaces)
  let free : Surroundings := {
    files := fun path => files.lookup path
    environment
    canWrite := fun _ => true
    canMakeDirectory := fun _ => true
    listenFault? := fun _ => some "Operation not supported (os error 95)" }
  let closed : Surroundings :=
    { free with canWrite := fun _ => false, canMakeDirectory := fun _ => false }
  let report := run free words
  let isAllowed ← match report.ending, report.logging.directory with
    | .wrote path text, _ => succeeds (IO.FS.writeFile path text)
    | _, some directory => succeeds (IO.FS.createDirAll directory)
    | _, none => pure true
  let report := if isAllowed then report else run closed words
  for event in report.log do
    IO.println (event.line report.logging.format)
  if report.ending.output ≠ "" then IO.print report.ending.output
  if report.ending.complaint ≠ "" then IO.eprintln report.ending.complaint
  return UInt32.ofNat report.ending.code
