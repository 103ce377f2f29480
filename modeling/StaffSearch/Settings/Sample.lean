import StaffSearch.Json.Printer
import StaffSearch.Settings.Json

/-!
# A file to start from

A text in TOML that holds the default settings and explains what can be set.
-/

namespace StaffSearch.Settings

/-- The written form of a single value. -/
def scalarText : Json → String
  | .boolean value => if value then "true" else "false"
  | .integer value => toString value
  | .text value => Json.quote value
  | _ => "[]"

/-- The lines of an entry: a name and a value, or the header of an empty table. A missing value has
no line. -/
def entryText (heading : String) (entry : String × Json) : String :=
  match entry.2 with
  | .null => ""
  | .object _ => "\n[" ++ heading ++ "." ++ entry.1 ++ "]\n"
  | value => entry.1 ++ " = " ++ scalarText value ++ "\n"

/-- The lines of a section. -/
def sectionText (entry : String × Json) : String :=
  match entry.2 with
  | .object members =>
    "[" ++ entry.1 ++ "]\n" ++ String.join (members.map (entryText entry.1)) ++ "\n"
  | _ => ""

/-- The lines of the default settings. -/
def defaultsText : String :=
  match toJson {} with
  | .object sections => String.join (sections.map sectionText)
  | _ => ""

/-- What stands above the settings. -/
def sampleHead : List String := [
  "# employee-search configuration file",
  "#",
  "# Save as employee-search.toml (or config/employee-search.toml).",
  "# Every key can be overridden from the environment, e.g.",
  "#   EMPLOYEE_SEARCH__SERVER__BIND_ADDR=127.0.0.1:8080",
  "#   EMPLOYEE_SEARCH__SEARCH__BLOCKED_TERMS=bonus,payroll",
  "# MONGO_URI and PORT are also honored.",
  ""]

/-- What stands below the settings. -/
def sampleNotes : List String := [
  "# [server]",
  "# bind_addr = listen address",
  "# cors_enabled = allow any origin (GET, POST, PUT, DELETE)",
  "#",
  "# [store]",
  "# backend = \"mongodb\" or \"memory\"",
  "# seed_when_empty = insert seed_count sample employees into an empty store",
  "#",
  "# [search]",
  "# numeral_window = tokens searched around salary/age/year words",
  "# blocked_terms = terms rejected in addition to the built-in list",
  "# [search.extra_terms]",
  "# skill = [\"Rust\", \"Go\"]   (categories: state, department, skill, education)",
  "#",
  "# [logging]",
  "# level = trace, debug, info, warn, error or an EnvFilter directive",
  "# format = \"pretty\" or \"json\"",
  "# file_dir = directory for rolling log files (console only when absent)",
  "# rotation = \"daily\", \"hourly\" or \"never\""]

/-- Lines, each with its end. -/
def linesText (lines : List String) : String := String.join (lines.map (· ++ "\n"))

/-- The whole text. -/
def sampleText : String := linesText sampleHead ++ defaultsText ++ linesText sampleNotes

end StaffSearch.Settings
