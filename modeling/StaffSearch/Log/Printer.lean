import StaffSearch.Json.Printer
import StaffSearch.Log.Filter
import StaffSearch.Settings.Basic

/-!
# Writing messages

A message is written on one line: for people, or as an object in JSON.
-/

namespace StaffSearch.Log

/-- The name of a level as it stands in a log. -/
def Level.capitals : Level → String
  | off => "OFF"
  | error => "ERROR"
  | warn => "WARN"
  | info => "INFO"
  | debug => "DEBUG"
  | trace => "TRACE"

namespace Event

/-- A message as an object. -/
def toJson (event : Event) : Json :=
  .object [
    ("level", .text event.level.capitals),
    ("fields", .object (("message", .text event.message) :: event.fields)),
    ("target", .text event.target)]

/-- A message on one line, as an object in JSON. -/
def jsonLine (event : Event) : String := event.toJson.render

/-- The value of a field for people. -/
def fieldText : String × Json → String
  | (name, .text value) => " " ++ name ++ "=" ++ value
  | (name, value) => " " ++ name ++ "=" ++ value.render

/-- A message on one line, for people. -/
def prettyLine (event : Event) : String :=
  event.level.capitals ++ " " ++ event.target ++ ": " ++ event.message ++
    String.join (event.fields.map fieldText)

/-- A message on one line, in the form of a log. -/
def line (format : LogFormat) (event : Event) : String :=
  match format with
  | .json => event.jsonLine
  | .pretty => event.prettyLine

end Event

end StaffSearch.Log
