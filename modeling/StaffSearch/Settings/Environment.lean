import StaffSearch.Decimal.Reader
import StaffSearch.Settings.Tree
import StaffSearch.Text.Case
import StaffSearch.Text.Split
import StaffSearch.Word

/-!
# Settings in environment variables

A variable whose name starts with a fixed word and two underscores is a setting. Its name is taken
in lowercase, and two underscores are a step down in the tree of settings. Its value is a truth
value or a number if it can be read as one; the value of the one setting that is a list of texts is
cut at its commas; every other value is a text.
-/

namespace StaffSearch.Environment

open StaffSearch.Text

/-- What the names of settings start with. -/
def start : List Char := "employee_search__".toList

/-- The setting whose value is cut at commas. -/
def listSetting : String := "search.blocked_terms"

/-- A text with a point in the place of every two underscores. -/
def pointed : List Char → List Char
  | '_' :: '_' :: rest => '.' :: pointed rest
  | c :: rest => c :: pointed rest
  | [] => []

/-- The setting that a variable names. -/
def settingOf? (name : String) : Option String :=
  (afterStart? start (lowerList name.toList)).map fun rest => String.ofList (pointed rest)

/-- The signed 64-bit number that a text denotes. -/
def long? (text : String) : Option Int :=
  (integer? text.toList).filter (Word.fitsSigned 64)

/-- The value of a setting. -/
def valueOf (setting text : String) : Tree :=
  let word := lowercase text
  if word == "true" then .boolean true
  else if word == "false" then .boolean false
  else
    match long? text, Decimal.read? text with
    | some value, _ => .integer value
    | none, some value => .decimal value
    | none, none =>
      if setting == listSetting then
        .list ((pieces ',' text.toList).map fun piece => .text (String.ofList piece))
      else .text text

/-- The settings among variables. -/
def source (environment : List (String × String)) : List (String × Tree) :=
  environment.filterMap fun (name, text) =>
    (settingOf? name).map fun setting => (setting, valueOf setting text)

end StaffSearch.Environment
