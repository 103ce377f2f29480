import StaffSearch.Text.Case
import StaffSearch.Text.CharacterClass

/-!
# Log levels

How much is logged: nothing, or the messages from some weight on.
-/

namespace StaffSearch.Log

open StaffSearch.Text

/-- How much is logged. -/
inductive Level where
  /-- Nothing. -/
  | off
  /-- Errors. -/
  | error
  /-- Warnings and errors. -/
  | warn
  /-- Reports as well. -/
  | info
  /-- Details as well. -/
  | debug
  /-- Everything. -/
  | trace
  deriving DecidableEq, Repr

namespace Level

/-- Every level, the quietest first. -/
def all : List Level := [off, error, warn, info, debug, trace]

/-- How much a level lets through. -/
def rank : Level → Nat
  | off => 0
  | error => 1
  | warn => 2
  | info => 3
  | debug => 4
  | trace => 5

/-- The name of a level. -/
def label : Level → String
  | off => "off"
  | error => "error"
  | warn => "warn"
  | info => "info"
  | debug => "debug"
  | trace => "trace"

/-- The level that a text denotes: its rank, or its name in any letter case. The empty text stands
for errors. -/
def ofText? (text : List Char) : Option Level :=
  match natural? text with
  | some rank => all[rank]?
  | none =>
    if text.isEmpty then some error
    else all.find? fun level => level.label == lowercaseAscii (String.ofList text)

end Level

end StaffSearch.Log
