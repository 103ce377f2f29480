import StaffSearch.Calendar.Printer
import StaffSearch.Calendar.Reader
import StaffSearch.Filter.Basic
import StaffSearch.Json.Value
import StaffSearch.Word

/-!
# Filters as JSON

A filter is an object from field names to constraints, a constraint an object with one member that
names its kind. The kind of an operand is not written; it shows from the value: an integer of 64
bits is a number, a string that reads as a moment is a moment, any other string a text.
-/

namespace StaffSearch

/-- The written form of an operand. -/
def Operand.toJson : Operand → Json
  | .number value => .integer value.toInt
  | .date moment => .text moment.render
  | .text value => .text value

/-- The operand that a JSON value denotes. -/
def Operand.ofJson? : Json → Option Operand
  | .integer value => if Word.fitsSigned 64 value then some (.number (Int64.ofInt value)) else none
  | .text value =>
    match Instant.read? value with
    | some moment => some (.date moment)
    | none => some (.text value)
  | _ => none

/-- The written form of a constraint. -/
def Constraint.toJson : Constraint → Json
  | .equals operand => .object [("equals", operand.toJson)]
  | .atLeast operand => .object [("atLeast", operand.toJson)]
  | .atMost operand => .object [("atMost", operand.toJson)]
  | .lessThan operand => .object [("lessThan", operand.toJson)]
  | .containsPattern pattern => .object [("matchesPattern", .text pattern)]
  | .oneOf set => .object [("oneOf", .list (set.elements.map .text))]

/-- The constraint of a kind with the given content. -/
def Constraint.ofMember? (kind : String) (content : Json) : Option Constraint :=
  if kind == "equals" then (Operand.ofJson? content).map .equals
  else if kind == "atLeast" then (Operand.ofJson? content).map .atLeast
  else if kind == "atMost" then (Operand.ofJson? content).map .atMost
  else if kind == "lessThan" then (Operand.ofJson? content).map .lessThan
  else if kind == "matchesPattern" then content.text?.map .containsPattern
  else if kind == "oneOf" then content.texts?.map fun texts => .oneOf (TextSet.ofList texts)
  else none

/-- The constraint that a JSON value denotes. -/
def Constraint.ofJson? : Json → Option Constraint
  | .object [(kind, content)] => Constraint.ofMember? kind content
  | _ => none

/-- The written form of a filter. -/
def Filter.toJson (filter : Filter) : Json :=
  .object (filter.entries.map fun entry => (entry.1.label, entry.2.toJson))

/-- Reads the members of a filter; of two with the same name the last one counts. -/
def Filter.ofMembers? (filter : Filter) : List (String × Json) → Option Filter
  | [] => some filter
  | (label, content) :: rest =>
    match Field.ofLabel? label, Constraint.ofJson? content with
    | some field, some constraint => Filter.ofMembers? (filter.set field constraint) rest
    | _, _ => none

/-- The filter that a JSON value denotes. -/
def Filter.ofJson? : Json → Option Filter
  | .object members => Filter.ofMembers? Filter.empty members
  | _ => none

end StaffSearch
