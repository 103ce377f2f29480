import StaffSearch.Calendar.Printer
import StaffSearch.Calendar.Reader
import StaffSearch.Employee
import StaffSearch.Json.Value
import StaffSearch.Schema

/-!
# Records as JSON

A record is written as an object, without the member `_id` when it has no identifier. It is read
from an object, where every member may be missing and unknown ones do not count, or from an array
with the values in their order, of which the last ones may be missing. A value of the wrong kind is
an error; `null` is one too, except for the identifier.
-/

namespace StaffSearch

namespace Employee

/-- What a value does to a record, if it is of the right kind. -/
abbrev Setter := Employee → Json → Option Employee

/-- Sets a text. -/
def setText (put : Employee → String → Employee) : Setter := fun employee value =>
  value.text?.map (put employee)

/-- Sets a number. -/
def setNumber (put : Employee → Float → Employee) : Setter := fun employee value =>
  value.number?.map (put employee)

/-- Sets the identifier, or leaves the record without one. -/
def setId : Setter := fun employee value =>
  match value with
  | .null => some { employee with id := none }
  | .text id => some { employee with id := some id }
  | _ => none

/-- Sets the moment of joining. -/
def setJoinDate : Setter := fun employee value =>
  (value.text?.bind Instant.read?).map fun moment => { employee with joinDate := moment }

/-- Sets the skills. -/
def setSkills : Setter := fun employee value =>
  value.texts?.map fun skills => { employee with skills }

/-- The members of a record, in the order in which an array lists their values. -/
def schema : Schema Json Employee := [
  ("_id", setId),
  ("name", setText fun employee name => { employee with name }),
  ("email", setText fun employee email => { employee with email }),
  ("phone", setText fun employee phone => { employee with phone }),
  ("state", setText fun employee state => { employee with state }),
  ("city", setText fun employee city => { employee with city }),
  ("department", setText fun employee department => { employee with department }),
  ("salary", setNumber fun employee salary => { employee with salary }),
  ("joinDate", setJoinDate),
  ("gender", setText fun employee gender => { employee with gender }),
  ("skillSet", setSkills),
  ("age", setNumber fun employee age => { employee with age }),
  ("education", setText fun employee education => { employee with education })]

/-- The record that a JSON value denotes. -/
def ofJson? : Json → Option Employee
  | .object entries => schema.readNamed? (Json.member? · (.object entries)) {}
  | .list values => schema.readListed? values {}
  | _ => none

/-- The written form of a record. -/
def toJson (employee : Employee) : Json :=
  let id := match employee.id with
    | some id => [("_id", Json.text id)]
    | none => []
  .object (id ++ [
    ("name", .text employee.name),
    ("email", .text employee.email),
    ("phone", .text employee.phone),
    ("state", .text employee.state),
    ("city", .text employee.city),
    ("department", .text employee.department),
    ("salary", .decimal employee.salary),
    ("joinDate", .text employee.joinDate.render),
    ("gender", .text employee.gender),
    ("skillSet", .list (employee.skills.map .text)),
    ("age", .decimal employee.age),
    ("education", .text employee.education)])

end Employee

end StaffSearch
