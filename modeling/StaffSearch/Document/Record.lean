import StaffSearch.Document.Value
import StaffSearch.Employee

/-!
# Records as documents

A stored record differs from an employee record in two places: its identifier is an `ObjectId`, and
its moment of joining counts milliseconds and may be missing. An identifier that is none of 24
hexadecimal digits is not stored, and a missing moment, or one outside the calendar, is read as the
beginning of 1970.

A document may leave entries out and have further ones; numbers may be of any numeric kind.
-/

namespace StaffSearch.Document

/-- An employee as it is stored. -/
structure StoredRecord where
  /-- The identifier, if there is one. -/
  id : Option ObjectId := none
  /-- The full name. -/
  name : String := ""
  /-- The mail address. -/
  email : String := ""
  /-- The telephone number. -/
  phone : String := ""
  /-- The state of residence. -/
  state : String := ""
  /-- The city of residence. -/
  city : String := ""
  /-- The department. -/
  department : String := ""
  /-- The yearly salary. -/
  salary : Float := 0.0
  /-- The moment of joining in milliseconds since the beginning of 1970, if it is known. -/
  joinDate : Option Int64 := none
  /-- The gender. -/
  gender : String := ""
  /-- The skills. -/
  skills : List String := []
  /-- The age in years. -/
  age : Float := 0.0
  /-- The highest degree. -/
  education : String := ""
  deriving Inhabited

/-- The stored form of a record. -/
def StoredRecord.ofEmployee (employee : Employee) : StoredRecord :=
  { id := employee.id.bind ObjectId.parse?
    name := employee.name
    email := employee.email
    phone := employee.phone
    state := employee.state
    city := employee.city
    department := employee.department
    salary := employee.salary
    joinDate := some (Int64.ofInt employee.joinDate.millis)
    gender := employee.gender
    skills := employee.skills
    age := employee.age
    education := employee.education }

/-- The record of a stored form. -/
def StoredRecord.toEmployee (stored : StoredRecord) : Employee :=
  { id := stored.id.map (·.hex)
    name := stored.name
    email := stored.email
    phone := stored.phone
    state := stored.state
    city := stored.city
    department := stored.department
    salary := stored.salary
    joinDate :=
      (stored.joinDate.bind fun millis => Instant.ofMillis? millis.toInt).getD Instant.epoch
    gender := stored.gender
    skills := stored.skills
    age := stored.age
    education := stored.education }

/-- The document of a stored record. -/
def StoredRecord.toEntries (stored : StoredRecord) : Entries :=
  let id : Entries := match stored.id with
    | some id => [("_id", .id id)]
    | none => []
  let joinDate : Value := match stored.joinDate with
    | some millis => .date millis
    | none => .null
  id ++ [
    ("name", .text stored.name),
    ("email", .text stored.email),
    ("phone", .text stored.phone),
    ("state", .text stored.state),
    ("city", .text stored.city),
    ("department", .text stored.department),
    ("salary", .double stored.salary),
    ("joinDate", joinDate),
    ("gender", .text stored.gender),
    ("skillSet", .list (stored.skills.map .text)),
    ("age", .double stored.age),
    ("education", .text stored.education)]

/-! ## Reading a document -/

/-- The identifier of a value, none for the missing value. -/
def idOf? : Value → Option (Option ObjectId)
  | .null => some none
  | .id id => some (some id)
  | .text text => (ObjectId.parse? text).map some
  | _ => none

/-- The text of a value. -/
def textOf? : Value → Option String
  | .text text => some text
  | _ => none

/-- The number of a value as a double. -/
def numberOf? : Value → Option Float
  | .double value => some value
  | .int32 value => some (Float.ofInt value)
  | .int64 value => some value.toFloat
  | _ => none

/-- The moment of a value in milliseconds, none for the missing value. -/
def dateOf? : Value → Option (Option Int64)
  | .null => some none
  | .date millis => some (some millis)
  | _ => none

/-- The texts of a value that is a list of texts. -/
def textsOf? : Value → Option (List String)
  | .list values => values.mapM textOf?
  | _ => none

/-- What a reading makes of the entry with a name, or a default where there is none. -/
def Entries.read? {α : Type} (entries : Entries) (name : String) (read : Value → Option α)
    (default : α) : Option α :=
  match entries.get? name with
  | none => some default
  | some value => read value

/-- The stored record that a document denotes. -/
def StoredRecord.ofEntries? (entries : Entries) : Option StoredRecord := do
  let id ← entries.read? "_id" idOf? none
  let name ← entries.read? "name" textOf? ""
  let email ← entries.read? "email" textOf? ""
  let phone ← entries.read? "phone" textOf? ""
  let state ← entries.read? "state" textOf? ""
  let city ← entries.read? "city" textOf? ""
  let department ← entries.read? "department" textOf? ""
  let salary ← entries.read? "salary" numberOf? 0.0
  let joinDate ← entries.read? "joinDate" dateOf? none
  let gender ← entries.read? "gender" textOf? ""
  let skills ← entries.read? "skillSet" textsOf? []
  let age ← entries.read? "age" numberOf? 0.0
  let education ← entries.read? "education" textOf? ""
  return { id, name, email, phone, state, city, department, salary, joinDate, gender, skills, age,
           education }

end StaffSearch.Document
