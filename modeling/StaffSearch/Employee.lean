import StaffSearch.Calendar.Instant

/-!
# Employees

The record of an employee and its searchable fields. The fields have a fixed order, which is the
order in which a filter lists its constraints.
-/

namespace StaffSearch

/-- An employee record; a store may give it an identifier. -/
structure Employee where
  /-- The identifier, if there is one. -/
  id : Option String := none
  /-- The full name. -/
  name : String := ""
  /-- The mail address. -/
  email : String := ""
  /-- The telephone number. -/
  phone : String := ""
  /-- The state of residence. -/
  state : String := ""
  /-- The city of residence. -/
  city : String := ""
  /-- The department. -/
  department : String := ""
  /-- The yearly salary. -/
  salary : Float := 0.0
  /-- The moment the employee joined. -/
  joinDate : Instant := Instant.epoch
  /-- The gender. -/
  gender : String := ""
  /-- The skills, in the order in which they were given. -/
  skills : List String := []
  /-- The age in years. -/
  age : Float := 0.0
  /-- The highest degree. -/
  education : String := ""
  deriving Inhabited

/-- The searchable fields of an employee. -/
inductive Field where
  /-- The full name. -/
  | name
  /-- The mail address. -/
  | email
  /-- The telephone number. -/
  | phone
  /-- The state of residence. -/
  | state
  /-- The city of residence. -/
  | city
  /-- The department. -/
  | department
  /-- The yearly salary. -/
  | salary
  /-- The moment the employee joined. -/
  | joinDate
  /-- The gender. -/
  | gender
  /-- The skills. -/
  | skills
  /-- The age in years. -/
  | age
  /-- The highest degree. -/
  | education
  deriving DecidableEq, Repr

namespace Field

/-- Every field, in order. -/
def all : List Field :=
  [name, email, phone, state, city, department, salary, joinDate, gender, skills, age, education]

@[simp] theorem mem_all (field : Field) : field ∈ all := by
  cases field <;> simp [all]

/-- The name of a field in records and documents. -/
def label : Field → String
  | name => "name"
  | email => "email"
  | phone => "phone"
  | state => "state"
  | city => "city"
  | department => "department"
  | salary => "salary"
  | joinDate => "joinDate"
  | gender => "gender"
  | skills => "skillSet"
  | age => "age"
  | education => "education"

/-- The field with the given name. -/
def ofLabel? (text : String) : Option Field := all.find? fun field => field.label == text

@[simp] theorem ofLabel?_label (field : Field) : ofLabel? field.label = some field := by
  cases field <;> rfl

end Field

/-- What a field of a record holds. -/
inductive FieldValue where
  /-- A text. -/
  | text (value : String)
  /-- A number. -/
  | number (value : Float)
  /-- A moment. -/
  | date (value : Instant)
  /-- A list of texts. -/
  | list (values : List String)

/-- The content of a field. -/
def Employee.value (employee : Employee) : Field → FieldValue
  | .name => .text employee.name
  | .email => .text employee.email
  | .phone => .text employee.phone
  | .state => .text employee.state
  | .city => .text employee.city
  | .department => .text employee.department
  | .salary => .number employee.salary
  | .joinDate => .date employee.joinDate
  | .gender => .text employee.gender
  | .skills => .list employee.skills
  | .age => .number employee.age
  | .education => .text employee.education

end StaffSearch
