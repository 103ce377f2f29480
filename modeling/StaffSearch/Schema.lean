/-!
# Schemas

Structures are read from values of several formats in the same way: from named values, where a
member may be missing and keeps what it has, or from a list of values in the order of the members,
of which the last ones may be missing. A schema is the list of the members; what a value means to a
member is up to its setter.
-/

namespace StaffSearch

/-- The members of a structure that is read from values of a type, each with its name and with what
a value does to the structure. -/
abbrev Schema (Value Structure : Type) := List (String × (Structure → Value → Option Structure))

namespace Schema

variable {Value Structure : Type}

/-- Reads values by name. -/
def readNamed? (find? : String → Option Value) :
    Schema Value Structure → Structure → Option Structure
  | [], target => some target
  | (name, set) :: rest, target =>
    match find? name with
    | none => readNamed? find? rest target
    | some value => (set target value).bind (readNamed? find? rest)

/-- Reads values in the order of the members, of which there must be enough. -/
def readListed? : Schema Value Structure → List Value → Structure → Option Structure
  | _, [], target => some target
  | [], _ :: _, _ => none
  | (_, set) :: rest, value :: values, target =>
    (set target value).bind (readListed? rest values)

end Schema

end StaffSearch
