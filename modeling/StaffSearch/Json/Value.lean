/-!
# JSON values

A JSON value keeps the order of the members of its objects, and tells whole numbers from decimals:
a literal without fraction and exponent that fits into a signed or an unsigned 64-bit word is an
integer, every other number is a double.
-/

namespace StaffSearch

/-- A JSON value. -/
inductive Json where
  /-- The value `null`. -/
  | null
  /-- A truth value. -/
  | boolean (value : Bool)
  /-- A whole number within a 64-bit word. -/
  | integer (value : Int)
  /-- Any other number. -/
  | decimal (value : Float)
  /-- A string. -/
  | text (value : String)
  /-- An array. -/
  | list (items : List Json)
  /-- An object: its members in order. -/
  | object (members : List (String × Json))
  deriving Inhabited

namespace Json

/-- The value of a member in a list of members; the last one counts. -/
def lookup? (name : String) (members : List (String × Json)) : Option Json :=
  members.foldl (fun found member => if member.1 == name then some member.2 else found) none

/-- The value of a member of an object; the last one of that name counts. -/
def member? (name : String) : Json → Option Json
  | object members => lookup? name members
  | _ => none

/-- The text of a string. -/
def text? : Json → Option String
  | text value => some value
  | _ => none

/-- The items of an array that is made of strings. -/
def texts? : Json → Option (List String)
  | list items => items.mapM text?
  | _ => none

/-- A number of any kind as a double. -/
def number? : Json → Option Float
  | integer value => some (Float.ofInt value)
  | decimal value => some value
  | _ => none

end Json

end StaffSearch
