import StaffSearch.Calendar.Reader
import StaffSearch.Decimal.Layout
import StaffSearch.Decimal.Reader
import StaffSearch.Document.Value
import StaffSearch.Filter.Json
import StaffSearch.Json.Value
import StaffSearch.Text.CharacterClass
import StaffSearch.Word

/-!
# Documents as JSON

Values that JSON does not have are written as objects whose member names start with a dollar sign: a
64-bit number as its digits in a string, a moment as its milliseconds, a pattern as its parts.
Reading takes plain JSON numbers as well: an integer becomes a 32-bit number if it fits, else a
64-bit one, and any other number a double.
-/

namespace StaffSearch.Document

open StaffSearch.Text

/-! ## Writing -/

mutual

/-- The written form of a value. -/
def Value.toJson : Value → Json
  | .double value => .object [("$numberDouble", .text (Decimal.Layout.document.render value))]
  | .int32 value => .object [("$numberInt", .text (toString value))]
  | .int64 value => .object [("$numberLong", .text (toString value.toInt))]
  | .text value => .text value
  | .boolean value => .boolean value
  | .null => .null
  | .id value => .object [("$oid", .text value.hex)]
  | .date millis =>
    .object [("$date", .object [("$numberLong", .text (toString millis.toInt))])]
  | .pattern source options =>
    .object [("$regularExpression",
      .object [("pattern", .text source), ("options", .text options)])]
  | .list values => .list (valuesToJson values)
  | .document entries => .object (entriesToJson entries)
  | .other => .null

/-- The written forms of the values of a list. -/
def valuesToJson : List Value → List Json
  | [] => []
  | value :: rest => value.toJson :: valuesToJson rest

/-- The written forms of the entries of a document. -/
def entriesToJson : List (String × Value) → List (String × Json)
  | [] => []
  | (name, value) :: rest => (name, value.toJson) :: entriesToJson rest

end

/-! ## Reading -/

/-- The signed 64-bit number that a text denotes. -/
def longOfText? (text : String) : Option Int64 :=
  ((integer? text.toList).filter (Word.fitsSigned 64)).map Int64.ofInt

/-- The value of a JSON number without fraction. -/
def integerValue (value : Int) : Value :=
  if Word.fitsSigned 32 value then .int32 value
  else if Word.fitsSigned 64 value then .int64 (Int64.ofInt value)
  else .double (Float.ofInt value)

/-- The moment of the member `$date`: milliseconds, or a text. -/
def dateOfMember? : Json → Option Value
  | .object [("$numberLong", .text digits)] => (longOfText? digits).map .date
  | .text text => (Instant.readStrict? text).map fun moment => .date (Int64.ofInt moment.millis)
  | _ => none

/-- The member names that stand for a value of another kind. -/
def otherKinds : List String :=
  ["$symbol", "$numberDecimal", "$binary", "$uuid", "$code", "$timestamp", "$minKey", "$maxKey",
    "$dbPointer", "$undefined"]

/-- The value of an object that has a member of the given kind; there must be no other member. -/
def specialValue? (members : List (String × Json)) : Option Value :=
  match members with
  | [("$oid", .text digits)] => (ObjectId.parse? digits).map .id
  | [("$numberInt", .text digits)] =>
    ((integer? digits.toList).filter (Word.fitsSigned 32)).map .int32
  | [("$numberLong", .text digits)] => (longOfText? digits).map .int64
  | [("$numberDouble", .text digits)] => (Decimal.read? digits).map .double
  | [("$date", content)] => dateOfMember? content
  | [("$regularExpression", content)] =>
    match content.member? "pattern", content.member? "options" with
    | some (.text source), some (.text options) => some (.pattern source options)
    | _, _ => none
  | _ => none

/-- Whether the object stands for a value that JSON does not have. -/
def isSpecial (members : List (String × Json)) : Bool :=
  members.any fun member =>
    ["$oid", "$numberInt", "$numberLong", "$numberDouble", "$date", "$regularExpression"].contains
      member.1

mutual

/-- The value that a JSON value denotes. -/
def Value.ofJson? : Json → Option Value
  | .null => some .null
  | .boolean value => some (.boolean value)
  | .integer value => some (integerValue value)
  | .decimal value => some (.double value)
  | .text value => some (.text value)
  | .list items => (valuesOfJson? items).map .list
  | .object members =>
    if isSpecial members then specialValue? members
    else if members.any fun member => otherKinds.contains member.1 then some .other
    else (entriesOfJson? members).map .document

/-- The values that the items of an array denote. -/
def valuesOfJson? : List Json → Option (List Value)
  | [] => some []
  | item :: rest =>
    match Value.ofJson? item, valuesOfJson? rest with
    | some value, some values => some (value :: values)
    | _, _ => none

/-- The entries that the members of an object denote. -/
def entriesOfJson? : List (String × Json) → Option (List (String × Value))
  | [] => some []
  | (name, item) :: rest =>
    match Value.ofJson? item, entriesOfJson? rest with
    | some value, some entries => some ((name, value) :: entries)
    | _, _ => none

end

end StaffSearch.Document
