import StaffSearch.Decimal.Layout
import StaffSearch.Decimal.Reader
import StaffSearch.Log.Level
import StaffSearch.Text.CharacterClass
import StaffSearch.Text.Split
import StaffSearch.Word

/-!
# Directives of a log filter

A directive gives a level to the messages of a part of the program: the messages whose origin starts
with a text, and perhaps only those within a span of some name, or with some fields. Each of the
parts may be missing; a directive without a level lets everything through.

A directive is read sign by sign. Blanks around it do not count as signs, but the parts are cut out
of the text with its blanks, at the places counted without them.
-/

namespace StaffSearch.Log

open StaffSearch.Text

/-! ## Directives -/

/-- A field that a message must have, perhaps with a value. -/
structure FieldMatch where
  /-- The name of the field. -/
  name : String
  /-- The value as it is written. -/
  value : Option String
  deriving DecidableEq, Repr

/-- A level for a part of the messages. -/
structure Directive where
  /-- What the origin of a message starts with. -/
  target : Option String := none
  /-- The name of a span. -/
  span : Option String := none
  /-- Fields. -/
  fields : List FieldMatch := []
  /-- How much is let through. -/
  level : Level := .trace
  deriving DecidableEq, Repr

/-! ## Reading -/

/-- Whether a whole number fits a 64-bit word, with a sign or without one. -/
def isWordSized (value : Int) : Bool :=
  Word.fitsSigned 64 value || (0 ≤ value && Word.fitsUnsigned 64 value.toNat)

/-- The written form of a value of a field: numbers and truth values are set down anew. -/
def fieldValueText (text : String) : String :=
  if text == "true" || text == "false" then text
  else
    match (integer? text.toList).filter isWordSized, Decimal.read? text with
    | some value, _ => toString value
    | none, some value => Decimal.Layout.setting.render value
    | none, none => text

/-- The field that a text denotes; there must be some text. -/
def FieldMatch.parse? (text : List Char) : Option FieldMatch :=
  if text.isEmpty then none
  else
    match pieces '=' text with
    | name :: value :: _ =>
      some ⟨String.ofList name, some (fieldValueText (String.ofList value))⟩
    | name :: [] => some ⟨String.ofList name, none⟩
    | [] => none

/-- Where in a directive a sign stands; most places remember where they begin. -/
inductive Place where
  /-- Before the first sign. -/
  | start
  /-- In the first word, a level or an origin. -/
  | word (start : Nat)
  /-- In the name of a span. -/
  | span (start : Nat)
  /-- In a field. -/
  | field (start : Nat)
  /-- Behind the fields. -/
  | fields
  /-- Behind the closing bracket. -/
  | target
  /-- In the level. -/
  | level (start : Nat)
  deriving DecidableEq, Repr

/-- The part of a text between two places. -/
def cut (text : List Char) (start stop : Nat) : List Char := (text.drop start).take (stop - start)

/-- A part of a text as a name, if there is some. -/
def nameOf? (text : List Char) : Option String :=
  if text.isEmpty then none else some (String.ofList text)

/-- What follows a sign at a place: the parts of the directive so far, and the next place. -/
def advance? (text : List Char) (directive : Directive) (index : Nat) (c : Char) :
    Place → Option (Directive × Place)
  | .start =>
    if c = '[' then some (directive, .span (index + 1))
    else if isAlphanumeric c || c == '-' || c == ':' || c == '_' then some (directive, .word index)
    else none
  | .word start =>
    let target := some (String.ofList (cut text start index))
    if c = '=' then some ({ directive with target }, .level (index + 1))
    else if c = '[' then some ({ directive with target }, .span (index + 1))
    else some (directive, .word start)
  | .span start =>
    if c = ']' then
      some ({ directive with span := some (String.ofList (cut text start index)) }, .target)
    else if c = '\x7b' then
      some ({ directive with span := nameOf? (cut text start index) }, .field (index + 1))
    else some (directive, .span start)
  | .field start =>
    if c = '\x7d' then
      (FieldMatch.parse? (cut text start index)).map fun field =>
        ({ directive with fields := directive.fields ++ [field] }, .fields)
    else some (directive, .field start)
  | .fields => if c = ']' then some (directive, .target) else none
  | .target => if c = '=' then some (directive, .level (index + 1)) else none
  | .level start => some (directive, .level start)

/-- Reads signs from a place on. -/
def readSigns (text : List Char) (directive : Directive) (place : Place) (index : Nat) :
    List Char → Option (Directive × Place)
  | [] => some (directive, place)
  | c :: rest =>
    match advance? text directive index c place with
    | none => none
    | some (directive, place) => readSigns text directive place (index + 1) rest

/-- A single word is a level, or else an origin from which everything is let through. -/
def ofWord (directive : Directive) (word : List Char) : Directive :=
  if word.isEmpty then directive
  else
    match Level.ofText? word with
    | some level => { directive with level }
    | none => { directive with target := some (String.ofList word) }

/-- The directive that a text without commas denotes. -/
def Directive.parse? (text : List Char) : Option Directive :=
  match readSigns text {} .start 0 (trimList text) with
  | none => none
  | some (directive, place) =>
    match place with
    | .word start => some (ofWord directive (text.drop start))
    | .level start =>
      let word := text.drop start
      if word.isEmpty then some directive
      else (Level.ofText? word).map fun level => { directive with level }
    | .target => some directive
    | .start | .span _ | .field _ | .fields => none

end StaffSearch.Log
