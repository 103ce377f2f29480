import StaffSearch.Json.Value
import StaffSearch.Log.Directive

/-!
# Log filters

A filter is made of directives with commas between them. The most specific directive that concerns a
message decides about it: the one with the longest origin, then the one with the most fields. Of two
directives about the same messages the later one counts. Directives about spans and about the values
of fields do not concern single messages.

A text that is no filter stands for the filter that lets reports through; the empty text lets errors
through.
-/

namespace StaffSearch.Log

open StaffSearch.Text

/-! ## Order -/

/-- The order of optional texts, a missing one first. -/
def compareTexts? : Option String → Option String → Ordering
  | none, none => .eq
  | none, some _ => .lt
  | some _, none => .gt
  | some a, some b => compare a b

/-- The length of an optional text, a missing one being shorter than any. -/
def lengthOf? : Option String → Nat
  | none => 0
  | some text => text.utf8ByteSize + 1

/-- The order of lists by their first difference. -/
def compareLists {α : Type} (compareItems : α → α → Ordering) : List α → List α → Ordering
  | [], [] => .eq
  | [], _ :: _ => .lt
  | _ :: _, [] => .gt
  | a :: as, b :: bs => (compareItems a b).then (compareLists compareItems as bs)

/-- The order of fields: those with a value are the greater ones. -/
def FieldMatch.compare (a b : FieldMatch) : Ordering :=
  (Ord.compare a.value.isSome b.value.isSome).then
    ((Ord.compare a.name b.name).then (compareTexts? a.value b.value))

/-- A directive that can be decided by a single message. -/
structure PlainDirective where
  /-- What the origin of a message starts with. -/
  target : Option String := none
  /-- The names of the fields that a message must have. -/
  fields : List String := []
  /-- How much is let through. -/
  level : Level
  deriving DecidableEq, Repr

/-- The order of plain directives, the most specific one being the smallest. -/
def PlainDirective.compare (a b : PlainDirective) : Ordering :=
  ((Ord.compare (lengthOf? a.target) (lengthOf? b.target)).then
    ((Ord.compare a.fields.length b.fields.length).then
      ((compareTexts? a.target b.target).then (compareLists Ord.compare a.fields b.fields)))).swap

/-- The order of directives, the most specific one being the smallest. -/
def Directive.compare (a b : Directive) : Ordering :=
  ((Ord.compare (lengthOf? a.target) (lengthOf? b.target)).then
    ((Ord.compare a.span.isSome b.span.isSome).then
      ((Ord.compare a.fields.length b.fields.length).then
        ((compareTexts? a.target b.target).then
          ((compareTexts? a.span b.span).then
            (compareLists FieldMatch.compare a.fields b.fields)))))).swap

/-- An ordered list with one more item, which replaces an item that is equal to it in the order. -/
def insertOrdered {α : Type} (compareItems : α → α → Ordering) (item : α) : List α → List α
  | [] => [item]
  | first :: rest =>
    match compareItems item first with
    | .lt => item :: first :: rest
    | .eq => item :: rest
    | .gt => first :: insertOrdered compareItems item rest

/-! ## Filters -/

/-- A log filter: its directives, the most specific ones first. -/
structure Filter where
  /-- The directives that single messages decide. -/
  plain : List PlainDirective
  /-- The other directives. -/
  conditional : List Directive
  deriving DecidableEq, Repr

namespace Filter

/-- Whether a directive has to do with spans or fields. -/
def isConditional (directive : Directive) : Bool :=
  directive.span.isSome || !directive.fields.isEmpty

/-- The plain directive of a directive that names no span and no value. -/
def plainOf? (directive : Directive) : Option PlainDirective :=
  if directive.span.isSome || directive.fields.any (fun field => field.value.isSome) then none
  else
    some {
      target := directive.target
      fields := directive.fields.map (·.name)
      level := directive.level }

/-- The filter with some directives; without any, errors are let through. -/
def ofDirectives (directives : List Directive) : Filter :=
  let conditional := directives.filter isConditional
  let others := directives.filter fun directive => !isConditional directive
  let plain := (others ++ conditional).filterMap plainOf?
  let ordered := plain.foldl (fun list item => insertOrdered PlainDirective.compare item list) []
  { plain := if ordered.isEmpty && conditional.isEmpty then [{ level := .error }] else ordered
    conditional :=
      conditional.foldl (fun list item => insertOrdered Directive.compare item list) [] }

/-- The filter that a text denotes. -/
def parse? (text : List Char) : Option Filter :=
  (((pieces ',' text).filter fun piece => !piece.isEmpty).mapM Directive.parse?).map ofDirectives

/-- The filter of a setting. -/
def ofSetting (text : String) : Filter :=
  (parse? text.toList).getD (ofDirectives [{ level := .info }])

/-! ## Writing -/

/-- The written form of fields. -/
def fieldsText (fields : List String) : String :=
  if fields.isEmpty then "" else "\x7b" ++ String.intercalate "," fields ++ "\x7d"

/-- The written form of a level behind what it is given to. -/
def withLevel (part : String) (level : Level) : String :=
  if part.isEmpty then level.label else part ++ "=" ++ level.label

/-- The written form of a plain directive. -/
def plainText (directive : PlainDirective) : String :=
  let fields := if directive.fields.isEmpty then "" else "[" ++ fieldsText directive.fields ++ "]"
  withLevel (directive.target.getD "" ++ fields) directive.level

/-- The written form of a field. -/
def fieldText (field : FieldMatch) : String :=
  field.name ++ (match field.value with
    | some value => "=" ++ value
    | none => "")

/-- The written form of a directive about spans or fields. -/
def conditionalText (directive : Directive) : String :=
  withLevel (directive.target.getD "" ++ "[" ++ directive.span.getD "" ++
    fieldsText (directive.fields.map fieldText) ++ "]") directive.level

/-- The written form of a filter. -/
def render (filter : Filter) : String :=
  String.intercalate "," (filter.plain.map plainText ++ filter.conditional.map conditionalText)

end Filter

/-! ## Messages -/

/-- A message of the program. -/
structure Event where
  /-- How weighty it is. -/
  level : Level
  /-- Which part of the program it comes from. -/
  target : String
  /-- Its fields besides the message. -/
  fields : List (String × Json) := []
  /-- What it says. -/
  message : String

/-- Whether a directive concerns a message. -/
def PlainDirective.concerns (directive : PlainDirective) (event : Event) : Bool :=
  (match directive.target with
    | some target => target.toList.isPrefixOf event.target.toList
    | none => true) &&
  directive.fields.all fun field =>
    field == "message" || event.fields.any fun known => known.1 == field

/-- Whether a filter lets a message through. -/
def Filter.admits (filter : Filter) (event : Event) : Bool :=
  match filter.plain.find? fun directive => directive.concerns event with
  | some directive => decide (event.level.rank ≤ directive.level.rank)
  | none => false

end StaffSearch.Log
