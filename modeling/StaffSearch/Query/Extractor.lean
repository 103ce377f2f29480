import StaffSearch.Calendar.Instant
import StaffSearch.Filter.Constraint
import StaffSearch.Query.Binding
import StaffSearch.Query.Capture
import StaffSearch.Query.Vocabulary
import StaffSearch.Word

/-!
# Extractors

An extractor reads one kind of information off a query and turns it into a constraint on one field.
It never yields more than one constraint, and only on the field it owns.

A query compares all its numbers in the same direction. A word such as "above" anywhere makes every
number a lower bound; otherwise a word such as "below" makes every number an upper bound; without
either, numbers are meant exactly.

"Joined before 3 years" asks for employees who joined before the day three years ago. The day is
found by going back by months in the calendar; the 29 February becomes the 28 where it has to.
Months are counted in an unsigned 32-bit word, and no more than a signed one holds can be taken off.
-/

namespace StaffSearch.Query

/-! ## The direction of comparisons -/

/-- Words for "at least". -/
def upwardWords : List String := ["more", "above", "greater", "higher", "older"]

/-- Words for "at most". -/
def downwardWords : List String := ["less", "below", "lower", "younger"]

/-- How the numbers of a query are meant. -/
inductive Direction where
  /-- Neither more nor less. -/
  | exactly
  /-- A lower bound. -/
  | atLeast
  /-- An upper bound. -/
  | atMost
  deriving DecidableEq, Repr

/-- The direction that the words of a query give; upward words go first. -/
def directionOf (tokens : List Token) : Direction :=
  if containsText upwardWords tokens then .atLeast
  else if containsText downwardWords tokens then .atMost
  else .exactly

/-- The constraint that compares with a number in a direction. -/
def Direction.constraint (direction : Direction) (value : Nat) : Constraint :=
  let operand := Operand.number (Int64.ofNat value)
  match direction with
  | .exactly => .equals operand
  | .atLeast => .atLeast operand
  | .atMost => .atMost operand

/-! ## Relative join dates -/

/-- Words that make a query one about a join date. -/
def joinWords : List String := ["joined", "before"]

/-- Whether a query is about a join date: it speaks of joining and of years. Only then do years own
numerals. -/
def asksForJoinDate (tokens : List Token) : Bool :=
  (containsText joinWords tokens || containsStem "join" tokens) && containsStem "year" tokens

/-- The number of months of a number of years, if it fits into an unsigned 32-bit word. -/
def monthsOfYears? (years : Int64) : Option Nat :=
  let months := years.toInt * 12
  if 0 ≤ months && Word.fitsUnsigned 32 months.toNat then some months.toNat else none

/-- The beginning of the day a number of years before a moment. -/
def yearsBefore? (now : Instant) (years : Int64) : Option Instant :=
  match monthsOfYears? years with
  | none => none
  | some months =>
    if Word.fitsSigned 32 months then (now.date.monthsBefore? months).map Instant.midnight else none

/-! ## Reading constraints -/

/-- What extractors may read about a query. -/
structure Context where
  /-- The query as it was given. -/
  raw : String
  /-- The tokens of the query. -/
  tokens : List Token
  /-- The moment that relative dates refer to. -/
  now : Instant
  /-- The numerals of the anchors. -/
  bindings : Bindings

/-- The ways of reading a constraint off a query. -/
inductive Extractor where
  /-- Looks for terms of a vocabulary. -/
  | vocabulary (category : Category) (terms : List Term)
  /-- Captures the word behind a trigger. -/
  | capture (name : String) (field : Field) (trigger : String)
  /-- Compares with the numeral of an anchor. -/
  | numeric (field : Field) (anchor : Anchor)
  /-- Compares with a day some years ago. -/
  | joinDate
  deriving DecidableEq

namespace Extractor

/-- The extractor for the terms of a category in a lexicon. -/
def ofLexicon (lexicon : Lexicon) (category : Category) : Extractor :=
  .vocabulary category (lexicon.terms category)

/-- The extractor for cities. -/
def city : Extractor := .capture "capture:city" .city "city"

/-- The extractor for salaries. -/
def salary : Extractor := .numeric .salary .salary

/-- The extractor for ages. -/
def age : Extractor := .numeric .age .age

/-- The name of an extractor in messages. -/
def name : Extractor → String
  | .vocabulary category _ => "lexicon:" ++ category.label
  | .capture name _ _ => name
  | .numeric _ .salary => "numeric:salary"
  | .numeric _ .age => "numeric:age"
  | .numeric _ .years => "numeric:years"
  | .joinDate => "relative-date:joinDate"

/-- The field that an extractor owns. -/
def field : Extractor → Field
  | .vocabulary category _ => category.field
  | .capture _ field _ => field
  | .numeric field _ => field
  | .joinDate => .joinDate

/-- The constraint for the terms of a vocabulary that are present: the first one, or all of them
where the category allows several. -/
def termConstraint? (category : Category) (present : List Term) : Option Constraint :=
  if category.allowsSeveral then
    if present.isEmpty then none
    else some (.oneOf (TextSet.ofList (present.map (·.value))))
  else present.head?.map fun term => .containsPattern term.value

/-- The constraint that an extractor reads off a query. -/
def constraint? (context : Context) : Extractor → Option Constraint
  | .vocabulary category terms =>
    termConstraint? category (terms.filter (·.isPresentIn context.tokens))
  | .capture _ _ trigger => (capture? trigger context.raw).map .containsPattern
  | .numeric _ anchor =>
    (context.bindings.get? anchor).map fun binding =>
      (directionOf context.tokens).constraint binding.value
  | .joinDate =>
    if asksForJoinDate context.tokens then
      ((context.bindings.get? .years).bind fun binding =>
        yearsBefore? context.now (Int64.ofNat binding.value)).map fun moment =>
          .lessThan (.date moment)
    else none

/-- The constraints that an extractor reads off a query, with their fields. -/
def extract (extractor : Extractor) (context : Context) : List (Field × Constraint) :=
  ((extractor.constraint? context).map fun constraint => (extractor.field, constraint)).toList

end Extractor

end StaffSearch.Query
