import StaffSearch.Document.Query

/-!
# What a query document selects

The meaning of the query documents that filters turn into: when does a stored document satisfy one?

A query document is the conjunction of its entries. A bare value and the comparison operators hold
between values of the same kind only: numbers are compared as doubles, moments by their milliseconds
and texts character by character. A text pattern holds of a text that it matches somewhere, ASCII
letters in any case, and of a list that has such a text; `i` is the one option that patterns are
read with.

Patterns are read in the part of the usual language that is needed: a caret is the beginning of the
text, a dollar sign its end, a backslash makes the sign behind it an ordinary character, and every
other character without a meaning of its own stands for itself.
-/

namespace StaffSearch.Document

open StaffSearch.Text

/-! ## Patterns -/

/-- A piece of a pattern. -/
inductive PatternPiece where
  /-- The beginning of the text. -/
  | beginning
  /-- The end of the text. -/
  | ending
  /-- One given character. -/
  | literal (c : Char)
  deriving DecidableEq

/-- The pieces of a pattern, if it stays within the language. -/
def patternPieces? : List Char → Option (List PatternPiece)
  | [] => some []
  | '\\' :: c :: rest =>
    if patternSigns.contains c then (patternPieces? rest).map (.literal c :: ·) else none
  | c :: rest =>
    if c = '^' then (patternPieces? rest).map (.beginning :: ·)
    else if c = '$' then (patternPieces? rest).map (.ending :: ·)
    else if patternSigns.contains c && !(['#', '&', '-', '~'].contains c) then none
    else (patternPieces? rest).map (.literal c :: ·)

/-- Whether the pieces match at the start of `text`; `atBeginning` says that nothing stands before
it. -/
def matchesHere (atBeginning : Bool) : List PatternPiece → List Char → Bool
  | [], _ => true
  | .beginning :: pieces, text => atBeginning && matchesHere atBeginning pieces text
  | .ending :: pieces, text => text.isEmpty && matchesHere atBeginning pieces text
  | .literal _ :: _, [] => false
  | .literal c :: pieces, d :: text =>
    lowerAscii c == lowerAscii d && matchesHere false pieces text

/-- Whether the pieces match somewhere in `text`. -/
def matchesSomewhere (atBeginning : Bool) (pieces : List PatternPiece) : List Char → Bool
  | [] => matchesHere atBeginning pieces []
  | c :: text =>
    matchesHere atBeginning pieces (c :: text) || matchesSomewhere false pieces text

/-- Whether a pattern matches a text. -/
def patternMatches (source text : String) : Bool :=
  match patternPieces? source.toList with
  | some pieces => matchesSomewhere true pieces text.toList
  | none => false

/-- Whether a pattern matches a text, or a text in a list. -/
def patternHolds (source : String) : Value → Bool
  | .text value => patternMatches source value
  | .list values => values.any fun
    | .text value => patternMatches source value
    | _ => false
  | _ => false

/-! ## Comparisons -/

/-- The order of a stored value and an operand of the same kind. -/
def compareValues? : Value → Value → Option Ordering
  | .double a, .int64 b => compareDoubles? a (doubleOf b)
  | .date a, .date b => some (compare a.toInt b.toInt)
  | .text a, .text b => some (compare a b)
  | _, _ => none

/-! ## Selection -/

/-- Whether a member of the list of an `$in` operator holds of a value. -/
def memberHolds (value member : Value) : Bool :=
  match member with
  | .pattern source "i" => patternHolds source value
  | _ => (compareValues? value member).any (· == .eq)

/-- Whether an entry of a query document holds of the value of its field. -/
def conditionHolds (value : Value) : Value → Bool
  | .document [("$gte", operand)] => (compareValues? value operand).any (·.isGE)
  | .document [("$lte", operand)] => (compareValues? value operand).any (·.isLE)
  | .document [("$lt", operand)] => (compareValues? value operand).any (·.isLT)
  | .document [("$regex", .text source), ("$options", .text "i")] => patternHolds source value
  | .document [("$in", .list members)] => members.any (memberHolds value)
  | operand => (compareValues? value operand).any (· == .eq)

/-- Whether a document satisfies a query document. -/
def selects (query document : Entries) : Bool :=
  query.all fun condition =>
    match document.get? condition.1 with
    | some value => conditionHolds value condition.2
    | none => false

end StaffSearch.Document
