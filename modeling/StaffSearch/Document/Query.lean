import StaffSearch.Document.Value
import StaffSearch.Filter.Basic

/-!
# Filters as query documents

A document store is asked with a document that has an entry for every constrained field. A
comparison becomes a bare value or an operator with a value; a pattern becomes a text pattern in
which every character that has a meaning of its own is escaped; a set becomes a list of such
patterns, each of which has to cover the whole text.
-/

namespace StaffSearch.Document

/-- Characters with a meaning of their own in a text pattern. -/
def patternSigns : List Char :=
  ['\\', '.', '+', '*', '?', '(', ')', '|', '[', ']', '\x7b', '\x7d', '^', '$', '#', '&', '-', '~']

/-- The pattern that matches exactly one given character. -/
def escapeChar (c : Char) : List Char := if patternSigns.contains c then ['\\', c] else [c]

/-- The pattern that matches exactly one given text. -/
def escapeList (text : List Char) : List Char := text.flatMap escapeChar

/-- The pattern that matches exactly one given text. -/
def escape (text : String) : String := String.ofList (escapeList text.toList)

/-- The operand of a comparison in a query document. -/
def operandValue : Operand → Value
  | .number value => .int64 value
  | .date moment => .date (Int64.ofInt moment.millis)
  | .text value => .text value

/-- The pattern for a whole text, in any letter case. -/
def wholePattern (text : String) : Value := .pattern ("^" ++ escape text ++ "$") "i"

/-- A constraint in a query document. -/
def constraintValue : Constraint → Value
  | .equals operand => operandValue operand
  | .atLeast operand => .document [("$gte", operandValue operand)]
  | .atMost operand => .document [("$lte", operandValue operand)]
  | .lessThan operand => .document [("$lt", operandValue operand)]
  | .containsPattern pattern =>
    .document [("$regex", .text (escape pattern)), ("$options", .text "i")]
  | .oneOf set => .document [("$in", .list (set.elements.map wholePattern))]

/-- The query document of a filter. -/
def ofFilter (filter : Filter) : Entries :=
  filter.entries.map fun entry => (entry.1.label, constraintValue entry.2)

end StaffSearch.Document
