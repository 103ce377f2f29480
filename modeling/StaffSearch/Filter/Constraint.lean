import StaffSearch.Employee
import StaffSearch.Text.Case
import StaffSearch.Text.Split
import StaffSearch.Text.TextSet

/-!
# Constraints on one field

A constraint is a comparison with an operand, a pattern, or a set of admitted texts.

* A comparison holds between values of the same kind only. Numbers are compared as doubles, moments
  in their order, texts by their lowercase forms.
* A pattern holds of a text that contains it, upper and lower case being the same, and of a list
  that has such a text.
* A set holds of a text that is one of its elements up to the case of ASCII letters, and of a list
  that has such a text.
-/

namespace StaffSearch

open StaffSearch.Text

/-- What a field is compared with. -/
inductive Operand where
  /-- A whole number. -/
  | number (value : Int64)
  /-- A moment. -/
  | date (value : Instant)
  /-- A text. -/
  | text (value : String)
  deriving DecidableEq

/-- A condition on the content of a field. -/
inductive Constraint where
  /-- Equal to the operand. -/
  | equals (operand : Operand)
  /-- Equal to the operand or larger. -/
  | atLeast (operand : Operand)
  /-- Equal to the operand or smaller. -/
  | atMost (operand : Operand)
  /-- Smaller than the operand. -/
  | lessThan (operand : Operand)
  /-- Contains the pattern. -/
  | containsPattern (pattern : String)
  /-- Is an element of the set. -/
  | oneOf (admitted : TextSet)
  deriving DecidableEq

/-! ## Comparing -/

/-- The order of two doubles; there is none if one of them is undefined. -/
def compareDoubles? (a b : Float) : Option Ordering :=
  if a < b then some .lt
  else if a == b then some .eq
  else if b < a then some .gt
  else none

/-- The double nearest to a whole number. -/
def doubleOf (value : Int64) : Float := value.toFloat

/-- The order of a field's content and an operand; there is none between values of two kinds. -/
def compareWith? : FieldValue → Operand → Option Ordering
  | .number a, .number b => compareDoubles? a (doubleOf b)
  | .date a, .date b => some (a.compare b)
  | .text a, .text b => some (compare (lowercase a) (lowercase b))
  | _, _ => none

/-! ## Patterns and sets -/

/-- Whether a text contains a pattern, upper and lower case being the same. -/
def containsPattern (pattern text : String) : Bool :=
  occursIn (lowerList pattern.toList) (lowerList text.toList)

/-- Whether a text is an element of a set up to the case of ASCII letters. -/
def TextSet.admits (set : TextSet) (text : String) : Bool :=
  set.elements.any fun element => equalIgnoringAsciiCase element text

/-- Whether the content of a field meets a constraint. -/
def Constraint.holdsOf : Constraint → FieldValue → Bool
  | .containsPattern pattern, .text value => StaffSearch.containsPattern pattern value
  | .containsPattern pattern, .list values => values.any (StaffSearch.containsPattern pattern)
  | .containsPattern _, _ => false
  | .oneOf set, .text value => set.admits value
  | .oneOf set, .list values => values.any set.admits
  | .oneOf _, _ => false
  | .equals operand, value => (compareWith? value operand).any (· == .eq)
  | .atLeast operand, value => (compareWith? value operand).any (·.isGE)
  | .atMost operand, value => (compareWith? value operand).any (·.isLE)
  | .lessThan operand, value => (compareWith? value operand).any (·.isLT)

end StaffSearch
