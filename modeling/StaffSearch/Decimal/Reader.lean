import StaffSearch.Text.CharacterClass
import StaffSearch.Text.Case

/-!
# Reading doubles

A double is written as digits with an optional sign, point and exponent, where one digit before or
behind the point is enough, or as one of the words for infinity and for an undefined value in any
letter case. It is rounded once, from the exact decimal.
-/

namespace StaffSearch.Decimal

open StaffSearch.Text

/-- The double nearest to `digits · 10 ^ power`; beyond all doubles it is infinite or zero. -/
def nearestDouble (digits : Nat) (power : Int) : Float :=
  let size : Int := (Nat.toDigits 10 digits).length + power
  if digits = 0 ∨ size < -400 then 0.0
  else if 400 < size then 1.0 / 0.0
  else if 0 ≤ power then Float.ofScientific digits false power.toNat
  else Float.ofScientific digits true (-power).toNat

/-- The exponent that a text denotes: digits with an optional sign. -/
def exponentOf? (text : List Char) : Option Int :=
  let (negative, digits) := match text with
    | '-' :: rest => (true, rest)
    | '+' :: rest => (false, rest)
    | _ => (false, text)
  if digits.isEmpty || !digits.all isAsciiDigit then none
  else
    let size : Int := decimalValue digits
    some (if negative then -size else size)

/-- Whether a character starts the exponent of a number. -/
def isExponentLetter (c : Char) : Bool := c == 'e' || c == 'E'

/-- The double that digits with an optional point and exponent denote. -/
def readDigits? (text : List Char) : Option Float :=
  let whole := text.takeWhile isAsciiDigit
  let afterWhole := text.dropWhile isAsciiDigit
  let (fraction, rest) := match afterWhole with
    | '.' :: rest => (rest.takeWhile isAsciiDigit, rest.dropWhile isAsciiDigit)
    | _ => ([], afterWhole)
  if whole.isEmpty && fraction.isEmpty then none
  else
    let digits := decimalValue (whole ++ fraction)
    match rest with
    | [] => some (nearestDouble digits (-(fraction.length : Int)))
    | c :: rest =>
      if isExponentLetter c then
        (exponentOf? rest).map fun exponent =>
          nearestDouble digits (exponent - (fraction.length : Int))
      else none

/-- The double that a text without sign denotes. -/
def readUnsigned? (text : List Char) : Option Float :=
  let word := String.ofList (text.map lowerAscii)
  if word == "inf" || word == "infinity" then some (1.0 / 0.0)
  else if word == "nan" then some (0.0 / 0.0)
  else readDigits? text

/-- The double that a text denotes. -/
def read? (text : String) : Option Float :=
  match text.toList with
  | '-' :: rest => (readUnsigned? rest).map fun x => -x
  | '+' :: rest => readUnsigned? rest
  | rest => readUnsigned? rest

end StaffSearch.Decimal
