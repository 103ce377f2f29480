import StaffSearch.Decimal.Shortest
import StaffSearch.Word

/-!
# Writing doubles

The digits of a double are its shortest decimal; a `Layout` says how they are set down: where the
positional form ends and the form with an exponent begins, whether a whole number shows a fraction,
and what is written for values that are no numbers.
-/

namespace StaffSearch.Decimal

/-- The written form of doubles. -/
structure Layout where
  /-- Whether a number with its point at this position is written without an exponent. -/
  isPositional : Int → Bool
  /-- What follows a whole number. -/
  wholeSuffix : String
  /-- What is written for an undefined value. -/
  undefinedText : String
  /-- What is written for a value beyond all bounds, without its sign. -/
  infiniteText : String

/-- Digits with a point behind the first `point` of them, which may be none or more than there are.
-/
def positional (layout : Layout) (digits : List Char) (point : Int) : String :=
  let count : Int := digits.length
  if point ≤ 0 then
    "0." ++ String.ofList (List.replicate (-point).toNat '0') ++ String.ofList digits
  else if count ≤ point then
    String.ofList digits ++ String.ofList (List.replicate (point - count).toNat '0') ++
      layout.wholeSuffix
  else
    String.ofList (digits.take point.toNat) ++ "." ++ String.ofList (digits.drop point.toNat)

/-- One digit, the others behind a point, and the power of ten. -/
def scientific (digits : List Char) (point : Int) : String :=
  let fraction := digits.drop 1
  String.ofList (digits.take 1) ++ (if fraction.isEmpty then "" else ".") ++
    String.ofList fraction ++ "e" ++ toString (point - 1)

/-- The written form of a double. -/
def Layout.render (layout : Layout) (x : Float) : String :=
  let bits := x.toBits.toNat
  let sign := if bits / Word.count 63 = 1 then "-" else ""
  let magnitude := bits % Word.count 63
  if magnitude / Word.count 52 = 2047 then
    if magnitude % Word.count 52 = 0 then sign ++ layout.infiniteText else layout.undefinedText
  else if magnitude = 0 then sign ++ "0" ++ layout.wholeSuffix
  else
    let shortest := (Dyadic.ofBits magnitude).shortest
    let digits := Nat.toDigits 10 shortest.digits
    let point := shortest.exponent + (digits.length : Int)
    sign ++ (if layout.isPositional point then positional layout digits point
      else scientific digits point)

/-- Doubles in answers: positional from a hundred-thousandth up to seventeen places, a whole number
shown with one decimal; what is no finite number is written as a missing value. -/
def Layout.answer : Layout :=
  { isPositional := fun point => decide (-5 < point) && decide (point ≤ 16)
    wholeSuffix := ".0", undefinedText := "null", infiniteText := "null" }

/-- Doubles in stored documents: always positional, a whole number shown with one decimal. -/
def Layout.document : Layout :=
  { isPositional := fun _ => true
    wholeSuffix := ".0", undefinedText := "NaN", infiniteText := "Infinity" }

/-- Doubles read as texts of a setting: always positional, a whole number without a point. -/
def Layout.setting : Layout :=
  { isPositional := fun _ => true
    wholeSuffix := "", undefinedText := "NaN", infiniteText := "inf" }

/-- Whether a double is a finite number. -/
def isFinite (x : Float) : Bool := x.toBits.toNat / Word.count 52 % Word.count 11 != 2047

end StaffSearch.Decimal
