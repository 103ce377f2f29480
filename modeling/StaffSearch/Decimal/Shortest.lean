import StaffSearch.Word

/-!
# The shortest decimal of a double

A finite double is `m · 2 ^ q` for a whole number `m` below `2 ^ 53`. The reals that round to it
form an interval around it, whose ends belong to it exactly when `m` is even. The decimal chosen for
the double has the fewest digits of all decimals in that interval, and is the nearest of those.

For a number of digits `n` the decimals with `n` digits form a grid around the value. Some point of
the grid lies in the interval exactly when one of the value's two neighbours on the grid does, so it
is enough to try these two for `n = 1, 2, …, 17`; seventeen digits always suffice.
-/

namespace StaffSearch.Decimal

/-! ## Doubles as whole numbers times powers of two -/

/-- A positive finite double: the value is `mantissa · 2 ^ exponent`. -/
structure Dyadic where
  /-- The whole factor. -/
  mantissa : Nat
  /-- The power of two. -/
  exponent : Int
  /-- Whether the next smaller double is only half as far away as the next larger one. -/
  atBinade : Bool

/-- The value of the magnitude bits of a finite double. -/
def Dyadic.ofBits (bits : Nat) : Dyadic :=
  let fraction : Nat := bits % Word.count 52
  let field : Nat := bits / Word.count 52 % Word.count 11
  if field = 0 then { mantissa := fraction, exponent := -1074, atBinade := false }
  else
    { mantissa := fraction + Word.count 52, exponent := (field : Int) - 1075,
      atBinade := fraction == 0 && 1 < field }

/-- A positive fraction of two whole numbers. -/
structure Fraction where
  /-- The numerator. -/
  num : Nat
  /-- The denominator. -/
  den : Nat

/-- The order of two fractions. -/
def Fraction.le (a b : Fraction) : Bool := decide (a.num * b.den ≤ b.num * a.den)

/-- The strict order of two fractions. -/
def Fraction.lt (a b : Fraction) : Bool := decide (a.num * b.den < b.num * a.den)

/-- The distance of two fractions. -/
def Fraction.distance (a b : Fraction) : Fraction :=
  let x := a.num * b.den
  let y := b.num * a.den
  { num := (x - y) + (y - x), den := a.den * b.den }

/-- The fraction `factor · base ^ power`. -/
def Fraction.scaled (factor base : Nat) (power : Int) : Fraction :=
  if 0 ≤ power then { num := factor * Nat.pow base power.toNat, den := 1 }
  else { num := factor, den := Nat.pow base (-power).toNat }

/-- The value of a double. -/
def Dyadic.value (x : Dyadic) : Fraction := Fraction.scaled x.mantissa 2 x.exponent

/-- The smallest real that does not round to a smaller double. -/
def Dyadic.lower (x : Dyadic) : Fraction :=
  Fraction.scaled (if x.atBinade then 4 * x.mantissa - 1 else 4 * x.mantissa - 2) 2 (x.exponent - 2)

/-- The largest real that does not round to a larger double. -/
def Dyadic.upper (x : Dyadic) : Fraction :=
  Fraction.scaled (4 * x.mantissa + 2) 2 (x.exponent - 2)

/-- Whether a real rounds to the double; the ends of the interval do when the mantissa is even. -/
def Dyadic.admits (x : Dyadic) (a : Fraction) : Bool :=
  if x.mantissa % 2 = 0 then x.lower.le a && a.le x.upper else x.lower.lt a && a.lt x.upper

/-! ## Decimals -/

/-- The decimal `digits · 10 ^ exponent`. -/
structure Digits where
  /-- The digits, read as one whole number. -/
  digits : Nat
  /-- The power of ten. -/
  exponent : Int
  deriving DecidableEq, Repr

/-- The value of a decimal. -/
def Digits.value (d : Digits) : Fraction := Fraction.scaled d.digits 10 d.exponent

/-- The decimal with the same value and no zero at its end. -/
def Digits.normalize (d : Digits) : Nat → Digits
  | 0 => d
  | fuel + 1 =>
    if d.digits ≠ 0 ∧ d.digits % 10 = 0 then
      Digits.normalize { digits := d.digits / 10, exponent := d.exponent + 1 } fuel
    else d

/-- How often a positive fraction below one has to be multiplied by ten to reach one. -/
def leadingZeros (a : Fraction) : Nat → Nat
  | 0 => 0
  | fuel + 1 => if a.den ≤ a.num then 0 else leadingZeros { a with num := 10 * a.num } fuel + 1

/-- The position of the decimal point of a fraction: `10 ^ (p - 1) ≤ a < 10 ^ p`. -/
def pointPosition (a : Fraction) : Int :=
  if a.den ≤ a.num then ((Nat.toDigits 10 (a.num / a.den)).length : Int)
  else 1 - (leadingZeros a 400 : Int)

/-- The larger neighbour of the value on the grid `10 ^ exponent`, or the smaller one, whichever
rounds to the double; of two, the nearer, and the smaller if they are equally near. -/
def Dyadic.gridPoint? (x : Dyadic) (exponent : Int) : Option Digits :=
  let unit := Fraction.scaled 1 10 exponent
  let v := x.value
  let below : Digits := { digits := v.num * unit.den / (v.den * unit.num), exponent }
  let above : Digits := { below with digits := below.digits + 1 }
  match x.admits below.value, x.admits above.value with
  | true, true =>
    if (above.value.distance v).lt (below.value.distance v) then some above else some below
  | true, false => some below
  | false, true => some above
  | false, false => none

/-- The shortest decimal that rounds to the double. -/
def Dyadic.shortest (x : Dyadic) : Digits :=
  let point := pointPosition x.value
  let found :=
    (List.range' 1 17).findSome? fun (count : Nat) => x.gridPoint? (point - (count : Int))
  (found.getD { digits := 0, exponent := 0 }).normalize 20

end StaffSearch.Decimal
