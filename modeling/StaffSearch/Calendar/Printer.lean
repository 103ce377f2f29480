import StaffSearch.Calendar.Instant

/-!
# Writing moments

A moment is written as `YYYY-MM-DDTHH:MM:SSZ`. Years outside 0 to 9999 carry a sign and have at
least four digits. A fraction of the second has three, six or nine digits, the fewest that are
exact, and is left out when it is zero. A leap second is second 60.
-/

namespace StaffSearch

/-- The decimal digits of a number, with zeros in front up to a width. -/
def paddedDigits (width n : Nat) : List Char :=
  let digits := Nat.toDigits 10 n
  List.replicate (width - digits.length) '0' ++ digits

/-- The written form of a year. -/
def writeYear (year : Int) : List Char :=
  if 0 ≤ year ∧ year ≤ 9999 then paddedDigits 4 year.toNat
  else (if year < 0 then '-' else '+') :: paddedDigits 4 year.natAbs

/-- The written form of a date. -/
def Date.write (date : Date) : List Char :=
  writeYear date.year ++ '-' :: paddedDigits 2 date.month ++ '-' :: paddedDigits 2 date.day

/-- The written form of a fraction of a second in nanoseconds. -/
def writeFraction (nano : Nat) : List Char :=
  if nano = 0 then []
  else if nano % 1000000 = 0 then '.' :: paddedDigits 3 (nano / 1000000)
  else if nano % 1000 = 0 then '.' :: paddedDigits 6 (nano / 1000)
  else '.' :: paddedDigits 9 nano

/-- The second of the minute that is shown: a second that has run full is one more. -/
def Instant.shownSecond (moment : Instant) : Nat :=
  moment.second % 60 + moment.nano / nanosPerSecond

/-- The written form of a moment. -/
def Instant.write (moment : Instant) : List Char :=
  moment.date.write ++ 'T' :: paddedDigits 2 (moment.second / 3600) ++
    ':' :: paddedDigits 2 (moment.second / 60 % 60) ++
    ':' :: paddedDigits 2 moment.shownSecond ++
    writeFraction (moment.nano % nanosPerSecond) ++ ['Z']

/-- The written form of a moment. -/
def Instant.render (moment : Instant) : String := String.ofList moment.write

end StaffSearch
