/-!
# Dates of the proleptic Gregorian calendar

A date is a year, a month and a day that exist together; years reach from -262143 to 262142, year 0
being the one before year 1. Days are numbered from 1 January 1970, which has number 0.

## Main results

* `yearStart_succ` — a year has 365 or 366 days.
* `yearOfDay_bounds` — the year found for a numbered day contains it.
-/

namespace StaffSearch

/-! ## Years and months -/

/-- The first year a date may have. -/
def earliestYear : Int := -262143

/-- The last year a date may have. -/
def latestYear : Int := 262142

/-- A year with a 29 February: every fourth one, of the full centuries only every fourth. -/
def isLeapYear (year : Int) : Bool :=
  year % 4 == 0 && (year % 100 != 0 || year % 400 == 0)

/-- The lengths of the months of a year. -/
def monthLengths (leap : Bool) : List Nat :=
  [31, if leap then 29 else 28, 31, 30, 31, 30, 31, 31, 30, 31, 30, 31]

/-- The number of days of a month; zero if there is no such month. -/
def daysInMonth (year : Int) (month : Nat) : Nat :=
  if month = 0 then 0 else ((monthLengths (isLeapYear year))[month - 1]?).getD 0

/-- Whether year, month and day make a date. -/
def IsDate (year : Int) (month day : Nat) : Prop :=
  earliestYear ≤ year ∧ year ≤ latestYear ∧ 1 ≤ month ∧ month ≤ 12 ∧ 1 ≤ day ∧
    day ≤ daysInMonth year month

instance (year : Int) (month day : Nat) : Decidable (IsDate year month day) := by
  unfold IsDate; infer_instance

/-! ## Dates -/

/-- A day of the calendar. -/
structure Date where
  /-- The year; year 0 comes before year 1. -/
  year : Int
  /-- The month, from 1 to 12. -/
  month : Nat
  /-- The day of the month, from 1. -/
  day : Nat
  /-- There is such a day. -/
  isDate : IsDate year month day
  deriving DecidableEq

/-- The date with the given year, month and day, if it exists. -/
def Date.ofCivil? (year : Int) (month day : Nat) : Option Date :=
  if h : IsDate year month day then some ⟨year, month, day, h⟩ else none

/-- The first of January 1970. -/
def Date.epoch : Date := ⟨1970, 1, 1, by decide⟩

/-- The order of dates. -/
def Date.compare (a b : Date) : Ordering :=
  ((Ord.compare a.year b.year).then (Ord.compare a.month b.month)).then (Ord.compare a.day b.day)

/-! ## Numbering the days -/

/-- The number of the first of January of a year. -/
def yearStart (year : Int) : Int :=
  365 * (year - 1) + (year - 1) / 4 - (year - 1) / 100 + (year - 1) / 400 - 719162

/-- The number of days of a year before a month. -/
def daysBeforeMonth (leap : Bool) (month : Nat) : Nat :=
  ((monthLengths leap).take (month - 1)).foldl (· + ·) 0

/-- The number of a date. -/
def Date.dayNumber (date : Date) : Int :=
  yearStart date.year + (daysBeforeMonth (isLeapYear date.year) date.month : Int) +
    (date.day : Int) - 1

/-- The year that contains the day with the given number. A year is 146097/400 days long on average,
so the estimate from that average is off by one at most. -/
def yearOfDay (number : Int) : Int :=
  let guess := (400 * (number + 719162)) / 146097 + 1
  if number < yearStart guess then guess - 1
  else if yearStart (guess + 1) ≤ number then guess + 1
  else guess

/-- The month and the day of the month of a day of the year, counted from zero. -/
def monthOfDay (month : Nat) : List Nat → Nat → Nat × Nat
  | [], day => (month, day + 1)
  | length :: rest, day =>
    if day < length then (month, day + 1) else monthOfDay (month + 1) rest (day - length)

/-- The date with the given number, if it lies within the calendar. -/
def Date.ofDayNumber? (number : Int) : Option Date :=
  let year := yearOfDay number
  let (month, day) := monthOfDay 1 (monthLengths (isLeapYear year)) (number - yearStart year).toNat
  Date.ofCivil? year month day

/-- A year has 366 days if it is a leap year and 365 otherwise. -/
theorem yearStart_succ (year : Int) :
    yearStart (year + 1) = yearStart year + (if isLeapYear year then 366 else 365) := by
  unfold yearStart isLeapYear
  by_cases h4 : year % 4 = 0 <;> by_cases h100 : year % 100 = 0 <;>
    by_cases h400 : year % 400 = 0 <;> simp [h4, h100, h400] <;> omega

/-- The day with the given number lies in the year found for it. -/
theorem yearOfDay_bounds (number : Int) :
    yearStart (yearOfDay number) ≤ number ∧ number < yearStart (yearOfDay number + 1) := by
  unfold yearOfDay yearStart
  dsimp only
  split
  · omega
  · split <;> omega

/-! ## Going back by months -/

/-- The date a number of months earlier; where the month is too short, its last day. -/
def Date.monthsBefore? (date : Date) (months : Nat) : Option Date :=
  let total := 12 * date.year + (date.month : Int) - 1 - (months : Int)
  let year := total / 12
  let month := (total % 12).toNat + 1
  Date.ofCivil? year month (min date.day (daysInMonth year month))

end StaffSearch
