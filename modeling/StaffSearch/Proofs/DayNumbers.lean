import Mathlib.Algebra.Ring.Nat
import StaffSearch.Calendar.Instant
import StaffSearch.Word

/-!
# The numbers of days and milliseconds

A date has a year, a month and a day, and it has a number.  The number is made of three parts, the
days before the year, the days of the year before the month, and the days of the month, and each
part is bounded by a step of the part in front of it.  Everything here follows from these bounds.

* Numbers of dates are ordered like the dates (`compare_dayNumber`), and milliseconds are ordered
  like the moments that fall on a whole millisecond (`compare_millis`).
* A date is found again from its number (`ofDayNumber?_dayNumber`).
-/

namespace StaffSearch

/-! ## Comparing in two parts -/

/-- Numbers are compared in two parts when the first part decides whenever it differs. -/
theorem compare_eq_then {m n : Int} {first second : Ordering} (hLess : first = .lt → m < n)
    (hMore : first = .gt → n < m) (hSame : first = .eq → compare m n = second) :
    compare m n = first.then second := by
  cases first with
  | lt => exact Int.compare_eq_lt.mpr (hLess rfl)
  | eq => exact hSame rfl
  | gt => exact Int.compare_eq_gt.mpr (hMore rfl)

/-- Numbers are compared like others that are in the same order. -/
theorem compare_congr {m n : Int} {a b : Nat} (hLess : a < b → m < n) (hMore : b < a → n < m)
    (hSame : a = b → m = n) : compare m n = compare a b := by
  rcases Nat.lt_trichotomy a b with h | h | h
  · rw [Nat.compare_eq_lt.mpr h, Int.compare_eq_lt.mpr (hLess h)]
  · rw [Nat.compare_eq_eq.mpr h, Int.compare_eq_eq.mpr (hSame h)]
  · rw [Nat.compare_eq_gt.mpr h, Int.compare_eq_gt.mpr (hMore h)]

/-! ## Years -/

/-- A later year starts no earlier than the end of the year. -/
theorem yearStart_succ_le {year later : Int} (h : year < later) :
    yearStart (year + 1) ≤ yearStart later := by
  unfold yearStart
  omega

/-- A numbered day lies in one year only. -/
theorem yearOfDay_eq {number year : Int} (hFrom : yearStart year ≤ number)
    (hTo : number < yearStart (year + 1)) : yearOfDay number = year := by
  obtain ⟨hLow, hHigh⟩ := yearOfDay_bounds number
  rcases Int.lt_trichotomy (yearOfDay number) year with hLess | hSame | hMore
  · have hStart := yearStart_succ_le hLess
    omega
  · exact hSame
  · have hStart := yearStart_succ_le hMore
    omega

/-! ## Months -/

theorem daysBeforeMonth_succ (year : Int) {month : Nat} (hFirst : 1 ≤ month)
    (hLast : month ≤ 12) :
    daysBeforeMonth (isLeapYear year) (month + 1) =
      daysBeforeMonth (isLeapYear year) month + daysInMonth year month := by
  have hAll : ∀ leap : Bool, ∀ m < 13, 1 ≤ m → daysBeforeMonth leap (m + 1) =
      daysBeforeMonth leap m + ((monthLengths leap)[m - 1]?).getD 0 := by decide
  have hNot : month ≠ 0 := by omega
  rw [daysInMonth, if_neg hNot]
  exact hAll _ month (by omega) hFirst

theorem daysBeforeMonth_le (leap : Bool) {month later : Nat} (h : month < later)
    (hLast : later ≤ 13) : daysBeforeMonth leap (month + 1) ≤ daysBeforeMonth leap later := by
  have hAll : ∀ leap : Bool, ∀ l < 14, ∀ m < l,
      daysBeforeMonth leap (m + 1) ≤ daysBeforeMonth leap l := by decide
  exact hAll leap later (by omega) month h

theorem daysBeforeMonth_year (year : Int) :
    yearStart year + (daysBeforeMonth (isLeapYear year) 13 : Int) = yearStart (year + 1) := by
  rw [yearStart_succ]
  cases isLeapYear year <;> rfl

theorem daysBeforeMonth_eq_sum (leap : Bool) (month : Nat) :
    daysBeforeMonth leap month = ((monthLengths leap).take (month - 1)).sum := by
  rw [daysBeforeMonth, List.sum_eq_foldl]

/-- The month of a day of the year is the one whose days it falls among. -/
theorem monthOfDay_eq (lengths : List Nat) :
    ∀ (first index day : Nat), day < (lengths[index]?).getD 0 →
      monthOfDay first lengths ((lengths.take index).sum + day) = (first + index, day + 1) := by
  induction lengths with
  | nil =>
      intro first index day hDay
      simp at hDay
  | cons length rest ih =>
      intro first index day hDay
      cases index with
      | zero =>
          have hWithin : day < length := hDay
          rw [List.take_zero, List.sum_nil, Nat.zero_add, monthOfDay, if_pos hWithin]
          rfl
      | succ index =>
          have hBehind : ¬ length + (rest.take index).sum + day < length := by omega
          have hRest : length + (rest.take index).sum + day - length =
              (rest.take index).sum + day := by omega
          rw [List.take_succ_cons, List.sum_cons, monthOfDay, if_neg hBehind, hRest,
            ih (first + 1) index day hDay]
          congr 1
          omega

namespace Date

variable (date : Date)

theorem month_bounds : 1 ≤ date.month ∧ date.month ≤ 12 := by
  obtain ⟨-, -, hFirst, hLast, -, -⟩ := date.isDate
  exact ⟨hFirst, hLast⟩

theorem day_bounds : 1 ≤ date.day ∧ date.day ≤ daysInMonth date.year date.month := by
  obtain ⟨-, -, -, -, hFirst, hLast⟩ := date.isDate
  exact ⟨hFirst, hLast⟩

theorem day_lt : date.day < 100 := by
  obtain ⟨hFirst, hLast⟩ := date.month_bounds
  have hLengths : ∀ leap : Bool, ∀ month < 13,
      ((monthLengths leap)[month - 1]?).getD 0 < 100 := by decide
  have hNot : date.month ≠ 0 := by omega
  have hDay := date.day_bounds.2
  rw [daysInMonth, if_neg hNot] at hDay
  exact Nat.lt_of_le_of_lt hDay (hLengths _ date.month (by omega))

theorem year_bounds : -262143 ≤ date.year ∧ date.year ≤ 262142 := by
  obtain ⟨hFirst, hLast, -⟩ := date.isDate
  exact ⟨hFirst, hLast⟩

/-- The number of a date lies between the numbers of its month and of the next one. -/
theorem dayNumber_bounds :
    yearStart date.year + (daysBeforeMonth (isLeapYear date.year) date.month : Int) ≤
        date.dayNumber ∧
      date.dayNumber <
        yearStart date.year +
          (daysBeforeMonth (isLeapYear date.year) (date.month + 1) : Int) := by
  obtain ⟨hFirst, hLast⟩ := date.month_bounds
  obtain ⟨hDayFirst, hDayLast⟩ := date.day_bounds
  rw [daysBeforeMonth_succ date.year hFirst hLast]
  unfold Date.dayNumber
  omega

/-- The number of a date lies in its year. -/
theorem dayNumber_year_bounds :
    yearStart date.year ≤ date.dayNumber ∧ date.dayNumber < yearStart (date.year + 1) := by
  obtain ⟨hLow, hHigh⟩ := date.dayNumber_bounds
  have hLast := date.month_bounds.2
  have hMonth : daysBeforeMonth (isLeapYear date.year) (date.month + 1) ≤
      daysBeforeMonth (isLeapYear date.year) 13 := daysBeforeMonth_le _ (by omega) (by omega)
  have hYear := daysBeforeMonth_year date.year
  omega

/-! ## The order of numbers -/

variable {date}

theorem dayNumber_lt_of_year {later : Date} (h : date.year < later.year) :
    date.dayNumber < later.dayNumber := by
  have hEarly := date.dayNumber_year_bounds.2
  have hLate := later.dayNumber_year_bounds.1
  have hStart := yearStart_succ_le h
  omega

theorem dayNumber_lt_of_month {later : Date} (hYear : date.year = later.year)
    (h : date.month < later.month) : date.dayNumber < later.dayNumber := by
  have hEarly := date.dayNumber_bounds.2
  have hLate := later.dayNumber_bounds.1
  have hMonth := daysBeforeMonth_le (isLeapYear later.year) h
    (Nat.le_succ_of_le later.month_bounds.2)
  rw [hYear] at hEarly
  omega

/-- **Numbers are ordered like dates.** -/
theorem compare_dayNumber (a b : Date) :
    Ord.compare a.dayNumber b.dayNumber = Date.compare a b := by
  rw [Date.compare, Ordering.then_assoc]
  apply compare_eq_then
  · intro h
    exact dayNumber_lt_of_year (Int.compare_eq_lt.mp h)
  · intro h
    exact dayNumber_lt_of_year (Int.compare_eq_gt.mp h)
  · intro hYear
    have hYear := Int.compare_eq_eq.mp hYear
    apply compare_eq_then
    · intro h
      exact dayNumber_lt_of_month hYear (Nat.compare_eq_lt.mp h)
    · intro h
      exact dayNumber_lt_of_month hYear.symm (Nat.compare_eq_gt.mp h)
    · intro hMonth
      have hMonth := Nat.compare_eq_eq.mp hMonth
      unfold Date.dayNumber
      rw [hYear, hMonth]
      apply compare_congr <;> omega

/-! ## From the number to the date -/

/-- **A date is found again from its number.** -/
theorem ofDayNumber?_dayNumber (date : Date) : Date.ofDayNumber? date.dayNumber = some date := by
  obtain ⟨hFirst, hLast⟩ := date.month_bounds
  obtain ⟨hDayFirst, hDayLast⟩ := date.day_bounds
  have hYear : yearOfDay date.dayNumber = date.year :=
    yearOfDay_eq date.dayNumber_year_bounds.1 date.dayNumber_year_bounds.2
  have hRest : (date.dayNumber - yearStart date.year).toNat =
      daysBeforeMonth (isLeapYear date.year) date.month + (date.day - 1) := by
    unfold Date.dayNumber
    omega
  have hMonth : monthOfDay 1 (monthLengths (isLeapYear date.year))
      (daysBeforeMonth (isLeapYear date.year) date.month + (date.day - 1)) =
        (date.month, date.day) := by
    have hNot : date.month ≠ 0 := by omega
    rw [daysInMonth, if_neg hNot] at hDayLast
    rw [daysBeforeMonth_eq_sum, monthOfDay_eq _ 1 (date.month - 1) (date.day - 1) (by omega)]
    congr 1 <;> omega
  simp only [Date.ofDayNumber?, hYear, hRest, hMonth]
  exact dif_pos date.isDate

/-! ## Every number within the calendar -/

/-- A day of the year before the end of a month falls into this month or an earlier one. -/
theorem exists_month (leap : Bool) {day last : Nat} (h : day < daysBeforeMonth leap (last + 1)) :
    ∃ month, 1 ≤ month ∧ month ≤ last ∧ daysBeforeMonth leap month ≤ day ∧
      day < daysBeforeMonth leap (month + 1) := by
  induction last with
  | zero =>
      have hNone : daysBeforeMonth leap (0 + 1) = 0 := rfl
      omega
  | succ last ih =>
      by_cases hBefore : day < daysBeforeMonth leap (last + 1)
      · obtain ⟨month, hFirst, hLast, hMonth⟩ := ih hBefore
        exact ⟨month, hFirst, by omega, hMonth⟩
      · exact ⟨last + 1, by omega, by omega, by omega, h⟩

/-- The days from the first year of the calendar to the last one are dates. -/
theorem exists_dayNumber_eq {number : Int} (hFrom : yearStart earliestYear ≤ number)
    (hTo : number < yearStart (latestYear + 1)) : ∃ date : Date, date.dayNumber = number := by
  obtain ⟨hLow, hHigh⟩ := yearOfDay_bounds number
  generalize yearOfDay number = year at hLow hHigh
  have hEarliest : earliestYear ≤ year := by
    by_contra hBefore
    have hStart := yearStart_succ_le (Int.not_le.mp hBefore)
    omega
  have hLatest : year ≤ latestYear := by
    by_contra hAfter
    have hStart := yearStart_succ_le (Int.not_le.mp hAfter)
    omega
  have hInYear : (number - yearStart year).toNat < daysBeforeMonth (isLeapYear year) (12 + 1) := by
    have hYear := daysBeforeMonth_year year
    show _ < daysBeforeMonth (isLeapYear year) 13
    omega
  obtain ⟨month, hFirst, hLast, hBegun, hNotOver⟩ := exists_month (isLeapYear year) hInYear
  rw [daysBeforeMonth_succ year hFirst hLast] at hNotOver
  generalize hDay : (number - yearStart year).toNat -
    daysBeforeMonth (isLeapYear year) month = day at hNotOver
  have hWithin : day + 1 ≤ daysInMonth year month := by omega
  refine ⟨⟨year, month, day + 1, hEarliest, hLatest, hFirst, hLast, by omega, hWithin⟩, ?_⟩
  show yearStart year + (daysBeforeMonth (isLeapYear year) month : Int) + ((day + 1 : Nat) : Int) -
    1 = number
  omega

end Date

/-! ## Milliseconds -/

namespace Instant

/-- The moment falls on a whole millisecond, and not into a leap second. -/
def IsWholeMilli (moment : Instant) : Prop :=
  moment.nano % 1000000 = 0 ∧ moment.nano < nanosPerSecond

/-- Every moment of the calendar has its milliseconds in a signed 64-bit word. -/
theorem toInt_millis (moment : Instant) : (Int64.ofInt moment.millis).toInt = moment.millis := by
  apply Word.toInt64_toInt
  obtain ⟨hFirst, hLast⟩ := moment.date.year_bounds
  obtain ⟨hFrom, hTo⟩ := moment.date.dayNumber_year_bounds
  obtain ⟨hSecond, hNano⟩ := moment.isTime
  have hCount : Word.count (64 - 1) = 9223372036854775808 := by decide
  unfold yearStart at hFrom hTo
  unfold secondsPerDay at hSecond
  unfold nanosPerSecond at hNano
  rw [Word.fitsSigned_iff, hCount, Instant.millis, secondsPerDay]
  omega

/-- **Whole milliseconds are ordered like their moments.** -/
theorem compare_millis {a b : Instant} (hA : a.IsWholeMilli) (hB : b.IsWholeMilli) :
    Ord.compare a.millis b.millis = Instant.compare a b := by
  obtain ⟨hNanoA, hSmallA⟩ := hA
  obtain ⟨hNanoB, hSmallB⟩ := hB
  have hSecondA := a.isTime.1
  have hSecondB := b.isTime.1
  unfold nanosPerSecond at hSmallA hSmallB
  unfold secondsPerDay at hSecondA hSecondB
  rw [Instant.compare, Ordering.then_assoc, ← Date.compare_dayNumber]
  unfold Instant.millis secondsPerDay
  apply compare_eq_then
  · intro h
    have hDay := Int.compare_eq_lt.mp h
    omega
  · intro h
    have hDay := Int.compare_eq_gt.mp h
    omega
  · intro h
    have hDay := Int.compare_eq_eq.mp h
    apply compare_eq_then
    · intro h
      have hSecond := Nat.compare_eq_lt.mp h
      omega
    · intro h
      have hSecond := Nat.compare_eq_gt.mp h
      omega
    · intro h
      have hSecond := Nat.compare_eq_eq.mp h
      apply compare_congr <;> omega

end Instant

end StaffSearch
