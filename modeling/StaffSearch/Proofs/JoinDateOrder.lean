import StaffSearch.Proofs.YearsBack

/-!
# The order of relative join dates

Dates are compared by year, month and day, and going back by years changes the year and, in
February, the day.  It keeps the order: a day is cut to the length of its month, and what is cut to
the same length stays in order (`IsYearsBefore.isLE`).  Going back by more years leads to an earlier
year, whatever the days are (`IsYearsBefore.lt`), and going back at all never leads beyond the
beginning of the day one starts from (`IsYearsBefore.isLE_now`).
-/

namespace StaffSearch

/-! ## Comparing part by part -/

namespace Date

variable {a b : Date}

theorem compare_eq_lt_iff :
    a.compare b = .lt ↔ a.year < b.year ∨ a.year = b.year ∧
      (a.month < b.month ∨ a.month = b.month ∧ a.day < b.day) := by
  rw [compare]
  simp only [Ordering.then_eq_lt, Ordering.then_eq_eq, Int.compare_eq_lt, Int.compare_eq_eq,
    Nat.compare_eq_lt, Nat.compare_eq_eq]
  omega

theorem isLE_compare_iff :
    (a.compare b).isLE = true ↔ a.year < b.year ∨ a.year = b.year ∧
      (a.month < b.month ∨ a.month = b.month ∧ a.day ≤ b.day) := by
  rw [compare]
  simp only [Ordering.isLE_then_iff_or, Ordering.then_eq_lt, Ordering.then_eq_eq,
    Int.compare_eq_lt, Int.compare_eq_eq, Nat.compare_eq_lt, Nat.compare_eq_eq, Nat.isLE_compare]
  omega

end Date

namespace Instant

variable {a b : Instant}

/-- A moment is not before another one if its date is not. -/
theorem isLE_date (h : (a.compare b).isLE = true) : (a.date.compare b.date).isLE = true := by
  rw [compare, Ordering.isLE_then_iff_and, Ordering.isLE_then_iff_and] at h
  exact h.1.1

/-- Two beginnings of days are compared as the days. -/
theorem compare_midnight (a b : Date) : (midnight a).compare (midnight b) = a.compare b := by
  show ((a.compare b).then (Ord.compare 0 0)).then (Ord.compare 0 0) = a.compare b
  cases a.compare b <;> rfl

/-- A moment lies before the beginning of a day if its own day does. -/
theorem compare_midnight_eq_lt_iff {moment : Instant} {date : Date} :
    moment.compare (midnight date) = .lt ↔ moment.date.compare date = .lt := by
  show ((moment.date.compare date).then (Ord.compare moment.second 0)).then
    (Ord.compare moment.nano 0) = .lt ↔ _
  simp [Ordering.then_eq_lt, Nat.compare_eq_lt]

/-- The beginning of a day is not after the moments of that day and of later ones. -/
theorem isLE_midnight {date : Date} (h : (date.compare b.date).isLE = true) :
    ((midnight date).compare b).isLE = true := by
  show (((date.compare b.date).then (Ord.compare 0 b.second)).then (Ord.compare 0 b.nano)).isLE
  rw [Ordering.isLE_then_iff_and, Ordering.isLE_then_iff_and, Nat.isLE_compare, Nat.isLE_compare]
  exact ⟨⟨h, Or.inr (Nat.zero_le _)⟩, Or.inr (Nat.zero_le _)⟩

end Instant

/-! ## Going back by years -/

namespace Query

variable {now later a b : Instant} {few many : Int}

/-- **Going back keeps the order**, also where one goes back by fewer years from the later
moment. -/
theorem IsYearsBefore.isLE (hTimes : (now.compare later).isLE = true) (hYears : few ≤ many)
    (ha : IsYearsBefore now many a) (hb : IsYearsBefore later few b) :
    (a.compare b).isLE = true := by
  have hDates := Date.isLE_compare_iff.mp (Instant.isLE_date hTimes)
  rw [ha.midnight, hb.midnight, Instant.compare_midnight, Date.isLE_compare_iff, ha.year, hb.year,
    ha.month, hb.month, ha.day, hb.day]
  rcases hDates with hYear | ⟨hYear, hMonth | ⟨hMonth, hDay⟩⟩
  · left
    omega
  · omega
  · -- in the same month of the same year both days are cut to the same length
    by_cases hSame : few = many
    · right
      rw [hSame, ← hYear, ← hMonth]
      refine ⟨rfl, Or.inr ⟨rfl, ?_⟩⟩
      omega
    · left
      omega

/-- More years lead to an earlier moment. -/
theorem IsYearsBefore.lt (hYears : few < many) (ha : IsYearsBefore now many a)
    (hb : IsYearsBefore now few b) : a.compare b = .lt := by
  rw [ha.midnight, hb.midnight, Instant.compare_midnight, Date.compare_eq_lt_iff, ha.year, hb.year]
  left
  omega

/-- Going back does not lead into the future. -/
theorem IsYearsBefore.isLE_now (hYears : 0 ≤ few) (hb : IsYearsBefore now few b) :
    (b.compare now).isLE = true := by
  rw [hb.midnight]
  apply Instant.isLE_midnight
  rw [Date.isLE_compare_iff, hb.year, hb.month, hb.day]
  have hCut := Nat.min_le_left now.date.day (daysInMonth (now.date.year - few) now.date.month)
  omega

/-- Relative join dates stay in order as time goes by. -/
theorem yearsBefore?_isLE {years : Int64} (hTimes : (now.compare later).isLE = true)
    (ha : yearsBefore? now years = some a) (hb : yearsBefore? later years = some b) :
    (a.compare b).isLE = true :=
  (yearsBefore?_eq_some_iff.mp ha).2.isLE hTimes (Int.le_refl _) (yearsBefore?_eq_some_iff.mp hb).2

/-- Relative join dates are the earlier the more years there are, and none lies in the future. -/
theorem yearsBefore?_lt {few many : Int64} (hYears : few < many)
    (ha : yearsBefore? now many = some a) (hb : yearsBefore? now few = some b) :
    a.compare b = .lt ∧ (b.compare now).isLE = true := by
  obtain ⟨-, hMany⟩ := yearsBefore?_eq_some_iff.mp ha
  obtain ⟨hSome, hFew⟩ := yearsBefore?_eq_some_iff.mp hb
  exact ⟨hMany.lt (Int64.lt_iff_toInt_lt.mp hYears) hFew, hFew.isLE_now hSome⟩

end Query

end StaffSearch
