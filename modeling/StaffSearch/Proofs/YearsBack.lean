import StaffSearch.Proofs.DayNumbers
import StaffSearch.Query.Extractor

/-!
# The day some years ago

Going back by years means going back by twelve times as many months, and the months are counted in
words: the product in a signed word of 64 bits, then in an unsigned one of 32 bits, and what is
taken off the months of the date in a signed one of 32 bits.  At each of these steps a number may
not fit.  Nothing is lost by that (`yearsBeforeInWords?_eq`): the calendar has 524286 years, and a
number of months that does not fit its word leads out of it.

The date in the earlier year can be missing for a second reason, its month being too short.  Only
February has not always the same length, so this concerns the 29 February alone.

## Main results

* `yearsBefore?_eq_some_iff` — the moment is the beginning of that day (`IsYearsBefore`).
* `isSome_yearsBefore?_iff` — it exists as long as the year is one of the calendar.
* `yearsBefore?_exact` — both, with the only day that can move and with the words.
-/

namespace StaffSearch

/-! ## Lengths of months -/

/-- The length of a month other than February is the same in all years. -/
theorem daysInMonth_congr (year other : Int) {month : Nat} (hFirst : 1 ≤ month)
    (hLast : month ≤ 12) (hNot : month ≠ 2) :
    daysInMonth year month = daysInMonth other month := by
  have hLengths : ∀ leap later : Bool, ∀ month < 13, month ≠ 2 →
      (monthLengths leap)[month - 1]? = (monthLengths later)[month - 1]? := by decide
  have hSome : month ≠ 0 := by omega
  rw [daysInMonth, daysInMonth, if_neg hSome, if_neg hSome,
    hLengths _ (isLeapYear other) month (by omega) hNot]

/-- February has 28 or 29 days. -/
theorem daysInMonth_february (year : Int) :
    28 ≤ daysInMonth year 2 ∧ daysInMonth year 2 ≤ 29 := by
  have hLengths : ∀ leap : Bool, 28 ≤ ((monthLengths leap)[2 - 1]?).getD 0 ∧
      ((monthLengths leap)[2 - 1]?).getD 0 ≤ 29 := by decide
  rw [daysInMonth, if_neg (by decide)]
  exact hLengths _

/-- A month has a day in all years. -/
theorem daysInMonth_pos (year : Int) {month : Nat} (hFirst : 1 ≤ month) (hLast : month ≤ 12) :
    1 ≤ daysInMonth year month := by
  have hLengths : ∀ leap : Bool, ∀ month < 13, month ≠ 0 →
      1 ≤ ((monthLengths leap)[month - 1]?).getD 0 := by decide
  have hSome : month ≠ 0 := by omega
  rw [daysInMonth, if_neg hSome]
  exact hLengths _ month (by omega) hSome

namespace Date

/-- A date is missing from another year only if it is a 29 February. -/
theorem eq_february_of_daysInMonth_lt (date : Date) {year : Int}
    (h : daysInMonth year date.month < date.day) :
    date.month = 2 ∧ date.day = 29 ∧ daysInMonth year date.month = 28 := by
  obtain ⟨hFirst, hLast⟩ := date.month_bounds
  have hDay := date.day_bounds.2
  have hMonth : date.month = 2 := by
    by_cases hFebruary : date.month = 2
    · exact hFebruary
    · rw [daysInMonth_congr year date.year hFirst hLast hFebruary] at h
      omega
  rw [hMonth] at h hDay ⊢
  have hHere := daysInMonth_february date.year
  have hThere := daysInMonth_february year
  omega

theorem ofCivil?_eq_some_iff {year : Int} {month day : Nat} {date : Date} :
    ofCivil? year month day = some date ↔
      date.year = year ∧ date.month = month ∧ date.day = day := by
  constructor
  · intro h
    unfold ofCivil? at h
    split at h
    · obtain rfl := Option.some.inj h
      exact ⟨rfl, rfl, rfl⟩
    · exact absurd h (by simp)
  · rintro ⟨rfl, rfl, rfl⟩
    rw [ofCivil?, dif_pos date.isDate]

/-- The months from the beginning of year 0 to the month of a date. -/
def monthNumber (date : Date) : Int := 12 * date.year + (date.month : Int) - 1

/-- Twelve months are a year. -/
theorem monthNumber_sub (date : Date) (years : Int) :
    (date.monthNumber - 12 * years) / 12 = date.year - years ∧
      ((date.monthNumber - 12 * years) % 12).toNat + 1 = date.month := by
  have hMonth := date.month_bounds
  rw [monthNumber]
  omega

theorem monthsBefore?_twelve (date : Date) {years : Int} (hSome : 0 ≤ years) :
    date.monthsBefore? (12 * years).toNat =
      ofCivil? (date.year - years) date.month
        (min date.day (daysInMonth (date.year - years) date.month)) := by
  have hMonths : ((12 * years).toNat : Int) = 12 * years := by omega
  obtain ⟨hYear, hMonth⟩ := date.monthNumber_sub years
  rw [monthsBefore?, ← monthNumber, hMonths, hYear, hMonth]

end Date

namespace Query

/-! ## Going back by years -/

/-- A moment is the beginning of the day so many years before another one. -/
structure IsYearsBefore (now : Instant) (years : Int) (moment : Instant) : Prop where
  /-- It lies so many years before. -/
  year : moment.date.year = now.date.year - years
  /-- The month is the same. -/
  month : moment.date.month = now.date.month
  /-- The day is the same, or the last one of the month if the month is too short for that. -/
  day : moment.date.day =
    min now.date.day (daysInMonth (now.date.year - years) now.date.month)
  /-- It is the beginning of the day. -/
  midnight : moment = Instant.midnight moment.date

/-- The months are counted as long as there are fewer than two to the 31 of them. -/
theorem yearsBefore?_eq_ite (now : Instant) (years : Int64) :
    yearsBefore? now years =
      if 0 ≤ years.toInt ∧ 12 * years.toInt < 2147483648 then
        (now.date.monthsBefore? (12 * years.toInt).toNat).map Instant.midnight
      else none := by
  have hUnsigned : Word.count 32 = 4294967296 := by decide
  have hSigned : Word.count (32 - 1) = 2147483648 := by decide
  rw [yearsBefore?, monthsOfYears?, Int.mul_comm years.toInt 12]
  simp only [Bool.and_eq_true, decide_eq_true_eq, Word.fitsUnsigned_iff, Word.fitsSigned_iff,
    hUnsigned, hSigned]
  by_cases hFits : 0 ≤ 12 * years.toInt ∧ (12 * years.toInt).toNat < 4294967296
  · rw [if_pos hFits]
    dsimp only
    by_cases hSmall : 12 * years.toInt < 2147483648
    · rw [if_pos (by omega), if_pos (by omega)]
    · rw [if_neg (by omega), if_neg (by omega)]
  · rw [if_neg hFits, if_neg (by omega)]

/-- So many years before a moment there are not too many years for a word. -/
theorem IsYearsBefore.years_lt {now moment : Instant} {years : Int}
    (h : IsYearsBefore now years moment) : years < 524286 := by
  have hNow := now.date.year_bounds
  have hThen := moment.date.year_bounds
  have hYear := h.year
  omega

/-- **The moment some years ago**, wherever there is one. -/
theorem yearsBefore?_eq_some_iff {now moment : Instant} {years : Int64} :
    yearsBefore? now years = some moment ↔
      0 ≤ years.toInt ∧ IsYearsBefore now years.toInt moment := by
  rw [yearsBefore?_eq_ite]
  constructor
  · intro h
    split at h
    · next hYears =>
        obtain ⟨date, hDate, rfl⟩ := Option.map_eq_some_iff.mp h
        rw [Date.monthsBefore?_twelve _ hYears.1] at hDate
        obtain ⟨hYear, hMonth, hDay⟩ := Date.ofCivil?_eq_some_iff.mp hDate
        exact ⟨hYears.1, hYear, hMonth, hDay, rfl⟩
    · exact absurd h (by simp)
  · rintro ⟨hSome, hMoment⟩
    have hFew := hMoment.years_lt
    rw [if_pos ⟨hSome, by omega⟩, Date.monthsBefore?_twelve _ hSome,
      Date.ofCivil?_eq_some_iff.mpr ⟨hMoment.year, hMoment.month, hMoment.day⟩, Option.map_some,
      ← hMoment.midnight]

/-- **The moment exists** as long as the earlier year belongs to the calendar. -/
theorem isSome_yearsBefore?_iff (now : Instant) (years : Int64) :
    (yearsBefore? now years).isSome = true ↔
      0 ≤ years.toInt ∧ earliestYear ≤ now.date.year - years.toInt := by
  rw [Option.isSome_iff_exists]
  constructor
  · rintro ⟨moment, hMoment⟩
    obtain ⟨hSome, hThen⟩ := yearsBefore?_eq_some_iff.mp hMoment
    rw [← hThen.year]
    exact ⟨hSome, moment.date.year_bounds.1⟩
  · rintro ⟨hSome, hYear⟩
    obtain ⟨hFirst, hLast⟩ := now.date.month_bounds
    have hDate : IsDate (now.date.year - years.toInt) now.date.month
        (min now.date.day (daysInMonth (now.date.year - years.toInt) now.date.month)) := by
      have hNow := now.date.year_bounds.2
      have hDay := now.date.day_bounds.1
      have hMonth := daysInMonth_pos (now.date.year - years.toInt) hFirst hLast
      have hLatest : now.date.year - years.toInt ≤ latestYear := by
        rw [latestYear]
        omega
      exact ⟨hYear, hLatest, hFirst, hLast, Nat.le_min.mpr ⟨hDay, hMonth⟩, Nat.min_le_right _ _⟩
    exact ⟨Instant.midnight ⟨_, _, _, hDate⟩,
      yearsBefore?_eq_some_iff.mpr ⟨hSome, rfl, rfl, rfl, rfl⟩⟩

/-! ## Words -/

/-- A number in a word of so many bits with a sign, if it fits. -/
def signed? (bits : Nat) (value : Int) : Option Int :=
  if Word.fitsSigned bits value then some value else none

/-- A number in a word of so many bits without a sign, if it fits. -/
def unsigned? (bits : Nat) (value : Int) : Option Int :=
  if 0 ≤ value ∧ Word.fitsUnsigned bits value.toNat then some value else none

theorem signed?_eq_some_iff {bits : Nat} {value held : Int} :
    signed? bits value = some held ↔
      held = value ∧ -(Word.count (bits - 1) : Int) ≤ value ∧
        value < (Word.count (bits - 1) : Int) := by
  rw [signed?]
  simp only [Word.fitsSigned_iff]
  split
  · next hFits => simp [hFits, eq_comm]
  · next hFits => simp [hFits]

theorem unsigned?_eq_some_iff {bits : Nat} {value held : Int} :
    unsigned? bits value = some held ↔
      held = value ∧ 0 ≤ value ∧ value < (Word.count bits : Int) := by
  rw [unsigned?]
  simp only [Word.fitsUnsigned_iff]
  constructor
  · intro h
    split at h
    · obtain rfl := Option.some.inj h
      omega
    · exact absurd h (by simp)
  · rintro ⟨rfl, hSome, hFits⟩
    rw [if_pos (by omega)]

/-- The beginning of the day a number of years before a moment, where each number on the way has to
fit its word. -/
def yearsBeforeInWords? (now : Instant) (years : Int64) : Option Instant :=
  (signed? 64 (12 * years.toInt)).bind fun product =>
    (unsigned? 32 product).bind fun months =>
      (signed? 32 months).bind fun taken =>
        (signed? 32 (now.date.monthNumber - taken)).bind fun earlier =>
          let year := earlier / 12
          let month := (earlier % 12).toNat + 1
          (Date.ofCivil? year month (min now.date.day (daysInMonth year month))).map
            Instant.midnight

/-- The months of a date fit a signed word of 32 bits, and so do those of its years. -/
theorem fitsSigned_monthNumber (date : Date) :
    Word.fitsSigned 32 (12 * date.year) = true ∧
      Word.fitsSigned 32 date.monthNumber = true := by
  have hSigned : Word.count (32 - 1) = 2147483648 := by decide
  have hYear := date.year_bounds
  have hMonth := date.month_bounds
  rw [Word.fitsSigned_iff, Word.fitsSigned_iff, hSigned, Date.monthNumber]
  omega

/-- **Nothing is lost** where a number does not fit its word. -/
theorem yearsBeforeInWords?_eq (now : Instant) (years : Int64) :
    yearsBeforeInWords? now years = yearsBefore? now years := by
  have hLong : Word.count (64 - 1) = 9223372036854775808 := by decide
  have hUnsigned : Word.count 32 = 4294967296 := by decide
  have hSigned : Word.count (32 - 1) = 2147483648 := by decide
  obtain ⟨hYear, hMonth⟩ := now.date.monthNumber_sub years.toInt
  apply Option.ext
  intro moment
  rw [yearsBefore?_eq_some_iff]
  constructor
  · intro h
    obtain ⟨product, hProduct, hRest⟩ := Option.bind_eq_some_iff.mp h
    obtain ⟨months, hMonths, hRest⟩ := Option.bind_eq_some_iff.mp hRest
    obtain ⟨taken, hTaken, hRest⟩ := Option.bind_eq_some_iff.mp hRest
    obtain ⟨earlier, hEarlier, hRest⟩ := Option.bind_eq_some_iff.mp hRest
    obtain ⟨date, hDate, rfl⟩ := Option.map_eq_some_iff.mp hRest
    obtain ⟨rfl, -⟩ := signed?_eq_some_iff.mp hProduct
    obtain ⟨rfl, hSome, -⟩ := unsigned?_eq_some_iff.mp hMonths
    obtain ⟨rfl, -⟩ := signed?_eq_some_iff.mp hTaken
    obtain ⟨rfl, -⟩ := signed?_eq_some_iff.mp hEarlier
    rw [hYear, hMonth] at hDate
    obtain ⟨hThen, hSame, hDay⟩ := Date.ofCivil?_eq_some_iff.mp hDate
    exact ⟨by omega, hThen, hSame, hDay, rfl⟩
  · rintro ⟨hSome, hMoment⟩
    have hFew := hMoment.years_lt
    have hNow := now.date.year_bounds
    have hNumber : now.date.monthNumber = 12 * now.date.year + (now.date.month : Int) - 1 := rfl
    have hBounds := now.date.month_bounds
    have hDate := Date.ofCivil?_eq_some_iff.mpr ⟨hMoment.year, hMoment.month, hMoment.day⟩
    rw [yearsBeforeInWords?, signed?_eq_some_iff.mpr ⟨rfl, by omega⟩, Option.bind_some,
      unsigned?_eq_some_iff.mpr ⟨rfl, by omega⟩, Option.bind_some,
      signed?_eq_some_iff.mpr ⟨rfl, by omega⟩, Option.bind_some,
      signed?_eq_some_iff.mpr ⟨rfl, by omega⟩, Option.bind_some]
    dsimp only
    rw [hYear, hMonth, hDate, Option.map_some, ← hMoment.midnight]

/--
**Going back by years.**  For every moment and every signed word of 64 bits there is a result if
and only if the years are not negative and the earlier year belongs to the calendar.  The result is
the beginning of the day with the earlier year and the same month, and with the same day unless the
month is too short, which happens to the 29 February alone.  No number on the way is too large for
its word, unless there is no result anyway.
-/
theorem yearsBefore?_exact (now : Instant) (years : Int64) :
    ((yearsBefore? now years).isSome = true ↔
        0 ≤ years.toInt ∧ earliestYear ≤ now.date.year - years.toInt) ∧
      (∀ moment, yearsBefore? now years = some moment ↔
        0 ≤ years.toInt ∧ IsYearsBefore now years.toInt moment) ∧
      (∀ moment, yearsBefore? now years = some moment → moment.date.day ≠ now.date.day →
        now.date.month = 2 ∧ now.date.day = 29 ∧ moment.date.day = 28) ∧
      (Word.fitsSigned 32 (12 * now.date.year) = true ∧
        Word.fitsSigned 32 now.date.monthNumber = true) ∧
      yearsBeforeInWords? now years = yearsBefore? now years := by
  refine ⟨isSome_yearsBefore?_iff now years, fun moment => yearsBefore?_eq_some_iff, ?_,
    fitsSigned_monthNumber now.date, yearsBeforeInWords?_eq now years⟩
  intro moment hMoment hMoves
  obtain ⟨-, hThen⟩ := yearsBefore?_eq_some_iff.mp hMoment
  have hDay := hThen.day
  have hShort : daysInMonth (now.date.year - years.toInt) now.date.month < now.date.day := by
    omega
  obtain ⟨hFebruary, hLast, hLength⟩ := now.date.eq_february_of_daysInMonth_lt hShort
  refine ⟨hFebruary, hLast, ?_⟩
  rw [hDay, hLength]
  omega

end Query

end StaffSearch
