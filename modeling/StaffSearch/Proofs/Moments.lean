import StaffSearch.Proofs.DayNumbers
import StaffSearch.Proofs.Digits

/-!
# Moments are read as they are written

A moment is written in universal time, and the lenient grammar finds it again
(`Instant.read?_render`).  This takes in the years with a sign, the fractions of every length, and
leap seconds, which are written as second 60.

The proof reads the written form from left to right, one lemma for each piece with any rest behind
it.  At the end the pieces are put together again: the clock shows the moment (`ofClock?_shown`),
and an offset of zero leaves it alone (`ofOffset?_zero`).
-/

namespace StaffSearch

open StaffSearch.Text

namespace Calendar

variable {rest : List Char}

/-! ## Pieces of the written form -/

theorem readSpacedChar_cons {c : Char} (h : isBlank c = false) :
    readSpacedChar c (c :: rest) = some rest := by
  rw [readSpacedChar, trimStart_cons h, readChar, if_pos rfl]

/-- **A number of two digits is read.** -/
theorem readSpacedNumber_paddedDigits {n : Nat} (hSmall : n < 100) (hStop : StopsDigits rest) :
    readSpacedNumber 2 (paddedDigits 2 n ++ rest) = some (n, rest) := by
  have hLength : (paddedDigits 2 n).length = 2 :=
    length_paddedDigits_of_lt (by decide) (by omega)
  rw [readSpacedNumber, trimStart_digits (fun _ hMem => isAsciiDigit_of_mem_paddedDigits hMem)
    (paddedDigits_ne_nil 2 n)]
  exact readNumber_paddedDigits hStop (by omega) (by omega)

/-- A year is read without its sign. -/
theorem readNumber_year {n most : Nat} (hStop : StopsDigits rest)
    (hMost : (paddedDigits 4 n).length ≤ most) :
    readNumber 1 most (paddedDigits 4 n ++ rest) = some (n, rest) := by
  have hLeast : 1 ≤ (paddedDigits 4 n).length := by
    rw [length_paddedDigits]
    omega
  exact readNumber_paddedDigits hStop hLeast hMost

/-- Digits do not start with a sign. -/
theorem digits_append_ne_cons {digits after : List Char} {sign : Char}
    (hDigits : ∀ c ∈ digits, isAsciiDigit c = true) (hSome : digits ≠ [])
    (hSign : isAsciiDigit sign = false) : digits ++ rest ≠ sign :: after := by
  intro h
  cases digits with
  | nil => exact hSome rfl
  | cons c digits =>
      injection h with hSame _
      have hDigit := hDigits c List.mem_cons_self
      rw [hSame, hSign] at hDigit
      exact absurd hDigit (by decide)

/-- A year without a sign is read. -/
theorem readYear_paddedDigits {n : Nat} (hSmall : n < 10 ^ 4) (hStop : StopsDigits rest) :
    readYear (paddedDigits 4 n ++ rest) = some ((n : Int), rest) := by
  have hLength : (paddedDigits 4 n).length = 4 := length_paddedDigits_of_lt (by decide) hSmall
  have hDigits : ∀ c ∈ paddedDigits 4 n, isAsciiDigit c = true :=
    fun _ hMem => isAsciiDigit_of_mem_paddedDigits hMem
  have hSome := paddedDigits_ne_nil 4 n
  unfold readYear
  rw [trimStart_digits hDigits hSome]
  split
  · next h => exact absurd h (digits_append_ne_cons hDigits hSome (by decide))
  · next h => exact absurd h (digits_append_ne_cons hDigits hSome (by decide))
  · rw [readNumber_year hStop (by omega)]
    rfl

/-- **A year is read**, with its sign if it has one. -/
theorem readYear_writeYear (year : Int) (hStop : StopsDigits rest) :
    readYear (writeYear year ++ rest) = some (year, rest) := by
  unfold writeYear
  by_cases hPlain : 0 ≤ year ∧ year ≤ 9999
  · have hYear : ((year.toNat : Nat) : Int) = year := by omega
    rw [if_pos hPlain, readYear_paddedDigits (by omega) hStop, hYear]
  · have hMost : (paddedDigits 4 year.natAbs).length ≤
        (paddedDigits 4 year.natAbs ++ rest).length := by
      rw [List.length_append]
      omega
    have hRead := readNumber_year hStop hMost
    rw [if_neg hPlain]
    by_cases hNegative : year < 0
    · have hYear : -((year.natAbs : Nat) : Int) = year := by omega
      rw [if_pos hNegative]
      change (readNumber 1 (paddedDigits 4 year.natAbs ++ rest).length
        (paddedDigits 4 year.natAbs ++ rest)).map _ = _
      simp only [hRead, Option.map_some, hYear]
    · have hYear : ((year.natAbs : Nat) : Int) = year := by omega
      rw [if_neg hNegative]
      change (readNumber 1 (paddedDigits 4 year.natAbs ++ rest).length
        (paddedDigits 4 year.natAbs ++ rest)).map _ = _
      simp only [hRead, Option.map_some, hYear]

/-! ## Fractions of a second -/

/-- Digits behind a point count as a fraction of their length. -/
theorem readFraction_paddedDigits {width n : Nat} (hSome : 0 < width) (hWidth : width ≤ 9)
    (hSmall : n < 10 ^ width) (hStop : StopsDigits rest) :
    readFraction ('.' :: (paddedDigits width n ++ rest)) = some (n * 10 ^ (9 - width), rest) := by
  have hLength : (paddedDigits width n).length = width := length_paddedDigits_of_lt hSome hSmall
  have hDigits : ∀ c ∈ paddedDigits width n, isAsciiDigit c = true :=
    fun _ hMem => isAsciiDigit_of_mem_paddedDigits hMem
  have hTake : (paddedDigits width n).take 9 = paddedDigits width n :=
    List.take_of_length_le (by omega)
  simp only [readFraction, takeWhile_digits hDigits hStop, if_neg (paddedDigits_ne_nil width n),
    hTake, hLength, decimalValue_paddedDigits, List.drop_left' hLength]
  rfl

/-- **A fraction is read**, whichever length it has. -/
theorem readFraction_writeFraction {nano : Nat} (hNano : nano < nanosPerSecond)
    (hStop : StopsDigits rest) (hPoint : rest.head? ≠ some '.') :
    readFraction (writeFraction nano ++ rest) = some (nano, rest) := by
  unfold nanosPerSecond at hNano
  unfold writeFraction
  by_cases hZero : nano = 0
  · rw [if_pos hZero, hZero, List.nil_append]
    unfold readFraction
    split
    · exact absurd rfl hPoint
    · rfl
  · rw [if_neg hZero]
    by_cases hMilli : nano % 1000000 = 0
    · rw [if_pos hMilli, List.cons_append,
        readFraction_paddedDigits (by decide) (by decide) (by omega) hStop]
      congr 2
      omega
    · rw [if_neg hMilli]
      by_cases hMicro : nano % 1000 = 0
      · rw [if_pos hMicro, List.cons_append,
          readFraction_paddedDigits (by decide) (by decide) (by omega) hStop]
        congr 2
        omega
      · rw [if_neg hMicro, List.cons_append,
          readFraction_paddedDigits (by decide) (by decide) (by omega) hStop]
        congr 2
        omega

/-- A fraction does not go on with the digits in front of it. -/
theorem stopsDigits_writeFraction (nano : Nat) (hStop : StopsDigits rest) :
    StopsDigits (writeFraction nano ++ rest) := by
  unfold writeFraction
  split
  · exact hStop
  · split
    · exact stopsDigits_cons (by decide)
    · split <;> exact stopsDigits_cons (by decide)

end Calendar

/-! ## Clocks -/

namespace Instant

variable (moment : Instant)

theorem shownSecond_lt : moment.shownSecond < 100 := by
  have hNano : moment.nano < 2 * nanosPerSecond := by
    have hTime := moment.isTime.2
    omega
  unfold nanosPerSecond at hNano
  unfold shownSecond nanosPerSecond
  omega

/-- **The clock shows the moment**, in a leap second too. -/
theorem ofClock?_shown :
    ofClock? moment.date (moment.second / 3600) (moment.second / 60 % 60) moment.shownSecond
      (moment.nano % nanosPerSecond) = some moment := by
  obtain ⟨hSecond, hNano⟩ := moment.isTime
  have hDay : moment.second < 86400 := hSecond
  unfold nanosPerSecond at hNano
  have hClock : moment.second / 3600 * 3600 + moment.second / 60 % 60 * 60 + moment.second % 60 =
      moment.second := by omega
  have hHour : moment.second / 3600 < 24 := by omega
  have hMinute : moment.second / 60 % 60 < 60 := by omega
  have hRest : moment.second % 60 < 60 := by omega
  by_cases hLeap : moment.nano < 1000000000
  · have hShown : moment.shownSecond = moment.second % 60 := by
      unfold shownSecond nanosPerSecond
      omega
    have hFraction : moment.nano % nanosPerSecond = moment.nano := by
      unfold nanosPerSecond
      omega
    have hPlain : moment.second % 60 ≠ 60 := by omega
    simp only [ofClock?, hShown, hFraction, if_neg hPlain, hClock, dif_pos moment.isTime,
      if_pos (And.intro hHour (And.intro hMinute hRest))]
  · have hShown : moment.shownSecond = 60 := by
      unfold shownSecond nanosPerSecond
      omega
    have hFraction : moment.nano % nanosPerSecond + nanosPerSecond = moment.nano := by
      unfold nanosPerSecond
      omega
    have hLast : moment.second % 60 = 59 := by omega
    have hSmall : 59 < 60 := by decide
    rw [hLast] at hClock
    simp only [ofClock?, hShown, hFraction, if_true, hClock, dif_pos moment.isTime,
      if_pos (And.intro hHour (And.intro hMinute hSmall))]

/-- **An offset of zero leaves a moment alone.** -/
theorem ofOffset?_zero : ofOffset? moment 0 = some moment := by
  have hDay : moment.second < 86400 := moment.isTime.1
  have hDays : ((moment.second : Int) - 60 * 0) / (secondsPerDay : Int) = 0 := by
    unfold secondsPerDay
    omega
  have hSecond : (((moment.second : Int) - 60 * 0) % (secondsPerDay : Int)).toNat =
      moment.second := by
    unfold secondsPerDay
    omega
  unfold ofOffset?
  dsimp only
  rw [hDays, Int.add_zero, Date.ofDayNumber?_dayNumber]
  simp only [hSecond, dif_pos moment.isTime]

/-! ## The whole moment -/

theorem write_eq : moment.write =
    writeYear moment.date.year ++ '-' :: (paddedDigits 2 moment.date.month ++
      '-' :: (paddedDigits 2 moment.date.day ++ 'T' :: (paddedDigits 2 (moment.second / 3600) ++
        ':' :: (paddedDigits 2 (moment.second / 60 % 60) ++
          ':' :: (paddedDigits 2 moment.shownSecond ++
            (writeFraction (moment.nano % nanosPerSecond) ++ ['Z'])))))) := by
  simp only [Instant.write, Date.write, List.append_assoc, List.cons_append]

/-- **A moment is read as it is written.** -/
theorem read?_render : Instant.read? moment.render = some moment := by
  have hMonthSmall : moment.date.month < 100 := by
    have hLast := moment.date.month_bounds.2
    omega
  have hDaySmall : moment.date.day < 100 := moment.date.day_lt
  have hHourSmall : moment.second / 3600 < 100 := by
    have hDay : moment.second < 86400 := moment.isTime.1
    omega
  have hMinuteSmall : moment.second / 60 % 60 < 100 := by omega
  have hNanoSmall : moment.nano % nanosPerSecond < nanosPerSecond := Nat.mod_lt _ (by decide)
  have hFractionStop : StopsDigits (writeFraction (moment.nano % nanosPerSecond) ++ ['Z']) :=
    Calendar.stopsDigits_writeFraction _ (stopsDigits_cons (by decide))
  have hYear : ∀ rest, Calendar.readYear (writeYear moment.date.year ++ '-' :: rest) =
      some (moment.date.year, '-' :: rest) := fun _ =>
    Calendar.readYear_writeYear _ (stopsDigits_cons (by decide))
  have hMonth : ∀ rest,
      Calendar.readSpacedNumber 2 (paddedDigits 2 moment.date.month ++ '-' :: rest) =
        some (moment.date.month, '-' :: rest) := fun _ =>
    Calendar.readSpacedNumber_paddedDigits hMonthSmall (stopsDigits_cons (by decide))
  have hDay : ∀ rest,
      Calendar.readSpacedNumber 2 (paddedDigits 2 moment.date.day ++ 'T' :: rest) =
        some (moment.date.day, 'T' :: rest) := fun _ =>
    Calendar.readSpacedNumber_paddedDigits hDaySmall (stopsDigits_cons (by decide))
  have hHour : ∀ rest,
      Calendar.readSpacedNumber 2 (paddedDigits 2 (moment.second / 3600) ++ ':' :: rest) =
        some (moment.second / 3600, ':' :: rest) := fun _ =>
    Calendar.readSpacedNumber_paddedDigits hHourSmall (stopsDigits_cons (by decide))
  have hMinute : ∀ rest,
      Calendar.readSpacedNumber 2 (paddedDigits 2 (moment.second / 60 % 60) ++ ':' :: rest) =
        some (moment.second / 60 % 60, ':' :: rest) := fun _ =>
    Calendar.readSpacedNumber_paddedDigits hMinuteSmall (stopsDigits_cons (by decide))
  have hSecond := Calendar.readSpacedNumber_paddedDigits moment.shownSecond_lt hFractionStop
  have hFraction : Calendar.readFraction
      (writeFraction (moment.nano % nanosPerSecond) ++ ['Z']) =
        some (moment.nano % nanosPerSecond, ['Z']) :=
    Calendar.readFraction_writeFraction hNanoSmall (stopsDigits_cons (by decide)) (by decide)
  have hZone : Calendar.readZone ['Z'] = some (0, []) := by decide
  have hDash : ∀ rest, Calendar.readSpacedChar '-' ('-' :: rest) = some rest := fun _ =>
    Calendar.readSpacedChar_cons (by decide)
  have hColon : ∀ rest, Calendar.readSpacedChar ':' (':' :: rest) = some rest := fun _ =>
    Calendar.readSpacedChar_cons (by decide)
  have hDivider : ∀ rest, Calendar.readDivider ('T' :: rest) = some rest := fun _ => rfl
  have hDate : Date.ofCivil? moment.date.year moment.date.month moment.date.day =
      some moment.date := dif_pos moment.date.isDate
  have hEnd : trimStart [] = [] := rfl
  rw [Instant.read?, Instant.render, String.toList_ofList, write_eq, Calendar.readLenient]
  -- one step for each bind of the reader, in the order in which it reads
  refine Option.bind_eq_some_iff.mpr ⟨_, hYear _, ?_⟩
  refine Option.bind_eq_some_iff.mpr ⟨_, hDash _, ?_⟩
  refine Option.bind_eq_some_iff.mpr ⟨_, hMonth _, ?_⟩
  refine Option.bind_eq_some_iff.mpr ⟨_, hDash _, ?_⟩
  refine Option.bind_eq_some_iff.mpr ⟨_, hDay _, ?_⟩
  refine Option.bind_eq_some_iff.mpr ⟨_, hDivider _, ?_⟩
  refine Option.bind_eq_some_iff.mpr ⟨_, hHour _, ?_⟩
  refine Option.bind_eq_some_iff.mpr ⟨_, hColon _, ?_⟩
  refine Option.bind_eq_some_iff.mpr ⟨_, hMinute _, ?_⟩
  refine Option.bind_eq_some_iff.mpr ⟨_, hColon _, ?_⟩
  refine Option.bind_eq_some_iff.mpr ⟨_, hSecond, ?_⟩
  refine Option.bind_eq_some_iff.mpr ⟨_, hFraction, ?_⟩
  refine Option.bind_eq_some_iff.mpr ⟨_, hZone, ?_⟩
  dsimp only
  rw [if_pos hEnd]
  refine Option.bind_eq_some_iff.mpr ⟨_, hDate, ?_⟩
  refine Option.bind_eq_some_iff.mpr ⟨_, ofClock?_shown moment, ?_⟩
  exact ofOffset?_zero moment

end Instant

end StaffSearch
