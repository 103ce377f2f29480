import StaffSearch.Document.Record
import StaffSearch.Proofs.AsciiCase
import StaffSearch.Proofs.DayNumbers

/-!
# Storing a record and reading it back

A stored record keeps less than the record it is made from.  Of the identifier it keeps what 24
hexadecimal digits denote, whatever their case, and of the moment of joining the milliseconds since
the beginning of 1970.  What is lost is lost at once: a record that has been stored and read back
can be stored and read back again without any change.

Milliseconds are rounded down, so moments before 1970 are moved into the past like all others.  A
leap second is left out where its milliseconds are read, for they run on into the next minute.

* `map_hex_parse?`: the identifier that is kept is the lowercase form of 24 hexadecimal digits.
* `ofMillis?_millis`: outside leap seconds a moment comes back rounded down.
* `ofMillis?_eq_some`: milliseconds that lie in the calendar come back as they are.
* `StoredRecord.readBack_eq_rounded`: reading back what was stored undoes storing up to this loss,
  and storing what was read undoes reading where the moment is known and lies in the calendar.
-/

namespace StaffSearch

open StaffSearch.Text

/-! ## Moments and their milliseconds -/

namespace Instant

/-- The moment rounded down to the whole millisecond. -/
def wholeMilli (moment : Instant) : Instant where
  date := moment.date
  second := moment.second
  nano := moment.nano / 1000000 * 1000000
  isTime := by
    obtain ⟨hSecond, hNano⟩ := moment.isTime
    refine ⟨hSecond, ?_⟩
    omega

/-- The milliseconds belong to a moment between the first day of the calendar and the last. -/
def InCalendar (millis : Int) : Prop :=
  yearStart earliestYear * 86400000 ≤ millis ∧ millis < yearStart (latestYear + 1) * 86400000

theorem wholeMilli_eq_self {moment : Instant} (h : moment.IsWholeMilli) :
    moment.wholeMilli = moment := by
  obtain ⟨date, second, nano, hTime⟩ := moment
  have hWhole : nano / 1000000 * 1000000 = nano := Nat.div_mul_cancel (Nat.dvd_of_mod_eq_zero h.1)
  simp only [wholeMilli, hWhole]

theorem isWholeMilli_epoch : epoch.IsWholeMilli := ⟨by decide, by decide⟩

/-- The moment read from milliseconds has the date of their day, and second and fraction are what
they leave of it. -/
theorem ofMillis?_of_date {millis : Int} {date : Date}
    (h : Date.ofDayNumber? (millis / 1000 / (secondsPerDay : Int)) = some date) :
    ∃ moment, ofMillis? millis = some moment ∧ moment.date = date ∧
      moment.second = (millis / 1000 % (secondsPerDay : Int)).toNat ∧
      moment.nano = (millis % 1000).toNat * 1000000 := by
  unfold ofMillis?
  dsimp only
  split
  · next hNone =>
      rw [h] at hNone
      contradiction
  · next other hOther =>
      obtain rfl : date = other := Option.some.inj (h.symm.trans hOther)
      exact ⟨_, rfl, rfl, rfl, rfl⟩

/-- **Outside leap seconds a moment comes back rounded down to the millisecond.** -/
theorem ofMillis?_millis {moment : Instant} (h : moment.nano < nanosPerSecond) :
    ofMillis? moment.millis = some moment.wholeMilli := by
  have hSecond := moment.isTime.1
  unfold nanosPerSecond at h
  unfold secondsPerDay at hSecond
  -- the fraction is below a thousand milliseconds, so it never reaches the next second
  have hSeconds : moment.millis / 1000 = moment.date.dayNumber * 86400 + (moment.second : Int) := by
    rw [millis, secondsPerDay]
    omega
  have hFraction : moment.millis % 1000 = (moment.nano / 1000000 : Nat) := by
    rw [millis, secondsPerDay]
    omega
  have hDay : moment.millis / 1000 / (secondsPerDay : Int) = moment.date.dayNumber := by
    rw [hSeconds, secondsPerDay]
    omega
  have hTime : (moment.millis / 1000 % (secondsPerDay : Int)).toNat = moment.second := by
    rw [hSeconds, secondsPerDay]
    omega
  obtain ⟨⟨date, second, nano, hIsTime⟩, hRead, rfl, rfl, rfl⟩ :=
    ofMillis?_of_date (hDay ▸ Date.ofDayNumber?_dayNumber moment.date)
  simp only [hRead, wholeMilli, hTime, hFraction, Int.toNat_natCast]

/-- A moment read from milliseconds falls on a whole one. -/
theorem isWholeMilli_of_ofMillis? {millis : Int} {moment : Instant}
    (h : ofMillis? millis = some moment) : moment.IsWholeMilli := by
  unfold ofMillis? at h
  dsimp only at h
  split at h
  · contradiction
  · obtain rfl := Option.some.inj h
    unfold IsWholeMilli nanosPerSecond
    dsimp only
    omega

theorem inCalendar_millis {moment : Instant} (h : moment.nano < nanosPerSecond) :
    InCalendar moment.millis := by
  obtain ⟨hEarliest, hLatest, -⟩ := moment.date.isDate
  obtain ⟨hFrom, hTo⟩ := moment.date.dayNumber_year_bounds
  have hSecond := moment.isTime.1
  unfold nanosPerSecond at h
  unfold secondsPerDay at hSecond
  have hStart : yearStart earliestYear ≤ yearStart moment.date.year := by
    unfold yearStart
    omega
  have hEnd := yearStart_succ_le (Int.lt_add_one_of_le hLatest)
  rw [InCalendar, millis, secondsPerDay]
  omega

/-- **Milliseconds that lie in the calendar come back as they are.** -/
theorem ofMillis?_eq_some {millis : Int} (h : InCalendar millis) :
    ∃ moment, ofMillis? millis = some moment ∧ moment.millis = millis := by
  obtain ⟨hFrom, hTo⟩ := h
  have hFirst : yearStart earliestYear ≤ millis / 1000 / 86400 := by omega
  have hLast : millis / 1000 / 86400 < yearStart (latestYear + 1) := by omega
  obtain ⟨date, hDate⟩ := Date.exists_dayNumber_eq hFirst hLast
  have hDay : millis / 1000 / (secondsPerDay : Int) = date.dayNumber := by
    rw [hDate, secondsPerDay]
    rfl
  obtain ⟨moment, hRead, hMoment, hSecond, hNano⟩ :=
    ofMillis?_of_date (hDay ▸ Date.ofDayNumber?_dayNumber date)
  refine ⟨moment, hRead, ?_⟩
  rw [Instant.millis, hMoment, hSecond, hNano, hDate, secondsPerDay]
  omega

end Instant

namespace Document

/-! ## Identifiers -/

/-- What is kept of the text of an identifier: the lowercase form of 24 hexadecimal digits. -/
def keptId (text : String) : Option String :=
  if text.toList.length = 24 ∧ text.toList.all isHexDigit = true then some (lowercaseAscii text)
  else none

theorem isIdDigit_lowerAscii (c : Char) : isIdDigit (lowerAscii c) = isHexDigit c := by
  rw [Bool.eq_iff_iff]
  simp only [isIdDigit, isHexDigit, isAsciiDigit_lowerAscii, Bool.or_eq_true, Bool.and_eq_true,
    decide_eq_true_eq, Char.le_def, UInt32.le_iff_toNat_le, or_assoc]
  show isAsciiDigit c = true ∨ 97 ≤ (lowerAscii c).toNat ∧ (lowerAscii c).toNat ≤ 102 ↔
    isAsciiDigit c = true ∨ 97 ≤ c.toNat ∧ c.toNat ≤ 102 ∨ 65 ≤ c.toNat ∧ c.toNat ≤ 70
  rw [toNat_lowerAscii]
  apply or_congr_right
  split <;> omega

/-- **The identifier that is stored is written as the lowercase form of the hexadecimal digits.** -/
theorem map_hex_parse? (text : String) : (ObjectId.parse? text).map (·.hex) = keptId text := by
  have hDigits : (text.toList.map lowerAscii).all isIdDigit = text.toList.all isHexDigit := by
    rw [List.all_map]
    exact congrArg text.toList.all (funext isIdDigit_lowerAscii)
  simp only [ObjectId.parse?, keptId, toList_lowercaseAscii, List.length_map, hDigits]
  split <;> rfl

/-- Written identifiers are parsed as themselves. -/
theorem bind_parse?_map_hex (id : Option ObjectId) :
    (id.map (·.hex)).bind ObjectId.parse? = id := by
  cases id with
  | none => rfl
  | some id => exact ObjectId.parse?_hex id

/-! ## Records -/

namespace StoredRecord

/-- The record that is read after a record has been stored. -/
def readBack (employee : Employee) : Employee := (ofEmployee employee).toEmployee

/-- What storing a record and reading it back changes. -/
theorem readBack_fields (employee : Employee) :
    readBack employee =
      { employee with
          id := employee.id.bind keptId
          joinDate := (Instant.ofMillis? employee.joinDate.millis).getD Instant.epoch } := by
  have hId : (employee.id.bind ObjectId.parse?).map (·.hex) = employee.id.bind keptId := by
    rw [Option.map_bind]
    exact congrArg employee.id.bind (funext map_hex_parse?)
  calc readBack employee
      = { employee with
            id := (employee.id.bind ObjectId.parse?).map (·.hex)
            joinDate := (Instant.ofMillis?
              (Int64.ofInt employee.joinDate.millis).toInt).getD Instant.epoch } := rfl
    _ = _ := by rw [hId, Instant.toInt_millis]

/-- Whatever a stored record holds, the moment that is read falls on a whole millisecond. -/
theorem isWholeMilli_joinDate (stored : StoredRecord) :
    stored.toEmployee.joinDate.IsWholeMilli := by
  show ((stored.joinDate.bind fun millis => Instant.ofMillis? millis.toInt).getD
    Instant.epoch).IsWholeMilli
  cases hMoment : stored.joinDate.bind fun millis => Instant.ofMillis? millis.toInt with
  | none => exact Instant.isWholeMilli_epoch
  | some moment =>
      obtain ⟨millis, -, hMillis⟩ := Option.bind_eq_some_iff.mp hMoment
      exact Instant.isWholeMilli_of_ofMillis? hMillis

/-- A record comes back as it is if its identifier is a written one and its moment falls on a whole
millisecond. -/
theorem readBack_eq_self {employee : Employee} {id : Option ObjectId}
    (hId : employee.id = id.map (·.hex)) (hMoment : employee.joinDate.IsWholeMilli) :
    readBack employee = employee := by
  have hKept : employee.id.bind keptId = employee.id := by
    rw [hId]
    cases id with
    | none => rfl
    | some id =>
        show keptId id.hex = some id.hex
        rw [← map_hex_parse?, ObjectId.parse?_hex, Option.map_some]
  rw [readBack_fields, hKept, Instant.ofMillis?_millis hMoment.2, Option.getD_some,
    Instant.wholeMilli_eq_self hMoment]

/-- A stored record is stored again as it is exactly if its moment is. -/
theorem ofEmployee_toEmployee_iff (stored : StoredRecord) :
    ofEmployee stored.toEmployee = stored ↔
      stored.joinDate = some (Int64.ofInt stored.toEmployee.joinDate.millis) := by
  constructor
  · intro h
    exact (congrArg StoredRecord.joinDate h).symm
  · intro h
    calc ofEmployee stored.toEmployee
        = { stored with
              id := (stored.id.map (·.hex)).bind ObjectId.parse?
              joinDate := some (Int64.ofInt stored.toEmployee.joinDate.millis) } := rfl
      _ = stored := by rw [bind_parse?_map_hex, ← h]

/-- The moment of a stored record is stored again as it is exactly if it is known and lies in the
calendar. -/
theorem joinDate_again_iff (stored : StoredRecord) :
    stored.joinDate = some (Int64.ofInt stored.toEmployee.joinDate.millis) ↔
      ∃ millis, stored.joinDate = some millis ∧ Instant.InCalendar millis.toInt := by
  constructor
  · intro h
    refine ⟨_, h, ?_⟩
    rw [Instant.toInt_millis]
    exact Instant.inCalendar_millis stored.isWholeMilli_joinDate.2
  · rintro ⟨millis, hJoin, hCalendar⟩
    obtain ⟨moment, hMoment, hMillis⟩ := Instant.ofMillis?_eq_some hCalendar
    have hRead : stored.toEmployee.joinDate = moment := by
      show (stored.joinDate.bind fun millis => Instant.ofMillis? millis.toInt).getD
        Instant.epoch = moment
      rw [hJoin, Option.bind_some, hMoment, Option.getD_some]
    rw [hRead, hMillis, Int64.ofInt_toInt, hJoin]

/-- **Storing a record and reading it back rounds its moment down to the millisecond and keeps the
identifier if it is one, in lowercase; everything else comes back as it was, and a second time
nothing changes.  A stored record whose moment is known and lies in the calendar, and no other, is
stored again as it was.** -/
theorem readBack_eq_rounded :
    (∀ employee : Employee, employee.joinDate.nano < nanosPerSecond →
      readBack employee =
        { employee with
            id := employee.id.bind keptId
            joinDate := employee.joinDate.wholeMilli }) ∧
    (∀ employee : Employee, readBack (readBack employee) = readBack employee) ∧
    (∀ stored : StoredRecord, ofEmployee stored.toEmployee = stored ↔
      ∃ millis, stored.joinDate = some millis ∧ Instant.InCalendar millis.toInt) := by
  refine ⟨?_, ?_, ?_⟩
  · intro employee hMoment
    rw [readBack_fields, Instant.ofMillis?_millis hMoment, Option.getD_some]
  · intro employee
    exact readBack_eq_self rfl (isWholeMilli_joinDate _)
  · intro stored
    exact (ofEmployee_toEmployee_iff stored).trans (joinDate_again_iff stored)

/-- The last nanosecond before 1970 is moved back, not on into 1970. -/
theorem readBack_eq_rounded_before_1970 :
    999999999 < nanosPerSecond ∧
      readBack
          { id := some "65F1ABC2d3e4f5a6b7c8d9E0"
            joinDate := ⟨⟨1969, 12, 31, by decide⟩, 86399, 999999999, by decide⟩ } =
        { id := some "65f1abc2d3e4f5a6b7c8d9e0"
          joinDate := ⟨⟨1969, 12, 31, by decide⟩, 86399, 999000000, by decide⟩ } ∧
      ofEmployee (toEmployee { joinDate := some (-1) }) = { joinDate := some (-1) } := by
  have hNano : 999999999 < nanosPerSecond := by decide
  have hKept : keptId "65F1ABC2d3e4f5a6b7c8d9E0" = some "65f1abc2d3e4f5a6b7c8d9e0" := by
    decide +kernel
  refine ⟨hNano, ?_, ?_⟩
  · rw [readBack_eq_rounded.1 _ hNano, Option.bind_some, hKept]
    rfl
  · exact (readBack_eq_rounded.2.2 _).mpr ⟨-1, rfl, by decide, by decide⟩

end StoredRecord

end Document

end StaffSearch
