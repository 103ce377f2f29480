import StaffSearch.Calendar.Date

/-!
# Moments in universal time

A moment is a date, a second of the day and a fraction of it in nanoseconds. A leap second is the
second `:59` with a fraction of one second or more, so that it comes after every other moment of its
minute and before the next minute.

Moments are ordered by date, second and fraction. The distance to 1 January 1970 in milliseconds is
rounded down; within a leap second it runs on into the next minute.
-/

namespace StaffSearch

/-- The number of nanoseconds in a second. -/
def nanosPerSecond : Nat := 1000000000

/-- The number of seconds in a day. -/
def secondsPerDay : Nat := 86400

/-- Whether second and fraction make a time of day; only the last second of a minute may be twice as
long as the others. -/
def IsTimeOfDay (second nano : Nat) : Prop :=
  second < secondsPerDay ∧
    (nano < nanosPerSecond ∨ second % 60 = 59 ∧ nano < 2 * nanosPerSecond)

instance (second nano : Nat) : Decidable (IsTimeOfDay second nano) := by
  unfold IsTimeOfDay; infer_instance

/-- A moment in universal time. -/
structure Instant where
  /-- The date. -/
  date : Date
  /-- The seconds since midnight. -/
  second : Nat
  /-- The nanoseconds since then. -/
  nano : Nat
  /-- There is such a time of day. -/
  isTime : IsTimeOfDay second nano
  deriving DecidableEq

namespace Instant

/-- The beginning of 1 January 1970. -/
def epoch : Instant := ⟨Date.epoch, 0, 0, by decide⟩

instance : Inhabited Instant := ⟨epoch⟩

/-- The order of moments. -/
def compare (a b : Instant) : Ordering :=
  ((Date.compare a.date b.date).then (Ord.compare a.second b.second)).then
    (Ord.compare a.nano b.nano)

/-- The beginning of a date. -/
def midnight (date : Date) : Instant := ⟨date, 0, 0, by decide⟩

/-- The moment with the given date and time of day, if it exists. A second 60 is a leap second. -/
def ofClock? (date : Date) (hour minute second nano : Nat) : Option Instant :=
  let (second, nano) := if second = 60 then (59, nano + nanosPerSecond) else (second, nano)
  let secondOfDay := hour * 3600 + minute * 60 + second
  if h : IsTimeOfDay secondOfDay nano then
    if hour < 24 ∧ minute < 60 ∧ second < 60 then some ⟨date, secondOfDay, nano, h⟩ else none
  else none

/-- The moment at which clocks show `shown`, where clocks are `offset` minutes ahead of universal
time. -/
def ofOffset? (shown : Instant) (offset : Int) : Option Instant :=
  let total := (shown.second : Int) - 60 * offset
  let days := total / (secondsPerDay : Int)
  match Date.ofDayNumber? (shown.date.dayNumber + days) with
  | none => none
  | some date =>
    let second := (total % (secondsPerDay : Int)).toNat
    if h : IsTimeOfDay second shown.nano then some ⟨date, second, shown.nano, h⟩ else none

/-- The milliseconds since the beginning of 1970, rounded down. -/
def millis (moment : Instant) : Int :=
  (moment.date.dayNumber * (secondsPerDay : Int) + (moment.second : Int)) * 1000 +
    (moment.nano / 1000000 : Nat)

/-- The moment a number of milliseconds after the beginning of 1970, if it lies within the
calendar. -/
def ofMillis? (millis : Int) : Option Instant :=
  let second := millis / 1000
  match Date.ofDayNumber? (second / (secondsPerDay : Int)) with
  | none => none
  | some date =>
    some
      { date
        second := (second % (secondsPerDay : Int)).toNat
        nano := (millis % 1000).toNat * 1000000
        isTime := by
          unfold IsTimeOfDay secondsPerDay nanosPerSecond
          omega }

end Instant

end StaffSearch
