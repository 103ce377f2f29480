import StaffSearch.Store.Basic
import StaffSearch.Word

/-!
# Sample records

A store that starts out empty can be filled with invented employees. Most of a profile rotates with
its number; the day of joining, the salary and the age are drawn at random.

Random numbers come from a source of 32-bit words. To draw evenly from a range of `size` numbers, a
word is multiplied by `size`: the high half of the product is the number drawn, and the low half
says whether the word is one of those that would make the choice uneven, in which case the next word
is taken.

## Main results

* `length_employees` — as many records are made as are asked for.
-/

namespace StaffSearch.Sample

/-! ## Drawing numbers -/

/-- A source of random words: its state, and how the next word comes out of it. -/
structure Source (State : Type) where
  /-- The next word and the state behind it. -/
  next : State → UInt32 × State

/-- The largest low half that is accepted for a range of `size` numbers: `size` moved to the top of
its word, less one. -/
def acceptedUpTo (size : Nat) : Nat := size * Word.count (31 - Nat.log2 size) - 1

/-- Draws one of `size` numbers, counted from zero; of `attempts` words, the first that is
accepted is used, and zero stands if there is none. -/
def draw {State : Type} (source : Source State) (size : Nat) :
    Nat → State → Nat × State
  | 0, state => (0, state)
  | attempts + 1, state =>
    let (word, state) := source.next state
    let product := word.toNat * size
    if product % Word.count 32 ≤ acceptedUpTo size then (product / Word.count 32, state)
    else draw source size attempts state

/-- Draws a number from `low` to `high`, both included. -/
def drawBetween {State : Type} (source : Source State) (attempts low high : Nat) (state : State) :
    Nat × State :=
  let (number, state) := draw source (high - low + 1) attempts state
  (low + number, state)

/-! ## Profiles -/

/-- States in rotation. -/
def states : List String := ["California", "Texas", "New York", "Florida"]

/-- Cities in rotation, each in the state of the same place. -/
def cities : List String := ["Los Angeles", "Houston", "New York City", "Miami"]

/-- Departments in rotation. -/
def departments : List String := ["Engineering", "HR", "Marketing", "Sales"]

/-- Skills; a profile has the first few of them. -/
def skills : List String := ["JavaScript", "Python", "React", "Node.js", "SQL"]

/-- Degrees in rotation. -/
def degrees : List String := ["B.Tech", "M.Tech", "MBA", "B.Sc"]

/-- The entry of a list for the profile with index `i`, the list being gone through again and
again. -/
def rotate (entries : List String) (i : Nat) : String := (entries[i % entries.length]?).getD ""

/-- The random part of a profile. -/
structure Chance where
  /-- The month of joining. -/
  month : Nat
  /-- The day of joining. -/
  day : Nat
  /-- The salary. -/
  salary : Nat
  /-- The age. -/
  age : Nat

/-- Draws the random part of a profile. -/
def drawChance {State : Type} (source : Source State) (attempts : Nat) (state : State) :
    Chance × State :=
  let (month, state) := drawBetween source attempts 1 12 state
  let (day, state) := drawBetween source attempts 1 28 state
  let (salary, state) := drawBetween source attempts 50000 99999 state
  let (age, state) := drawBetween source attempts 22 41 state
  ({ month, day, salary, age }, state)

/-- The profile with index `i`, counted from zero. -/
def profile (i : Nat) (chance : Chance) : Employee :=
  { id := none
    name := "Employee " ++ toString (i + 1)
    email := "employee" ++ toString (i + 1) ++ "@company.com"
    phone := "98765432" ++ toString (i % 10 + 1)
    state := rotate states i
    city := rotate cities i
    department := rotate departments i
    salary := Float.ofNat chance.salary
    joinDate :=
      ((Date.ofCivil? (2020 + (i % 4 : Nat)) chance.month chance.day).map Instant.midnight).getD
        Instant.epoch
    gender := if i % 2 = 0 then "Male" else "Female"
    skills := skills.take (i % 5 + 1)
    age := Float.ofNat chance.age
    education := rotate degrees i }

/-- The profiles from index `i` on, and the state of the source after them. -/
def employeesFrom {State : Type} (source : Source State) (attempts i : Nat) :
    Nat → State → List Employee × State
  | 0, state => ([], state)
  | count + 1, state =>
    let (chance, state) := drawChance source attempts state
    let (rest, state) := employeesFrom source attempts (i + 1) count state
    (profile i chance :: rest, state)

/-- A number of invented employees, and the state of the source after them. -/
def employees {State : Type} (source : Source State) (attempts count : Nat) (state : State) :
    List Employee × State := employeesFrom source attempts 0 count state

@[simp] theorem length_employeesFrom {State : Type} (source : Source State) (attempts i count : Nat)
    (state : State) : (employeesFrom source attempts i count state).1.length = count := by
  induction count generalizing i state with
  | zero => rfl
  | succ count ih => simp [employeesFrom, ih]

@[simp] theorem length_employees {State : Type} (source : Source State) (attempts count : Nat)
    (state : State) : (employees source attempts count state).1.length = count :=
  length_employeesFrom source attempts 0 count state

/-! ## Filling an empty store -/

/-- Whether a store is to be filled: sample records are wanted and it holds none. -/
def isWanted (existing count : Nat) : Bool := existing == 0 && count != 0

/-- Fills a store with the sample records if it is empty; the answer is how many were added. -/
def seedIfEmpty (store : Store) (samples : List Employee) : Except StoreError Nat × Store :=
  match store.count with
  | .error cause => (.error cause, store)
  | .ok existing =>
    if isWanted existing samples.length then store.insert samples else (.ok 0, store)

end StaffSearch.Sample
