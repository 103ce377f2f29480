import StaffSearch.Filter.Basic

/-!
# Record stores

A store keeps employee records in a fixed order. New records go to the end; one without an
identifier gets `mem-k`, `k` being its place in the store, counted from one. A store that has failed
answers every request with the same failure.

## Main results

* `records_insert` — what the store holds after an insertion.
* `Store.findAll_memory` — without a filter, everything is found.
-/

namespace StaffSearch

/-- A record store. -/
inductive Store where
  /-- A working store with its records in order. -/
  | memory (records : List Employee)
  /-- A store that fails at everything. -/
  | failing (cause : StoreError)

/-- The identifier of the record at a place, counted from one. -/
def memoryId (place : Nat) : String := "mem-" ++ toString place

/-- The record with an identifier for its place, if it has none. -/
def Employee.withIdAt (employee : Employee) (place : Nat) : Employee :=
  match employee.id with
  | some _ => employee
  | none => { employee with id := some (memoryId place) }

/-- The records as they are kept, the first of them going to `place`. -/
def storedFrom (place : Nat) : List Employee → List Employee
  | [] => []
  | employee :: rest => employee.withIdAt place :: storedFrom (place + 1) rest

namespace Store

/-- The name of the kind of store. -/
def backend : Store → String
  | memory _ => "memory"
  | failing _ => "failing"

/-- The records that pass a filter, in order. -/
def find (store : Store) (filter : Filter) : Except StoreError (List Employee) :=
  match store with
  | memory records => .ok (records.filter filter.admits)
  | failing cause => .error cause

/-- All records, in order. -/
def findAll (store : Store) : Except StoreError (List Employee) := store.find Filter.empty

/-- The number of records. -/
def count : Store → Except StoreError Nat
  | memory records => .ok records.length
  | failing cause => .error cause

/-- Adds records behind the others; the answer is how many there were. -/
def insert (store : Store) (records : List Employee) : Except StoreError Nat × Store :=
  match store with
  | memory stored => (.ok records.length, memory (stored ++ storedFrom (stored.length + 1) records))
  | failing cause => (.error cause, failing cause)

end Store

@[simp] theorem length_storedFrom (place : Nat) (records : List Employee) :
    (storedFrom place records).length = records.length := by
  induction records generalizing place with
  | nil => rfl
  | cons employee rest ih => simp [storedFrom, ih]

theorem records_insert (stored records : List Employee) :
    (Store.memory stored).insert records =
      (.ok records.length, .memory (stored ++ storedFrom (stored.length + 1) records)) := rfl

@[simp] theorem Store.findAll_memory (records : List Employee) :
    (Store.memory records).findAll = .ok records := by
  simp only [Store.findAll, Store.find]
  congr 1
  exact List.filter_eq_self.mpr fun employee _ => Filter.admits_empty employee

end StaffSearch
