import StaffSearch.Store.Basic

/-!
# Runs of requests to a record store

A store answers insertions, searches and counts one after the other.  What it holds at any moment is
settled by the requests before: the records it started with, and behind them everything that has
been inserted (`records_run`).  Records are only ever added at the end, so a record keeps its place
and its content, and every answer can be read off what the store holds when it is asked
(`run_memory`).

The one thing that a store adds to a record is an identifier for its place (`Keeps`).
-/

namespace StaffSearch

/-! ## Requests and replies -/

/-- A request to a record store. -/
inductive Request where
  /-- Adds records behind the others. -/
  | insert (records : List Employee)
  /-- Asks for the records that pass a filter. -/
  | find (filter : Filter)
  /-- Asks for all records. -/
  | findAll
  /-- Asks for the number of records. -/
  | count

/-- What a request is answered with. -/
inductive Reply where
  /-- A number of records. -/
  | number (value : Nat)
  /-- Some records, in order. -/
  | records (found : List Employee)

namespace Store

/-- Answers a request. -/
def handle (store : Store) : Request → Except StoreError Reply × Store
  | .insert records => ((store.insert records).1.map .number, (store.insert records).2)
  | .find filter => ((store.find filter).map .records, store)
  | .findAll => (store.findAll.map .records, store)
  | .count => (store.count.map .number, store)

/-- Answers requests one after the other. -/
def run (store : Store) : List Request → List (Except StoreError Reply) × Store
  | [] => ([], store)
  | request :: rest =>
    let (answer, next) := store.handle request
    let (answers, last) := next.run rest
    (answer :: answers, last)

end Store

/-! ## What is expected -/

/-- The records that a request brings. -/
def Request.given : Request → List Employee
  | .insert records => records
  | .find _ | .findAll | .count => []

/-- The reply to a request where `held` are the records in the store. -/
def Request.replyOn (held : List Employee) : Request → Reply
  | .insert records => .number records.length
  | .find filter => .records (held.filter filter.admits)
  | .findAll => .records held
  | .count => .number held.length

/-- The store has kept what it started with and what it was given since: nothing else, each record
in its place, and those that came without an identifier with one for their place. -/
structure Keeps (initial given held : List Employee) : Prop where
  /-- There is nothing else. -/
  length_eq : held.length = initial.length + given.length
  /-- The first records are as they were, and so are their identifiers. -/
  initial_prefix : initial <+: held
  /-- The given records follow in order, and at most their identifiers have been added. -/
  given_kept : ∀ i employee, given[i]? = some employee →
    held[initial.length + i]? = some { employee with
      id := some (employee.id.getD (memoryId (initial.length + i + 1))) }

/-! ## Identifiers for places -/

theorem Employee.withIdAt_eq (employee : Employee) (place : Nat) :
    employee.withIdAt place =
      { employee with id := some (employee.id.getD (memoryId place)) } := by
  unfold Employee.withIdAt
  split
  · next name hId =>
      rw [hId, Option.getD_some, ← hId]
  · next hId =>
      rw [hId, Option.getD_none]

@[simp] theorem storedFrom_append (xs ys : List Employee) :
    ∀ place, storedFrom place (xs ++ ys) =
      storedFrom place xs ++ storedFrom (place + xs.length) ys := by
  induction xs with
  | nil =>
      intro place
      rfl
  | cons employee xs ih =>
      intro place
      have hPlace : place + 1 + xs.length = place + (xs.length + 1) := by omega
      rw [List.cons_append, storedFrom, storedFrom, ih, hPlace, List.cons_append, List.length_cons]

theorem getElem?_storedFrom (records : List Employee) :
    ∀ place i : Nat, (storedFrom place records)[i]? =
      records[i]?.map fun employee => employee.withIdAt (place + i) := by
  induction records with
  | nil =>
      intro place i
      rfl
  | cons employee records ih =>
      intro place i
      cases i with
      | zero => rfl
      | succ i =>
          have hPlace : place + 1 + i = place + (i + 1) := by omega
          rw [storedFrom, List.getElem?_cons_succ, List.getElem?_cons_succ, ih, hPlace]

/-- What is added behind the records at the beginning is kept. -/
theorem keeps_storedFrom (initial given : List Employee) :
    Keeps initial given (initial ++ storedFrom (initial.length + 1) given) := by
  refine ⟨?_, List.prefix_append _ _, ?_⟩
  · rw [List.length_append, length_storedFrom]
  · intro i employee hGiven
    have hPlace : initial.length + 1 + i = initial.length + i + 1 := by omega
    rw [List.getElem?_append_right (Nat.le_add_right _ _), Nat.add_sub_cancel_left,
      getElem?_storedFrom, hGiven, Option.map_some, Employee.withIdAt_eq, hPlace]

/-! ## One request -/

/-- A request is answered from what the store holds, and what it brings is added. -/
@[simp] theorem handle_memory (held : List Employee) (request : Request) :
    (Store.memory held).handle request =
      (.ok (request.replyOn held),
        .memory (held ++ storedFrom (held.length + 1) request.given)) := by
  cases request with
  | insert records => rfl
  | find filter =>
      rw [Request.given, storedFrom, List.append_nil]
      rfl
  | findAll =>
      rw [Store.handle, Store.findAll_memory, Request.given, storedFrom, List.append_nil]
      rfl
  | count =>
      rw [Request.given, storedFrom, List.append_nil]
      rfl

/-! ## Runs -/

namespace Store

@[simp] theorem run_cons (store : Store) (request : Request) (rest : List Request) :
    store.run (request :: rest) =
      ((store.handle request).1 :: ((store.handle request).2.run rest).1,
        ((store.handle request).2.run rest).2) := rfl

/-- A run can be interrupted at any moment. -/
theorem run_append (before after : List Request) :
    ∀ store : Store, store.run (before ++ after) =
      ((store.run before).1 ++ ((store.run before).2.run after).1,
        ((store.run before).2.run after).2) := by
  induction before with
  | nil =>
      intro store
      rfl
  | cons request before ih =>
      intro store
      simp [ih]

@[simp] theorem length_run (requests : List Request) :
    ∀ store : Store, (store.run requests).1.length = requests.length := by
  induction requests with
  | nil =>
      intro store
      rfl
  | cons request requests ih =>
      intro store
      simp [ih]

/-- **What a store holds after a run**: the records at the beginning, and behind them everything
that was inserted. -/
theorem records_run (requests : List Request) :
    ∀ held : List Employee, ((memory held).run requests).2 =
      memory (held ++ storedFrom (held.length + 1) (requests.flatMap Request.given)) := by
  induction requests with
  | nil =>
      intro held
      rw [List.flatMap_nil, storedFrom, List.append_nil]
      rfl
  | cons request requests ih =>
      intro held
      have hPlace : held.length + request.given.length + 1 =
          held.length + 1 + request.given.length := by omega
      rw [run_cons, handle_memory, ih, List.flatMap_cons, storedFrom_append, List.append_assoc,
        List.length_append, length_storedFrom, hPlace]

/-- What a store holds at some moment is the beginning of what it holds later. -/
theorem prefix_of_run {before after : List Request} {initial held stored : List Employee}
    (hHeld : ((memory initial).run before).2 = memory held)
    (hStored : ((memory initial).run (before ++ after)).2 = memory stored) : held <+: stored := by
  rw [run_append, hHeld, records_run] at hStored
  cases hStored
  exact List.prefix_append _ _

/-- A request in a run is answered from what the store holds at that moment. -/
theorem answer_run {before after : List Request} {request : Request}
    {initial held : List Employee} (hHeld : ((memory initial).run before).2 = memory held) :
    ((memory initial).run (before ++ request :: after)).1[before.length]? =
      some (.ok (request.replyOn held)) := by
  rw [run_append, hHeld, run_cons, handle_memory,
    List.getElem?_append_right (Nat.le_of_eq (length_run _ _)), length_run, Nat.sub_self]
  rfl

/-- A request that brings no records changes nothing. -/
theorem run_of_given_eq_nil {before : List Request} {request : Request}
    {initial held : List Employee} (hHeld : ((memory initial).run before).2 = memory held)
    (hGiven : request.given = []) :
    ((memory initial).run (before ++ [request])).2 = memory held := by
  rw [run_append, hHeld, records_run, List.flatMap_cons, hGiven, List.flatMap_nil, List.append_nil,
    storedFrom, List.append_nil]

/--
**A run of requests** to a store with any records.  It ends with the records at the beginning and,
behind them, those of every insertion in order, each as it was given up to an identifier for its
place.  Each request is answered: an insertion with the number of its records, a count with the
number of records held at that moment, a search with the records held that pass the filter, in
order, and a search for everything with all of them.  What is held then is the beginning of what is
held in the end, and a request other than an insertion leaves it as it is.
-/
theorem run_memory (initial : List Employee) (requests : List Request) :
    ∃ stored, ((memory initial).run requests).2 = memory stored ∧
      Keeps initial (requests.flatMap Request.given) stored ∧
      ((memory initial).run requests).1.length = requests.length ∧
      ∀ before request after, requests = before ++ request :: after →
        ∃ held, ((memory initial).run before).2 = memory held ∧
          Keeps initial (before.flatMap Request.given) held ∧ held <+: stored ∧
          ((memory initial).run requests).1[before.length]? =
            some (.ok (request.replyOn held)) ∧
          (request.given = [] →
            ((memory initial).run (before ++ [request])).2 = memory held) := by
  refine ⟨_, records_run requests initial, keeps_storedFrom initial _, length_run _ _, ?_⟩
  rintro before request after rfl
  have hHeld := records_run before initial
  exact ⟨_, hHeld, keeps_storedFrom initial _, prefix_of_run hHeld (records_run _ _),
    answer_run hHeld, run_of_given_eq_nil hHeld⟩

end Store

end StaffSearch
