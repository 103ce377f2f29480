import StaffSearch.Store.Sample
import StaffSearch.Proofs.StoreRuns

/-!
# Several calls that fill one store

A call that fills a store takes two steps: it counts the records, and if there are none, it adds its
sample records.  Each step is taken at once, but other calls may take steps between the two.  A
schedule says whose step comes next.

Nothing is added before some call comes up for the second time.  So the calls that have come up by
then have all found the store empty (`firstReaders`).  Each of them is going to add its records, and
every other call finds records and adds none.  One invariant says this of every moment of a run
(`Underway`): a step before that moment makes one more reader (`Underway.read`), and a step behind
it keeps the readers (`Underway.step`).

* `next_next_waiting`: a call that is not interrupted fills the store if it is empty.
* `exists_underway_run`: what every run leaves behind.
* `seeding_of_schedule`: how often a store is filled, and when it is filled once.
-/

namespace StaffSearch.Sample

/-! ## Calls in two steps -/

/-- How far a call has come. -/
inductive Progress where
  /-- It has not counted the records yet. -/
  | waiting
  /-- It has found no records and is going to add some. -/
  | filling
  /-- It has ended with an answer. -/
  | done (answer : Except StoreError Nat)

/-- The next step of a call with its sample records. -/
def Progress.next (samples : List Employee) (store : Store) : Progress → Progress × Store
  | .waiting =>
    match store.count with
    | .error cause => (.done (.error cause), store)
    | .ok existing =>
      if isWanted existing samples.length then (.filling, store) else (.done (.ok 0), store)
  | .filling => (.done (store.insert samples).1, (store.insert samples).2)
  | .done answer => (.done answer, store)

/-- **A call that is not interrupted** fills the store if it is empty. -/
theorem next_next_waiting (samples : List Employee) (store : Store) :
    (Progress.waiting.next samples store).1.next samples (Progress.waiting.next samples store).2 =
      (.done (seedIfEmpty store samples).1, (seedIfEmpty store samples).2) := by
  rw [Progress.next, seedIfEmpty]
  cases store.count with
  | error cause => rfl
  | ok existing =>
      by_cases hWanted : isWanted existing samples.length = true <;> simp [hWanted, Progress.next]

/-- A store and the calls that share it. -/
structure Shared (Call : Type) where
  /-- The store. -/
  store : Store
  /-- How far each call has come. -/
  progress : Call → Progress

namespace Shared

variable {Call : Type} [DecidableEq Call]

/-- No call has begun, and the store is empty. -/
def start : Shared Call where
  store := .memory []
  progress _ := .waiting

/-- A call takes its next step. -/
def step (samples : Call → List Employee) (shared : Shared Call) (call : Call) : Shared Call where
  store := ((shared.progress call).next (samples call) shared.store).2
  progress other :=
    if other = call then ((shared.progress call).next (samples call) shared.store).1
    else shared.progress other

/-- The calls of a schedule take their steps, from the start on. -/
def run (samples : Call → List Employee) (schedule : List Call) : Shared Call :=
  schedule.foldl (step samples) start

/-- Every call has ended. -/
def IsDone (shared : Shared Call) : Prop := ∀ call, ∃ answer, shared.progress call = .done answer

/-- The call has ended and says that it has added records. -/
def ReportsSome (shared : Shared Call) (call : Call) : Prop :=
  ∃ number, shared.progress call = .done (.ok number) ∧ number ≠ 0

/-- The store has been filled once: it holds `count` records, and one call says that it has added
some. -/
def IsFilledOnce (shared : Shared Call) (count : Nat) : Prop :=
  shared.store.count = .ok count ∧
    ∃ call, shared.ReportsSome call ∧ ∀ other, shared.ReportsSome other → other = call

end Shared

/-! ## Who finds the store empty -/

section Readers

variable {Call : Type} [DecidableEq Call]

/-- The calls of a schedule up to the first that has come up before; those in `seen` have. -/
def untilAgain (seen : List Call) : List Call → List Call
  | [] => []
  | call :: rest => if call ∈ seen then [] else call :: untilAgain (call :: seen) rest

/-- The calls that come up before any call comes up for the second time. -/
def firstReaders (schedule : List Call) : List Call := untilAgain [] schedule

theorem untilAgain_cons_of_not_mem {call : Call} {seen : List Call} (h : call ∉ seen)
    (rest : List Call) :
    untilAgain seen (call :: rest) = call :: untilAgain (call :: seen) rest := by
  rw [untilAgain, if_neg h]

theorem not_mem_of_mem_untilAgain (schedule : List Call) :
    ∀ seen, ∀ call ∈ untilAgain seen schedule, call ∉ seen := by
  induction schedule with
  | nil =>
      intro seen call hMem
      exact absurd hMem List.not_mem_nil
  | cons first rest ih =>
      intro seen call hMem
      by_cases hSeen : first ∈ seen
      · rw [untilAgain, if_pos hSeen] at hMem
        exact absurd hMem List.not_mem_nil
      · rw [untilAgain_cons_of_not_mem hSeen] at hMem
        rcases List.mem_cons.mp hMem with rfl | hRest
        · exact hSeen
        · exact fun hCall => ih _ call hRest (List.mem_cons_of_mem _ hCall)

theorem nodup_untilAgain (schedule : List Call) :
    ∀ seen, (untilAgain seen schedule).Nodup := by
  induction schedule with
  | nil =>
      intro seen
      exact List.nodup_nil
  | cons first rest ih =>
      intro seen
      by_cases hSeen : first ∈ seen
      · rw [untilAgain, if_pos hSeen]
        exact List.nodup_nil
      · rw [untilAgain_cons_of_not_mem hSeen, List.nodup_cons]
        exact ⟨fun hMem => not_mem_of_mem_untilAgain rest _ first hMem List.mem_cons_self, ih _⟩

/-- What follows in the schedule, if anything does, starts with a call that has come up before. -/
theorem exists_eq_untilAgain_append (schedule : List Call) :
    ∀ seen, ∃ rest, schedule = untilAgain seen schedule ++ rest ∧
      ∀ call ∈ rest.head?, call ∈ seen ∨ call ∈ untilAgain seen schedule := by
  induction schedule with
  | nil =>
      intro seen
      exact ⟨[], rfl, fun call hHead => absurd hHead (by simp)⟩
  | cons first rest ih =>
      intro seen
      by_cases hSeen : first ∈ seen
      · refine ⟨first :: rest, by rw [untilAgain, if_pos hSeen, List.nil_append], ?_⟩
        intro call hHead
        cases hHead
        exact Or.inl hSeen
      · obtain ⟨after, hRest, hHead⟩ := ih (first :: seen)
        rw [untilAgain_cons_of_not_mem hSeen]
        refine ⟨after, by rw [List.cons_append, ← hRest], ?_⟩
        intro call hCall
        rcases hHead call hCall with hBefore | hBehind
        · rcases List.mem_cons.mp hBefore with rfl | hBefore
          · exact Or.inr List.mem_cons_self
          · exact Or.inl hBefore
        · exact Or.inr (List.mem_cons_of_mem _ hBehind)

end Readers

/-! ## One step -/

section Steps

variable {Call : Type} [DecidableEq Call] {samples : Call → List Employee}
  {readers added : List Call} {shared : Shared Call} {call : Call}

/-- The state of a run in which the calls in `readers` have found the store empty and those in
`added` have added their records, in this order. -/
structure Underway (samples : Call → List Employee) (readers added : List Call)
    (shared : Shared Call) : Prop where
  /-- The store holds the records that have been added. -/
  store_eq : shared.store = .memory (storedFrom 1 (added.flatMap samples))
  /-- No call adds its records twice. -/
  nodup_added : added.Nodup
  /-- Only readers add records. -/
  added_subset : added ⊆ readers
  /-- A call that has added its records says how many they were. -/
  progress_added : ∀ call ∈ added, shared.progress call = .done (.ok (samples call).length)
  /-- The other readers are going to add theirs. -/
  progress_reader : ∀ call ∈ readers, call ∉ added → shared.progress call = .filling
  /-- All others wait, or have come up when there were records. -/
  progress_other : ∀ call, call ∉ readers →
    shared.progress call = .waiting ∨ (added ≠ [] ∧ shared.progress call = .done (.ok 0))

omit [DecidableEq Call] in
theorem underway_start : Underway samples [] [] (Shared.start : Shared Call) where
  store_eq := rfl
  nodup_added := List.nodup_nil
  added_subset := List.nil_subset _
  progress_added _ hMem := absurd hMem List.not_mem_nil
  progress_reader _ hMem := absurd hMem List.not_mem_nil
  progress_other _ _ := Or.inl rfl

@[simp] theorem Shared.progress_step_self (samples : Call → List Employee) (shared : Shared Call)
    (call : Call) : (shared.step samples call).progress call =
      ((shared.progress call).next (samples call) shared.store).1 :=
  if_pos rfl

@[simp] theorem Shared.progress_step_of_ne (samples : Call → List Employee) (shared : Shared Call)
    {call other : Call} (h : other ≠ call) :
    (shared.step samples call).progress other = shared.progress other :=
  if_neg h

/-- A call that has ended changes nothing. -/
theorem Shared.step_of_done {answer : Except StoreError Nat}
    (h : shared.progress call = .done answer) : shared.step samples call = shared := by
  have hProgress : (shared.step samples call).progress = shared.progress := by
    funext other
    by_cases hSame : other = call
    · simp [hSame, h, Progress.next]
    · simp [hSame]
  have hStore : (shared.step samples call).store = shared.store := by
    rw [step, h]
    rfl
  calc shared.step samples call
      = ⟨(shared.step samples call).store, (shared.step samples call).progress⟩ := rfl
    _ = shared := by rw [hStore, hProgress]

namespace Underway

omit [DecidableEq Call] in
theorem count_eq (h : Underway samples readers added shared) :
    shared.store.count = .ok (added.flatMap samples).length := by
  rw [h.store_eq, Store.count, length_storedFrom]

/-- As long as nothing has been added, a call that comes up for the first time finds no records. -/
theorem read (h : Underway samples readers [] shared) (hSome : samples call ≠ [])
    (hNew : call ∉ readers) :
    Underway samples (readers ++ [call]) [] (shared.step samples call) := by
  have hWaiting : ∀ other, other ∉ readers → shared.progress other = .waiting := by
    intro other hOther
    rcases h.progress_other other hOther with hWaiting | ⟨hAdded, -⟩
    · exact hWaiting
    · exact absurd rfl hAdded
  have hNext : Progress.waiting.next (samples call) shared.store = (.filling, shared.store) := by
    have hWanted : isWanted 0 (samples call).length = true := by simp [isWanted, hSome]
    rw [Progress.next, h.count_eq]
    exact if_pos hWanted
  refine ⟨?_, List.nodup_nil, List.nil_subset _, fun _ hMem => absurd hMem List.not_mem_nil,
    ?_, ?_⟩
  · rw [Shared.step, hWaiting call hNew, hNext]
    exact h.store_eq
  · intro other hMem hAdded
    by_cases hSame : other = call
    · rw [hSame, Shared.progress_step_self, hWaiting call hNew, hNext]
    · rw [Shared.progress_step_of_ne _ _ hSame]
      have hReader : other ∈ readers := by simpa [hSame] using hMem
      exact h.progress_reader other hReader hAdded
  · intro other hMem
    rw [List.mem_append, List.mem_singleton, not_or] at hMem
    rw [Shared.progress_step_of_ne _ _ hMem.2]
    exact Or.inl (hWaiting other hMem.1)

/-- A reader adds its records behind those that have been added. -/
theorem fill (h : Underway samples readers added shared) (hReader : call ∈ readers)
    (hNew : call ∉ added) :
    Underway samples readers (added ++ [call]) (shared.step samples call) := by
  have hFilling := h.progress_reader call hReader hNew
  have hInsert : shared.store.insert (samples call) = (.ok (samples call).length,
      .memory (storedFrom 1 ((added ++ [call]).flatMap samples))) := by
    rw [h.store_eq, records_insert, List.flatMap_append, List.flatMap_singleton,
      storedFrom_append, length_storedFrom, Nat.add_comm 1]
  refine ⟨?_, ?_, ?_, ?_, ?_, ?_⟩
  · rw [Shared.step, hFilling, Progress.next, hInsert]
  · exact List.nodup_append.mpr ⟨h.nodup_added, by simp, by
      rintro other hMem last hLast rfl
      rw [List.mem_singleton.mp hLast] at hMem
      exact hNew hMem⟩
  · intro other hMem
    rcases List.mem_append.mp hMem with hAdded | hLast
    · exact h.added_subset hAdded
    · rw [List.mem_singleton.mp hLast]
      exact hReader
  · intro other hMem
    by_cases hSame : other = call
    · rw [hSame, Shared.progress_step_self, hFilling, Progress.next, hInsert]
    · rw [Shared.progress_step_of_ne _ _ hSame]
      have hAdded : other ∈ added := by simpa [hSame] using hMem
      exact h.progress_added other hAdded
  · intro other hOther hMem
    rw [List.mem_append, List.mem_singleton, not_or] at hMem
    rw [Shared.progress_step_of_ne _ _ hMem.2]
    exact h.progress_reader other hOther hMem.1
  · intro other hOther
    have hDiffers : other ≠ call := by
      rintro rfl
      exact hOther hReader
    rw [Shared.progress_step_of_ne _ _ hDiffers]
    refine (h.progress_other other hOther).imp_right ?_
    rintro ⟨-, hDone⟩
    exact ⟨by simp, hDone⟩

/-- Once there are records, a call that comes up for the first time finds them. -/
theorem find (h : Underway samples readers added shared) (hSome : ∀ call, samples call ≠ [])
    (hAdded : added ≠ []) (hOther : call ∉ readers) (hWaiting : shared.progress call = .waiting) :
    Underway samples readers added (shared.step samples call) := by
  have hNext : Progress.waiting.next (samples call) shared.store =
      (.done (.ok 0), shared.store) := by
    have hRecords : added.flatMap samples ≠ [] := by
      obtain ⟨first, rest, rfl⟩ := List.exists_cons_of_ne_nil hAdded
      simp [hSome first]
    have hWanted : ¬ isWanted (added.flatMap samples).length (samples call).length = true := by
      simp only [isWanted, Bool.and_eq_true, beq_iff_eq, List.length_eq_zero_iff]
      exact fun hNone => hRecords hNone.1
    rw [Progress.next, h.count_eq]
    exact if_neg hWanted
  have hDiffers : ∀ other ∈ readers, other ≠ call := by
    rintro other hMem rfl
    exact hOther hMem
  refine ⟨?_, h.nodup_added, h.added_subset, ?_, ?_, ?_⟩
  · rw [Shared.step, hWaiting, hNext]
    exact h.store_eq
  · intro other hMem
    rw [Shared.progress_step_of_ne _ _ (hDiffers other (h.added_subset hMem))]
    exact h.progress_added other hMem
  · intro other hMem
    rw [Shared.progress_step_of_ne _ _ (hDiffers other hMem)]
    exact h.progress_reader other hMem
  · intro other hMem
    by_cases hSame : other = call
    · rw [hSame, Shared.progress_step_self, hWaiting, hNext]
      exact Or.inr ⟨hAdded, rfl⟩
    · rw [Shared.progress_step_of_ne _ _ hSame]
      exact h.progress_other other hMem

/-- **From the moment where a reader comes up again**, the readers stay the same. -/
theorem step (h : Underway samples readers added shared) (hSome : ∀ call, samples call ≠ [])
    (hCall : call ∈ readers ∨ added ≠ []) :
    ∃ next, next ≠ [] ∧ Underway samples readers next (shared.step samples call) := by
  by_cases hAdded : call ∈ added
  · refine ⟨added, List.ne_nil_of_mem hAdded, ?_⟩
    rw [Shared.step_of_done (h.progress_added call hAdded)]
    exact h
  · by_cases hReader : call ∈ readers
    · exact ⟨added ++ [call], by simp, h.fill hReader hAdded⟩
    · have hRecords := hCall.resolve_left hReader
      refine ⟨added, hRecords, ?_⟩
      rcases h.progress_other call hReader with hWaiting | ⟨-, hDone⟩
      · exact h.find hSome hRecords hReader hWaiting
      · rw [Shared.step_of_done hDone]
        exact h

/-! ## Runs -/

theorem foldl_read (hSome : ∀ call, samples call ≠ []) (calls : List Call) :
    ∀ {readers : List Call} {shared : Shared Call}, Underway samples readers [] shared →
      calls.Nodup → (∀ call ∈ calls, call ∉ readers) →
        Underway samples (readers ++ calls) [] (calls.foldl (Shared.step samples) shared) := by
  induction calls with
  | nil =>
      intro readers shared h _ _
      rw [List.append_nil]
      exact h
  | cons call calls ih =>
      intro readers shared h hNodup hNew
      obtain ⟨hFirst, hRest⟩ := List.nodup_cons.mp hNodup
      have hStep := h.read (hSome call) (hNew call List.mem_cons_self)
      have hRun := ih hStep hRest (by
        intro other hMem hReader
        rcases List.mem_append.mp hReader with hBefore | hLast
        · exact hNew other (List.mem_cons_of_mem _ hMem) hBefore
        · rw [List.mem_singleton.mp hLast] at hMem
          exact hFirst hMem)
      rw [List.append_assoc, List.singleton_append] at hRun
      exact hRun

theorem foldl_step (hSome : ∀ call, samples call ≠ []) (calls : List Call) :
    ∀ {added : List Call} {shared : Shared Call}, Underway samples readers added shared →
      added ≠ [] →
        ∃ next, Underway samples readers next (calls.foldl (Shared.step samples) shared) := by
  induction calls with
  | nil =>
      intro added shared h _
      exact ⟨added, h⟩
  | cons call calls ih =>
      intro added shared h hAdded
      obtain ⟨next, hNext, hStep⟩ := h.step hSome (Or.inr hAdded)
      exact ih hStep hNext

end Underway

/-- **What a run has come to.**  The readers are the calls that have come up before any of them came
up again. -/
theorem exists_underway_run (hSome : ∀ call, samples call ≠ []) (schedule : List Call) :
    ∃ added, Underway samples (firstReaders schedule) added (Shared.run samples schedule) := by
  obtain ⟨rest, hSchedule, hHead⟩ := exists_eq_untilAgain_append schedule []
  have hRead := underway_start.foldl_read hSome (firstReaders schedule)
    (nodup_untilAgain schedule []) (fun _ _ => List.not_mem_nil)
  rw [List.nil_append] at hRead
  rw [Shared.run, hSchedule, List.foldl_append, ← hSchedule]
  cases rest with
  | nil => exact ⟨[], hRead⟩
  | cons call rest =>
      have hReader : call ∈ firstReaders schedule :=
        (hHead call rfl).resolve_left List.not_mem_nil
      obtain ⟨added, hAdded, hStep⟩ := hRead.step hSome (Or.inl hReader)
      exact hStep.foldl_step hSome rest hAdded

/-- When every call has ended, all readers have added their records. -/
theorem Underway.perm_readers (h : Underway samples readers added shared)
    (hNodup : readers.Nodup) (hDone : shared.IsDone) : added.Perm readers := by
  apply (List.perm_ext_iff_of_nodup h.nodup_added hNodup).mpr
  intro call
  refine ⟨fun hMem => h.added_subset hMem, fun hMem => ?_⟩
  by_cases hAdded : call ∈ added
  · exact hAdded
  · obtain ⟨answer, hAnswer⟩ := hDone call
    rw [h.progress_reader call hMem hAdded] at hAnswer
    exact absurd hAnswer (by simp)

end Steps

/-! ## How often a store is filled -/

section Filled

variable {calls : Nat} {State : Type}

/-- The sample records of calls that draw from a source of random words, each from a state of its
own. -/
def drawnBy (source : Source State) (attempts count : Nat) (states : Fin calls → State)
    (call : Fin calls) : List Employee :=
  (employees source attempts count (states call)).1

theorem length_flatMap_drawnBy (source : Source State) (attempts count : Nat)
    (states : Fin calls → State) (added : List (Fin calls)) :
    (added.flatMap (drawnBy source attempts count states)).length = count * added.length := by
  induction added with
  | nil => rfl
  | cons call added ih =>
      rw [List.flatMap_cons, List.length_append, ih, drawnBy, length_employees, List.length_cons,
        Nat.mul_succ, Nat.add_comm]

theorem drawnBy_ne_nil {count : Nat} (hCount : 0 < count) (source : Source State)
    (attempts : Nat) (states : Fin calls → State) (call : Fin calls) :
    drawnBy source attempts count states call ≠ [] := by
  apply List.ne_nil_of_length_pos
  rw [drawnBy, length_employees]
  exact hCount

/-- Nobody comes up between the two steps of the first call exactly when it is the only one to come
up before a call comes up again. -/
theorem exists_twice_first_iff {schedule : List (Fin calls)}
    (hAgain : ∀ call, schedule ≠ [call]) :
    (∃ call rest, schedule = call :: call :: rest) ↔ (firstReaders schedule).length = 1 := by
  constructor
  · rintro ⟨call, rest, rfl⟩
    simp [firstReaders, untilAgain]
  · intro hLength
    obtain ⟨call, hOnly⟩ := List.length_eq_one_iff.mp hLength
    obtain ⟨rest, hSchedule, hHead⟩ := exists_eq_untilAgain_append schedule []
    change schedule = firstReaders schedule ++ rest at hSchedule
    change ∀ call ∈ rest.head?, call ∈ [] ∨ call ∈ firstReaders schedule at hHead
    rw [hOnly] at hSchedule hHead
    cases rest with
    | nil => exact absurd hSchedule (hAgain call)
    | cons next rest =>
        have hNext := (hHead next rfl).resolve_left List.not_mem_nil
        rw [List.mem_singleton] at hNext
        subst hNext
        exact ⟨next, rest, hSchedule⟩

/--
**How often a store is filled.**  Some calls fill an empty store with `count` sample records each,
whatever these are, and in the end every call has ended.  Then the store holds the records of the
calls that came up before any call came up again; each of these says that it has added its records,
and every other call says that it has added none.  So the store has been filled once exactly when
the two steps of some call come before everything else.
-/
theorem seeding_of_schedule {count : Nat} (hCount : 0 < count)
    (source : Source State) (attempts : Nat) (states : Fin calls → State)
    {schedule : List (Fin calls)}
    (hDone : (Shared.run (drawnBy source attempts count states) schedule).IsDone) :
    (Shared.run (drawnBy source attempts count states) schedule).store.count =
      .ok (count * (firstReaders schedule).length) ∧
    (∀ call, (call ∈ firstReaders schedule →
        (Shared.run (drawnBy source attempts count states) schedule).progress call =
          .done (.ok count)) ∧
      (call ∉ firstReaders schedule →
        (Shared.run (drawnBy source attempts count states) schedule).progress call =
          .done (.ok 0))) ∧
    ((Shared.run (drawnBy source attempts count states) schedule).IsFilledOnce count ↔
      ∃ call rest, schedule = call :: call :: rest) := by
  have hSome := drawnBy_ne_nil hCount source attempts states
  obtain ⟨added, hUnderway⟩ := exists_underway_run hSome schedule
  have hPerm := hUnderway.perm_readers (nodup_untilAgain schedule []) hDone
  have hHeld : (Shared.run (drawnBy source attempts count states) schedule).store.count =
      .ok (count * (firstReaders schedule).length) := by
    rw [hUnderway.count_eq, length_flatMap_drawnBy, hPerm.length_eq]
  have hOnly : ∀ call ∈ firstReaders schedule,
      (Shared.run (drawnBy source attempts count states) schedule).progress call =
        .done (.ok count) := by
    intro call hReader
    rw [hUnderway.progress_added call (hPerm.mem_iff.mpr hReader), drawnBy, length_employees]
  have hOthers : ∀ call ∉ firstReaders schedule,
      (Shared.run (drawnBy source attempts count states) schedule).progress call =
        .done (.ok 0) := by
    intro call hOther
    rcases hUnderway.progress_other call hOther with hWaiting | ⟨-, hNone⟩
    · obtain ⟨answer, hAnswer⟩ := hDone call
      rw [hWaiting] at hAnswer
      exact absurd hAnswer (by simp)
    · exact hNone
  have hReports : ∀ call,
      (Shared.run (drawnBy source attempts count states) schedule).ReportsSome call ↔
        call ∈ firstReaders schedule := by
    intro call
    rw [Shared.ReportsSome]
    by_cases hReader : call ∈ firstReaders schedule
    · simp [hOnly call hReader, hReader, Nat.ne_of_gt hCount]
    · simp [hOthers call hReader, hReader]
  -- a call that has come up once has not ended
  have hAgain : ∀ call, schedule ≠ [call] := by
    rintro call rfl
    have hRead := underway_start.read (hSome call) (List.not_mem_nil (a := call))
    obtain ⟨answer, hAnswer⟩ := hDone call
    rw [Shared.run, List.foldl_cons, List.foldl_nil,
      hRead.progress_reader call (by simp) List.not_mem_nil] at hAnswer
    exact absurd hAnswer (by simp)
  refine ⟨hHeld, fun call => ⟨hOnly call, hOthers call⟩, ?_⟩
  rw [exists_twice_first_iff hAgain, Shared.IsFilledOnce, hHeld]
  constructor
  · rintro ⟨hOnce, -⟩
    have hTimes : count * (firstReaders schedule).length = count * 1 := by
      rw [Nat.mul_one]
      exact Except.ok.inj hOnce
    exact Nat.eq_of_mul_eq_mul_left hCount hTimes
  · intro hLength
    obtain ⟨call, hOnly⟩ := List.length_eq_one_iff.mp hLength
    refine ⟨by rw [hLength, Nat.mul_one], call, ?_, ?_⟩
    · rw [hReports, hOnly]
      exact List.mem_singleton_self call
    · intro other hOther
      rw [hReports, hOnly] at hOther
      exact List.mem_singleton.mp hOther

/-- A source of random words that counts them. -/
private def counter : Source UInt32 where
  next word := (word, word + 1)

/-- The last of three calls takes both of its steps before the others come up, and they find its
records. -/
theorem seeding_of_schedule_uninterrupted :
    (Shared.run (drawnBy counter 9 2 fun _ : Fin 3 => 5) [2, 2, 0, 1]).IsDone ∧
      (Shared.run (drawnBy counter 9 2 fun _ : Fin 3 => 5) [2, 2, 0, 1]).IsFilledOnce 2 := by
  have hDone : (Shared.run (drawnBy counter 9 2 fun _ : Fin 3 => 5) [2, 2, 0, 1]).IsDone := by
    intro call
    match call with
    | 0 | 1 | 2 => exact ⟨_, rfl⟩
  exact ⟨hDone, (seeding_of_schedule (by decide) counter 9 (fun _ => 5) hDone).2.2.mpr
    ⟨2, [0, 1], rfl⟩⟩

/-- Two calls come up before either of them comes up again, and both add their records. -/
theorem filled_twice :
    (Shared.run (drawnBy counter 9 1 fun _ : Fin 2 => 5) [0, 1, 0, 1]).IsDone ∧
      (Shared.run (drawnBy counter 9 1 fun _ : Fin 2 => 5) [0, 1, 0, 1]).store.count = .ok 2 ∧
      ¬ (Shared.run (drawnBy counter 9 1 fun _ : Fin 2 => 5) [0, 1, 0, 1]).IsFilledOnce 1 := by
  have hHeld : (Shared.run (drawnBy counter 9 1 fun _ : Fin 2 => 5) [0, 1, 0, 1]).store.count =
      .ok 2 := rfl
  refine ⟨?_, hHeld, ?_⟩
  · intro call
    match call with
    | 0 | 1 => exact ⟨_, rfl⟩
  · rintro ⟨hOnce, -⟩
    rw [hHeld] at hOnce
    exact absurd (Except.ok.inj hOnce) (by decide)

end Filled

end StaffSearch.Sample
