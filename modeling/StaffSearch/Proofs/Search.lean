import StaffSearch.Service

/-!
# What a search answers

Three things can end a search early or change its answer: a query that does not compile, a store
that fails, and a filter without constraints, for which the store is asked for everything instead
of for a selection.  This file settles how the three meet.  A query that does not compile is
answered without the store; every other answer depends on the store through the one thing that it
says to the filter (`answer_eq`).  So what is said about stores holds of anything that answers
filters, as long as it tells the truth about some records when it does not fail (`AnswersFrom`).

The reference moment for relative dates is an argument, shared by a search and its explanation.
-/

namespace StaffSearch

namespace Service

open StaffSearch.Query

variable {compiler : Compiler} {query : Option String} {now : Instant} {filter : Filter}
  {records : List Employee}

/-! ## Whatever answers filters -/

section Answers

variable {ask : Filter → Except StoreError (List Employee)}

/-- What is said to filters is true of some records: a filter is answered with the records that pass
it, or with a failure. -/
def AnswersFrom (records : List Employee) (ask : Filter → Except StoreError (List Employee)) :
    Prop :=
  ∀ filter found, ask filter = .ok found → found = records.filter filter.admits

/-- **A search asks once**, for what its filter selects.  A failure is passed on; so is what is
found, unless there is nothing that passes a filter with constraints. -/
theorem answer_eq (ask : Filter → Except StoreError (List Employee)) (filter : Filter) :
    answer ask filter = match ask filter with
      | .error cause => .error (.store cause)
      | .ok found =>
        if filter.isEmpty = false ∧ found = [] then .error .noMatch else .ok found := by
  rw [answer]
  cases hEmpty : filter.isEmpty with
  | true =>
      rw [← Filter.isEmpty_iff.mp hEmpty]
      cases ask filter with
      | error cause => rfl
      | ok found => rfl
  | false =>
      cases ask filter with
      | error cause => simp
      | ok found => cases found <;> simp

theorem answer_of_error {cause : StoreError} (h : ask filter = .error cause) :
    answer ask filter = .error (.store cause) := by
  rw [answer_eq, h]

/-- Without a constraint everything is found. -/
theorem answer_unconstrained (hEmpty : filter.isEmpty = true) (hTrue : AnswersFrom records ask)
    (hFound : ∃ found, ask filter = .ok found) : answer ask filter = .ok records := by
  obtain ⟨found, hFound⟩ := hFound
  have hAll : records.filter filter.admits = records := by
    rw [Filter.isEmpty_iff.mp hEmpty]
    exact List.filter_eq_self.mpr fun employee _ => Filter.admits_empty employee
  rw [answer_eq, hFound]
  simp [hEmpty, hTrue filter found hFound, hAll]

/-- With a constraint the admitted records are found, of which there must be one. -/
theorem answer_constrained (hEmpty : filter.isEmpty = false) (hTrue : AnswersFrom records ask)
    (hFound : ∃ found, ask filter = .ok found) :
    answer ask filter = if records.filter filter.admits = [] then .error .noMatch
      else .ok (records.filter filter.admits) := by
  obtain ⟨found, hFound⟩ := hFound
  rw [answer_eq, hFound]
  simp [hEmpty, hTrue filter found hFound]

theorem filter_admits_eq_nil_iff :
    records.filter filter.admits = [] ↔
      ∀ employee ∈ records, filter.admits employee = false := by
  rw [List.filter_eq_nil_iff]
  simp only [Bool.not_eq_true]

theorem answer_eq_noMatch_iff (hEmpty : filter.isEmpty = false) (hTrue : AnswersFrom records ask)
    (hFound : ∃ found, ask filter = .ok found) :
    answer ask filter = .error .noMatch ↔
      ∀ employee ∈ records, filter.admits employee = false := by
  rw [answer_constrained hEmpty hTrue hFound, ← filter_admits_eq_nil_iff]
  constructor
  · intro hAnswer
    by_cases hNone : records.filter filter.admits = []
    · exact hNone
    · rw [if_neg hNone] at hAnswer
      exact absurd hAnswer (by simp)
  · intro hNone
    rw [if_pos hNone]

theorem answer_of_admitted (hEmpty : filter.isEmpty = false) (hTrue : AnswersFrom records ask)
    (hFound : ∃ found, ask filter = .ok found)
    (hSome : ∃ employee ∈ records, filter.admits employee = true) :
    answer ask filter = .ok (records.filter filter.admits) := by
  rw [answer_constrained hEmpty hTrue hFound, if_neg]
  intro hNone
  obtain ⟨employee, hMem, hAdmits⟩ := hSome
  rw [filter_admits_eq_nil_iff.mp hNone employee hMem] at hAdmits
  exact absurd hAdmits (by decide)

end Answers

/-! ## One store at a time -/

/-- The explanation of a query is the same over every store. -/
theorem explain_store (compiler : Compiler) (store other : Store) (query : Option String)
    (now : Instant) :
    Service.explain ⟨compiler, store⟩ query now = Service.explain ⟨compiler, other⟩ query now := rfl

theorem search_of_explain {store : Store}
    (h : Service.explain ⟨compiler, store⟩ query now = .ok filter) :
    Service.search ⟨compiler, store⟩ query now = answer store.find filter := by
  rw [Service.search, h]

/-- A working store tells the truth about its records. -/
theorem answersFrom_memory (records : List Employee) :
    AnswersFrom records (Store.memory records).find :=
  fun _ _ hFound => (Except.ok.inj hFound).symm

/-- A store that fails passes its failure on, whichever request it is that reaches it. -/
theorem search_failing {cause : StoreError}
    (h : Service.explain ⟨compiler, .failing cause⟩ query now = .ok filter) :
    Service.search ⟨compiler, .failing cause⟩ query now = .error (.store cause) :=
  (search_of_explain h).trans (answer_of_error rfl)

/-- Without a constraint a working store is found as it is. -/
theorem search_unconstrained (hEmpty : filter.isEmpty = true)
    (h : Service.explain ⟨compiler, .memory records⟩ query now = .ok filter) :
    Service.search ⟨compiler, .memory records⟩ query now = .ok records :=
  (search_of_explain h).trans (answer_unconstrained hEmpty (answersFrom_memory records) ⟨_, rfl⟩)

/-- With a constraint the admitted records of a working store are found. -/
theorem search_constrained (hEmpty : filter.isEmpty = false)
    (h : Service.explain ⟨compiler, .memory records⟩ query now = .ok filter) :
    Service.search ⟨compiler, .memory records⟩ query now =
      if records.filter filter.admits = [] then .error .noMatch
      else .ok (records.filter filter.admits) :=
  (search_of_explain h).trans (answer_constrained hEmpty (answersFrom_memory records) ⟨_, rfl⟩)

theorem search_of_admitted (hEmpty : filter.isEmpty = false)
    (h : Service.explain ⟨compiler, .memory records⟩ query now = .ok filter)
    (hSome : ∃ employee ∈ records, filter.admits employee = true) :
    Service.search ⟨compiler, .memory records⟩ query now =
      .ok (records.filter filter.admits) :=
  (search_of_explain h).trans
    (answer_of_admitted hEmpty (answersFrom_memory records) ⟨_, rfl⟩ hSome)

/-- An empty list is found in an empty store only, by a search for everything. -/
theorem store_of_search_eq_nil {store : Store}
    (hAnswer : Service.search ⟨compiler, store⟩ query now = .ok []) :
    store = .memory [] ∧
      ∃ filter, Service.explain ⟨compiler, store⟩ query now = .ok filter ∧
        filter.isEmpty = true := by
  cases hExplain : Service.explain ⟨compiler, store⟩ query now with
  | error cause =>
      rw [search_of_explain_error hExplain] at hAnswer
      exact absurd hAnswer (by simp)
  | ok filter =>
      cases store with
      | failing cause =>
          rw [search_failing hExplain] at hAnswer
          exact absurd hAnswer (by simp)
      | memory records =>
          cases hEmpty : filter.isEmpty with
          | true =>
              rw [search_unconstrained hEmpty hExplain] at hAnswer
              exact ⟨congrArg Store.memory (Except.ok.inj hAnswer), filter, rfl, hEmpty⟩
          | false =>
              rw [search_constrained hEmpty hExplain] at hAnswer
              split at hAnswer
              · exact absurd hAnswer (by simp)
              · next hSome => exact absurd (Except.ok.inj hAnswer) hSome

/-! ## Every store -/

/--
**The answer to a search** over every store.  A query that does not compile is answered with its
own error, whatever the store is, so the store cannot have been asked.  A query that compiles is
answered with every record if its filter is empty; otherwise with the admitted records in the order
of the store, or with `noMatch` exactly when there are none.  A failure of the store is reported as
it is.  Hence an empty list is the answer only to an unconstrained search of an empty store.

The answer depends on the store through what it says to the filter, and all this holds of anything
that tells the truth about some records when it does not fail.
-/
theorem search_answers (compiler : Compiler) (query : Option String) (now : Instant) :
    (∀ store cause, Service.explain ⟨compiler, store⟩ query now = .error cause →
      ∀ other, Service.search ⟨compiler, other⟩ query now = .error cause) ∧
    (∀ store filter, Service.explain ⟨compiler, store⟩ query now = .ok filter →
      (∀ records, filter.isEmpty = true →
        Service.search ⟨compiler, .memory records⟩ query now = .ok records) ∧
      (∀ records, filter.isEmpty = false →
        (Service.search ⟨compiler, .memory records⟩ query now = .error .noMatch ↔
          ∀ employee ∈ records, filter.admits employee = false) ∧
        ((∃ employee ∈ records, filter.admits employee = true) →
          Service.search ⟨compiler, .memory records⟩ query now =
            .ok (records.filter filter.admits))) ∧
      (∀ cause, Service.search ⟨compiler, .failing cause⟩ query now = .error (.store cause))) ∧
    (∀ store, Service.search ⟨compiler, store⟩ query now = .ok [] →
      store = .memory [] ∧
        ∃ filter, Service.explain ⟨compiler, store⟩ query now = .ok filter ∧
          filter.isEmpty = true) ∧
    (∀ store filter, Service.explain ⟨compiler, store⟩ query now = .ok filter →
      Service.search ⟨compiler, store⟩ query now = answer store.find filter) ∧
    (∀ records ask, AnswersFrom records ask → ∀ filter,
      (∀ cause, ask filter = .error cause → answer ask filter = .error (.store cause)) ∧
      ((∃ found, ask filter = .ok found) →
        (filter.isEmpty = true → answer ask filter = .ok records) ∧
        (filter.isEmpty = false →
          (answer ask filter = .error .noMatch ↔
            ∀ employee ∈ records, filter.admits employee = false) ∧
          ((∃ employee ∈ records, filter.admits employee = true) →
            answer ask filter = .ok (records.filter filter.admits))))) := by
  refine ⟨?_, ?_, ?_, ?_, ?_⟩
  · intro store cause h other
    rw [explain_store compiler store other] at h
    exact search_of_explain_error h
  · intro store filter h
    refine ⟨?_, ?_, ?_⟩
    · intro records hEmpty
      exact search_unconstrained hEmpty ((explain_store ..).trans h)
    · intro records hEmpty
      have hMemory : Service.explain ⟨compiler, .memory records⟩ query now = .ok filter :=
        (explain_store ..).trans h
      refine ⟨?_, search_of_admitted hEmpty hMemory⟩
      rw [search_of_explain hMemory]
      exact answer_eq_noMatch_iff hEmpty (answersFrom_memory records) ⟨_, rfl⟩
    · intro cause
      exact search_failing ((explain_store ..).trans h)
  · intro store hAnswer
    exact store_of_search_eq_nil hAnswer
  · intro store filter h
    exact search_of_explain h
  · intro records ask hTrue filter
    refine ⟨fun cause => answer_of_error, fun hFound => ⟨?_, ?_⟩⟩
    · intro hEmpty
      exact answer_unconstrained hEmpty hTrue hFound
    · intro hEmpty
      exact ⟨answer_eq_noMatch_iff hEmpty hTrue hFound, answer_of_admitted hEmpty hTrue hFound⟩

end Service

end StaffSearch
