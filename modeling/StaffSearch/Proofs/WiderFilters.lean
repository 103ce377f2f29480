import StaffSearch.Proofs.QueryCase
import StaffSearch.Proofs.Search

/-!
# Filters that admit more

A filter with a single constraint admits the records that meet it.  Where one filter admits whatever
another one does, it selects more from every list of records (`Filter.filter_sublist`), and a search
that finds something by the narrow one finds as much by the wide one (`Service.search_sublist`).
-/

namespace StaffSearch

open StaffSearch.Query StaffSearch.Text

/-! ## Filters with one constraint -/

namespace Filter

/-- A filter with a single constraint admits the records that meet it. -/
theorem admits_set_empty (field : Field) (constraint : Constraint) (employee : Employee) :
    (empty.set field constraint).admits employee = constraint.holdsOf (employee.value field) := by
  rw [Bool.eq_iff_iff, admits_eq, List.all_eq_true]
  constructor
  · intro h
    simpa using h field field.mem_all
  · intro h other _
    by_cases hOther : other = field
    · subst hOther
      simpa using h
    · simp [hOther]

theorem isEmpty_set (filter : Filter) (field : Field) (constraint : Constraint) :
    (filter.set field constraint).isEmpty = false := by
  have hField := get?_set_self filter field constraint
  rw [Bool.eq_false_iff]
  intro hEmpty
  rw [isEmpty_iff.mp hEmpty] at hField
  exact absurd hField.symm (Option.some_ne_none constraint)

/-- A filter that admits more selects more. -/
theorem filter_sublist {narrow wide : Filter}
    (h : ∀ employee, narrow.admits employee = true → wide.admits employee = true)
    (records : List Employee) :
    (records.filter narrow.admits).Sublist (records.filter wide.admits) := by
  have hTwice : (records.filter wide.admits).filter narrow.admits =
      records.filter narrow.admits := by
    rw [List.filter_filter]
    apply List.filter_congr
    intro employee _
    cases hNarrow : narrow.admits employee with
    | true => rw [h employee hNarrow, Bool.and_self]
    | false => rw [Bool.false_and]
  rw [← hTwice]
  exact List.filter_sublist

end Filter

/-! ## Searches -/

/-- A search with a single constraint that admits more finds more, in every store. -/
theorem Service.search_sublist {compiler : Compiler} {query wideQuery : String}
    {now later : Instant} {narrow wide : Filter} (hBlank : isBlankText query = false)
    (hWideBlank : isBlankText wideQuery = false)
    (hNarrow : compiler.compile query now = .ok narrow)
    (hWide : compiler.compile wideQuery later = .ok wide) (hSome : narrow.isEmpty = false)
    (hWideSome : wide.isEmpty = false)
    (hMore : ∀ employee, narrow.admits employee = true → wide.admits employee = true)
    {store : Store} {found : List Employee}
    (hFound : Service.search ⟨compiler, store⟩ (some query) now = .ok found) :
    ∃ wider, Service.search ⟨compiler, store⟩ (some wideQuery) later = .ok wider ∧
      found.Sublist wider := by
  have hExplain : ∀ store, Service.explain ⟨compiler, store⟩ (some query) now = .ok narrow := by
    intro store
    rw [Service.explain]
    simp only [hBlank]
    exact hNarrow
  have hWideExplain : ∀ store,
      Service.explain ⟨compiler, store⟩ (some wideQuery) later = .ok wide := by
    intro store
    rw [Service.explain]
    simp only [hWideBlank]
    exact hWide
  cases store with
  | failing cause =>
      rw [Service.search_failing (hExplain _)] at hFound
      exact absurd hFound (by simp)
  | memory records =>
      rw [Service.search_constrained hSome (hExplain _)] at hFound
      split at hFound
      · exact absurd hFound (by simp)
      · next hSelected =>
          obtain rfl := Except.ok.inj hFound
          have hSublist := Filter.filter_sublist hMore records
          obtain ⟨employee, hEmployee⟩ := List.exists_mem_of_ne_nil _ hSelected
          obtain ⟨hMem, hAdmits⟩ := List.mem_filter.mp (hSublist.subset hEmployee)
          exact ⟨_, Service.search_of_admitted hWideSome (hWideExplain _) ⟨employee, hMem, hAdmits⟩,
            hSublist⟩

end StaffSearch
