import StaffSearch.Proofs.Compilation

/-!
# What filters compare with

A comparison has an operand: a number, a moment or a text.  Filters that are read off a query never
compare with a text.  Texts of a query end up in patterns and in sets, and only its numerals, and
moments computed from them, are compared.

The proof follows the run of the extractors.  What holds of every constraint that an extractor finds
holds of every constraint in the draft (`forall_of_run`), because a draft only grows by such
constraints (`forall_of_addAll`).
-/

namespace StaffSearch

/-- The operand of a comparison; patterns and sets have none. -/
def Constraint.operand? : Constraint → Option Operand
  | .equals operand | .atLeast operand | .atMost operand | .lessThan operand => some operand
  | .containsPattern _ | .oneOf _ => none

/-- Some constraint of the filter compares a field with the operand. -/
def Filter.ComparesWith (filter : Filter) (operand : Operand) : Prop :=
  ∃ field constraint, filter.get? field = some constraint ∧ constraint.operand? = some operand

namespace Query

variable {property : Constraint → Prop}

/-- Every constraint of the draft has the property. -/
def HoldsThroughout (property : Constraint → Prop) (draft : Draft) : Prop :=
  ∀ field constraint stage, draft.get? field = some (constraint, stage) → property constraint

theorem forall_of_insert {draft next : Draft} {stage : String} {field : Field}
    {constraint : Constraint} (hDraft : HoldsThroughout property draft)
    (hConstraint : property constraint)
    (h : draft.insert stage field constraint = .ok next) : HoldsThroughout property next := by
  obtain ⟨-, rfl⟩ := Draft.insert_eq_ok_iff.mp h
  intro f other owner hGet
  dsimp only at hGet
  split at hGet
  · cases hGet
    exact hConstraint
  · exact hDraft f other owner hGet

theorem forall_of_addAll {stage : String} (found : List (Field × Constraint))
    (hFound : ∀ entry ∈ found, property entry.2) :
    ∀ {draft next : Draft}, HoldsThroughout property draft →
      Compiler.addAll draft stage found = .ok next → HoldsThroughout property next := by
  induction found with
  | nil =>
      intro draft next hDraft h
      cases h
      exact hDraft
  | cons entry rest ih =>
      intro draft next hDraft h
      rw [Compiler.addAll] at h
      split at h
      · next middle hInsert =>
          have hEntry := hFound entry List.mem_cons_self
          have hRest : ∀ other ∈ rest, property other.2 := fun other hMem =>
            hFound other (List.mem_cons_of_mem _ hMem)
          exact ih hRest (forall_of_insert hDraft hEntry hInsert) h
      · exact absurd h (by simp)

/-- What holds of every constraint that is found holds of every constraint in the draft. -/
theorem forall_of_run {context : Context} (extractors : List Extractor)
    (hFound : ∀ extractor ∈ extractors, ∀ constraint,
      extractor.constraint? context = some constraint → property constraint) :
    ∀ {draft next : Draft}, HoldsThroughout property draft →
      Compiler.run context draft extractors = .ok next → HoldsThroughout property next := by
  induction extractors with
  | nil =>
      intro draft next hDraft h
      cases h
      exact hDraft
  | cons first rest ih =>
      intro draft next hDraft h
      have hFirst : ∀ entry ∈ first.extract context, property entry.2 := by
        intro entry hMem
        rw [Extractor.extract, Option.mem_toList, Option.map_eq_some_iff] at hMem
        obtain ⟨constraint, hConstraint, rfl⟩ := hMem
        exact hFound first List.mem_cons_self constraint hConstraint
      have hRest : ∀ extractor ∈ rest, ∀ constraint,
          extractor.constraint? context = some constraint → property constraint :=
        fun extractor hMem => hFound extractor (List.mem_cons_of_mem _ hMem)
      rw [Compiler.run] at h
      split at h
      · next middle hAdd => exact ih hRest (forall_of_addAll _ hFirst hDraft hAdd) h
      · exact absurd h (by simp)

/-- What holds of every constraint that an extractor can find in a query holds of every constraint
of the query's filter. -/
theorem forall_of_compile (property : Constraint → Prop) {compiler : Compiler} {query : String}
    {now : Instant} {filter : Filter} (hFound : ∀ extractor ∈ compiler.extractors, ∀ constraint,
      extractor.constraint? (compiler.contextOf query now) = some constraint →
        property constraint)
    (h : compiler.compile query now = .ok filter) :
    ∀ field constraint, filter.get? field = some constraint → property constraint := by
  have hToken : tokenize query ≠ [] := by
    intro hNone
    rw [compiler.compile_of_no_token now hNone] at h
    exact absurd h (by simp)
  rw [compiler.compile_of_token now hToken] at h
  split at h
  · exact absurd h (by simp)
  · split at h
    · exact absurd h (by simp)
    · next draft hRun =>
        cases h
        have hEmpty : HoldsThroughout property Draft.empty := by
          intro field constraint stage hGet
          exact absurd hGet (by simp [Draft.empty])
        intro field constraint hGet
        obtain ⟨⟨_, stage⟩, hDraft, rfl⟩ := Option.map_eq_some_iff.mp hGet
        exact forall_of_run _ hFound hEmpty hRun field _ stage hDraft

/-! ## No texts -/

theorem operand?_termConstraint? {category : Category} {present : List Term}
    {constraint : Constraint} (h : Extractor.termConstraint? category present = some constraint) :
    constraint.operand? = none := by
  rw [Extractor.termConstraint?] at h
  split at h
  · split at h
    · exact absurd h (by simp)
    · cases h
      rfl
  · obtain ⟨term, -, rfl⟩ := Option.map_eq_some_iff.mp h
    rfl

/-- No extractor compares with a text. -/
theorem operand?_ne_text {extractor : Extractor} {context : Context} {constraint : Constraint}
    (h : extractor.constraint? context = some constraint) (value : String) :
    constraint.operand? ≠ some (.text value) := by
  cases extractor with
  | vocabulary category terms =>
      rw [operand?_termConstraint? h]
      simp
  | capture name field trigger =>
      obtain ⟨word, -, rfl⟩ := Option.map_eq_some_iff.mp h
      simp [Constraint.operand?]
  | numeric field anchor =>
      obtain ⟨binding, -, rfl⟩ := Option.map_eq_some_iff.mp h
      cases directionOf context.tokens <;> simp [Direction.constraint, Constraint.operand?]
  | joinDate =>
      rw [Extractor.constraint?] at h
      split at h
      · obtain ⟨moment, -, rfl⟩ := Option.map_eq_some_iff.mp h
        simp [Constraint.operand?]
      · exact absurd h (by simp)

/-- **Filters read off a query compare with no text.** -/
theorem not_comparesWith_text_of_compile {compiler : Compiler} {query : String} {now : Instant}
    {filter : Filter} (h : compiler.compile query now = .ok filter) (value : String) :
    ¬ filter.ComparesWith (.text value) := by
  rintro ⟨field, constraint, hGet, hOperand⟩
  have hAll := forall_of_compile (fun c => c.operand? ≠ some (.text value))
    (fun _ _ _ hFound => operand?_ne_text hFound value) h
  exact hAll field constraint hGet hOperand

end Query

end StaffSearch
