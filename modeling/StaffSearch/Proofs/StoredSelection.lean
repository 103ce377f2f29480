import StaffSearch.Document.Record
import StaffSearch.Proofs.DayNumbers
import StaffSearch.Proofs.Letters
import StaffSearch.Proofs.Operands
import StaffSearch.Proofs.Patterns

/-!
# Asking a document store

A search can be answered in two ways: a filter is held against the records in memory, or it is
turned into a query document and a document store selects among stored documents.  The two accounts
agree, constraint by constraint.

Where they are compared, texts are ASCII and moments fall on whole milliseconds, for a document
keeps no more of a moment (`IsPlain`).  Comparisons with a text are left out.  The memory ignores
their letter case and the document store does not.  Filters read off a query have none.

* `get?_toEntries`: the document of a record has every field under its label.
* `compareValues?_storedValue`: stored values are compared like the contents of fields.
* `conditionHolds_constraintValue`: a constraint and its translation hold of the same contents.
* `admits_iff_selects`: a filter and its query document select the same records.
-/

namespace StaffSearch

open StaffSearch.Text

/-! ## Plain contents -/

/-- The texts of the content are ASCII, and a moment falls on a whole millisecond. -/
def FieldValue.IsPlain : FieldValue → Prop
  | .text value => IsAsciiText value
  | .number _ => True
  | .date moment => moment.IsWholeMilli
  | .list values => ∀ value ∈ values, IsAsciiText value

/-- A text is ASCII, and a moment falls on a whole millisecond. -/
def Operand.IsPlain : Operand → Prop
  | .number _ => True
  | .date moment => moment.IsWholeMilli
  | .text value => IsAsciiText value

/-- The texts of the constraint are ASCII, and a moment falls on a whole millisecond. -/
def Constraint.IsPlain : Constraint → Prop
  | .equals operand | .atLeast operand | .atMost operand | .lessThan operand => operand.IsPlain
  | .containsPattern pattern => IsAsciiText pattern
  | .oneOf set => ∀ element ∈ set.elements, IsAsciiText element

/-- Every content of the record is plain. -/
def Employee.IsPlain (employee : Employee) : Prop := ∀ field, (employee.value field).IsPlain

/-- Every constraint of the filter is plain. -/
def Filter.IsPlain (filter : Filter) : Prop :=
  ∀ field constraint, filter.get? field = some constraint → constraint.IsPlain

/-! ## The entries of a filter -/

theorem Filter.get?_of_mem_entries {filter : Filter} {entry : Field × Constraint}
    (h : entry ∈ filter.entries) : filter.get? entry.1 = some entry.2 := by
  obtain ⟨field, -, hField⟩ := List.mem_filterMap.mp h
  obtain ⟨constraint, hConstraint, rfl⟩ := Option.map_eq_some_iff.mp hField
  exact hConstraint

namespace Document

/-! ## The document of a record -/

/-- The content of a field as it stands in a document. -/
def storedValue : FieldValue → Value
  | .text value => .text value
  | .number value => .double value
  | .date moment => .date (Int64.ofInt moment.millis)
  | .list values => .list (values.map .text)

/-- **The document of a record has every field under its label.** -/
theorem get?_toEntries (employee : Employee) (field : Field) :
    (StoredRecord.ofEmployee employee).toEntries.get? field.label =
      some (storedValue (employee.value field)) := by
  rw [StoredRecord.toEntries, Entries.get?, List.foldl_append]
  cases field <;> rfl

/-! ## Comparisons -/

variable {value : FieldValue} {operand : Operand}

/-- **Stored values are compared like the contents of fields.** -/
theorem compareValues?_storedValue (hValue : value.IsPlain) (hOperand : operand.IsPlain)
    (hNoText : ∀ text, operand ≠ .text text) :
    compareValues? (storedValue value) (operandValue operand) = compareWith? value operand := by
  cases operand with
  | text text => exact absurd rfl (hNoText text)
  | number _ => cases value <;> rfl
  | date moment =>
      cases value with
      | date other =>
          have hOrder := Instant.compare_millis hValue hOperand
          change some (compare (Int64.ofInt other.millis).toInt
            (Int64.ofInt moment.millis).toInt) = _
          rw [Instant.toInt_millis, Instant.toInt_millis, hOrder]
          rfl
      | text _ => rfl
      | number _ => rfl
      | list _ => rfl

/-- A bare operand asks for equality. -/
theorem conditionHolds_operandValue (value : Value) (operand : Operand) :
    conditionHolds value (operandValue operand) =
      (compareValues? value (operandValue operand)).any (· == .eq) := by
  cases operand <;> rfl

/-! ## Patterns -/

theorem patternMatches_escape_of_ascii {pattern text : String} (hPattern : IsAsciiText pattern)
    (hText : IsAsciiText text) :
    patternMatches (escape pattern) text = containsPattern pattern text := by
  rw [patternMatches_escape, containsPattern, lowerList_of_isAsciiText hPattern,
    lowerList_of_isAsciiText hText]

theorem patternHolds_list (source : String) (texts : List String) :
    patternHolds source (.list (texts.map .text)) = texts.any (patternMatches source) := by
  rw [patternHolds, List.any_map]
  rfl

theorem patternHolds_wholePattern (element : String) (value : FieldValue) :
    patternHolds ("^" ++ escape element ++ "$") (storedValue value) =
      match value with
      | .text text => equalIgnoringAsciiCase element text
      | .list texts => texts.any (equalIgnoringAsciiCase element)
      | _ => false := by
  cases value with
  | text text => exact patternMatches_whole element text
  | list texts =>
      change patternHolds _ (.list (texts.map .text)) = _
      rw [patternHolds_list]
      exact congrArg texts.any (funext (patternMatches_whole element))
  | number _ => rfl
  | date _ => rfl

theorem any_any_comm {α β : Type} (test : α → β → Bool) (as : List α) (bs : List β) :
    (as.any fun a => bs.any (test a)) = bs.any fun b => as.any fun a => test a b := by
  rw [Bool.eq_iff_iff]
  simp only [List.any_eq_true]
  constructor
  · rintro ⟨a, hA, b, hB, hTest⟩
    exact ⟨b, hB, a, hA, hTest⟩
  · rintro ⟨b, hB, a, hA, hTest⟩
    exact ⟨a, hA, b, hB, hTest⟩

/-! ## Constraints -/

/-- **A constraint and its translation hold of the same contents.** -/
theorem conditionHolds_constraintValue {constraint : Constraint} (hValue : value.IsPlain)
    (hConstraint : constraint.IsPlain)
    (hNoText : ∀ text, constraint.operand? ≠ some (.text text)) :
    conditionHolds (storedValue value) (constraintValue constraint) =
      constraint.holdsOf value := by
  have hCompare : ∀ operand : Operand, operand.IsPlain →
      (∀ text, some operand ≠ some (Operand.text text)) →
        compareValues? (storedValue value) (operandValue operand) = compareWith? value operand :=
    fun operand hPlain hNot => compareValues?_storedValue hValue hPlain fun text hText =>
      hNot text (congrArg some hText)
  cases constraint with
  | equals operand =>
      rw [constraintValue, conditionHolds_operandValue, hCompare operand hConstraint hNoText]
      rfl
  | atLeast operand =>
      change (compareValues? _ _).any _ = _
      rw [hCompare operand hConstraint hNoText]
      rfl
  | atMost operand =>
      change (compareValues? _ _).any _ = _
      rw [hCompare operand hConstraint hNoText]
      rfl
  | lessThan operand =>
      change (compareValues? _ _).any _ = _
      rw [hCompare operand hConstraint hNoText]
      rfl
  | containsPattern pattern =>
      change patternHolds (escape pattern) (storedValue value) = _
      cases value with
      | text text => exact patternMatches_escape_of_ascii hConstraint hValue
      | list texts =>
          have hEach : ∀ text ∈ texts,
              patternMatches (escape pattern) text = containsPattern pattern text :=
            fun text hMem => patternMatches_escape_of_ascii hConstraint (hValue text hMem)
          change patternHolds _ (.list (texts.map .text)) = texts.any _
          rw [patternHolds_list, Bool.eq_iff_iff, List.any_eq_true, List.any_eq_true]
          exact exists_congr fun text => and_congr_right fun hMem => by rw [hEach text hMem]
      | number _ => rfl
      | date _ => rfl
  | oneOf set =>
      change (set.elements.map wholePattern).any (memberHolds (storedValue value)) = _
      have hMember : memberHolds (storedValue value) ∘ wholePattern = fun element =>
          patternHolds ("^" ++ escape element ++ "$") (storedValue value) := rfl
      rw [List.any_map, hMember, funext fun element => patternHolds_wholePattern element value]
      cases value with
      | text _ => rfl
      | list texts => exact any_any_comm _ set.elements texts
      | number _ => exact List.any_eq_false.mpr fun _ _ => Bool.false_ne_true
      | date _ => exact List.any_eq_false.mpr fun _ _ => Bool.false_ne_true

/-! ## Filters -/

/-- **A filter and its query document select the same records.**  This holds of filters that compare
with no text, which all filters read off a query are. -/
theorem admits_iff_selects :
    (∀ (compiler : Query.Compiler) (query : String) (now : Instant) (filter : Filter),
      compiler.compile query now = .ok filter →
        ∀ text, ¬ filter.ComparesWith (.text text)) ∧
    ∀ (filter : Filter) (employee : Employee),
      (∀ text, ¬ filter.ComparesWith (.text text)) → filter.IsPlain → employee.IsPlain →
        (filter.admits employee = true ↔
          selects (ofFilter filter) (StoredRecord.ofEmployee employee).toEntries = true) := by
  refine ⟨fun _ _ _ _ h => Query.not_comparesWith_text_of_compile h, ?_⟩
  intro filter employee hNoText hFilter hEmployee
  have hEntry : ∀ entry ∈ filter.entries,
      conditionHolds (storedValue (employee.value entry.1)) (constraintValue entry.2) =
        entry.2.holdsOf (employee.value entry.1) := by
    intro entry hMem
    have hGet := Filter.get?_of_mem_entries hMem
    apply conditionHolds_constraintValue (hEmployee entry.1) (hFilter entry.1 entry.2 hGet)
    intro text hText
    exact hNoText text ⟨entry.1, entry.2, hGet, hText⟩
  rw [selects, ofFilter, List.all_map, Filter.admits, List.all_eq_true, List.all_eq_true]
  apply forall_congr'
  intro entry
  apply imp_congr_right
  intro hMem
  rw [← hEntry entry hMem]
  simp only [Function.comp_apply, get?_toEntries]

/-- A filter on the city and a record without further content. -/
theorem admits_iff_selects_city :
    (Filter.empty.set .city (.containsPattern "St. P")).admits { city := "st. paul" } = true ↔
      selects (ofFilter (Filter.empty.set .city (.containsPattern "St. P")))
        (StoredRecord.ofEmployee { city := "st. paul" }).toEntries = true := by
  have hOnly : ∀ {field constraint},
      (Filter.empty.set .city (.containsPattern "St. P")).get? field = some constraint →
        constraint = .containsPattern "St. P" := by
    intro field constraint hGet
    simp only [Filter.set, Filter.empty] at hGet
    split at hGet
    · cases hGet
      rfl
    · exact absurd hGet (by simp)
  apply admits_iff_selects.2
  · rintro text ⟨field, constraint, hGet, hOperand⟩
    rw [hOnly hGet] at hOperand
    exact absurd hOperand (by simp [Constraint.operand?])
  · intro field constraint hGet
    rw [hOnly hGet]
    have hPattern : IsAsciiText "St. P" := by decide
    exact hPattern
  · have hEmpty : IsAsciiText "" := by decide
    have hCity : IsAsciiText "st. paul" := by decide
    have hEpoch : Instant.epoch.IsWholeMilli := ⟨by decide, by decide⟩
    have hSkills : ∀ text ∈ ([] : List String), IsAsciiText text := by simp
    intro field
    cases field <;> first | exact hEmpty | exact hCity | exact hEpoch | exact hSkills | trivial

end Document

end StaffSearch
