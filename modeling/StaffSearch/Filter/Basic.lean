import StaffSearch.Filter.Constraint
import StaffSearch.Error

/-!
# Filters

A filter gives some fields a constraint each. A record passes when it meets all of them; so the
filter without constraints lets every record pass.

While a filter is put together, each constraint is kept with the name of the stage that set it, and
a second constraint on the same field is refused.

## Main results

* `Filter.ext_iff_get` — a filter is what it says about each field.
* `Filter.isEmpty_iff` — a filter without constraints is the empty one.
* `Draft.insert_eq_ok_iff` — a constraint is taken exactly when its field is free.
-/

namespace StaffSearch

/-! ## Filters -/

/-- At most one constraint for every field. -/
structure Filter where
  /-- The constraint on a field, if there is one. -/
  get? : Field → Option Constraint

namespace Filter

/-- The filter without constraints. -/
def empty : Filter := ⟨fun _ => none⟩

theorem ext_iff_get {a b : Filter} : a = b ↔ ∀ field, a.get? field = b.get? field := by
  cases a; cases b
  simp only [mk.injEq, funext_iff]

/-- The constraints with their fields, in the order of the fields. -/
def entries (filter : Filter) : List (Field × Constraint) :=
  Field.all.filterMap fun field => (filter.get? field).map (field, ·)

/-- The constrained fields, in order. -/
def fields (filter : Filter) : List Field := filter.entries.map (·.1)

/-- Whether no field is constrained. -/
def isEmpty (filter : Filter) : Bool := filter.entries.isEmpty

/-- Whether a record meets every constraint. -/
def admits (filter : Filter) (employee : Employee) : Bool :=
  filter.entries.all fun entry => entry.2.holdsOf (employee.value entry.1)

/-- The filter with a constraint on a field set anew. -/
def set (filter : Filter) (field : Field) (constraint : Constraint) : Filter :=
  ⟨fun f => if f = field then some constraint else filter.get? f⟩

@[simp] theorem get?_empty (field : Field) : empty.get? field = none := rfl

@[simp] theorem entries_empty : empty.entries = [] := by
  simp [entries]

@[simp] theorem admits_empty (employee : Employee) : empty.admits employee = true := by
  simp [admits]

theorem isEmpty_iff {filter : Filter} : filter.isEmpty = true ↔ filter = empty := by
  constructor
  · intro h
    rw [ext_iff_get]
    intro field
    have hField := List.filterMap_eq_nil_iff.mp (List.isEmpty_iff.mp h) field (Field.mem_all field)
    exact Option.map_eq_none_iff.mp hField
  · rintro rfl
    rfl

@[simp] theorem get?_set_self (filter : Filter) (field : Field) (constraint : Constraint) :
    (filter.set field constraint).get? field = some constraint := if_pos rfl

@[simp] theorem get?_set_of_ne (filter : Filter) {field other : Field} (h : other ≠ field)
    (constraint : Constraint) : (filter.set field constraint).get? other = filter.get? other :=
  if_neg h

end Filter

/-! ## Putting a filter together -/

/-- A filter under construction: the constraints so far, each with the stage that set it. -/
structure Draft where
  /-- The constraint on a field and the name of its stage, if there is one. -/
  get? : Field → Option (Constraint × String)

namespace Draft

/-- Nothing is constrained yet. -/
def empty : Draft := ⟨fun _ => none⟩

/-- Adds a constraint; the field must be free. -/
def insert (draft : Draft) (stage : String) (field : Field) (constraint : Constraint) :
    Except SearchError Draft :=
  match draft.get? field with
  | some (_, owner) =>
    .error (.internal s!"field {field.label} constrained by both {owner} and {stage}")
  | none => .ok ⟨fun f => if f = field then some (constraint, stage) else draft.get? f⟩

/-- The filter with the constraints of the draft. -/
def build (draft : Draft) : Filter := ⟨fun field => (draft.get? field).map (·.1)⟩

theorem insert_eq_ok_iff {draft next : Draft} {stage : String} {field : Field}
    {constraint : Constraint} :
    draft.insert stage field constraint = .ok next ↔
      draft.get? field = none ∧
        next = ⟨fun f => if f = field then some (constraint, stage) else draft.get? f⟩ := by
  unfold insert
  split
  · next h => simp [h]
  · next h => simp [h, eq_comm]

end Draft

end StaffSearch
