import StaffSearch.Filter.Json
import StaffSearch.Proofs.JsonText
import StaffSearch.Proofs.Moments
import StaffSearch.Proofs.Operands

/-!
# Filters written and read again

The kind of an operand is not written.  A reader takes a string for a moment if it can, so a text
that reads as a moment comes back as one.  Everything else comes back as it was.  `Operand.reread`
says what becomes of an operand, and constraints and filters follow it.

* `Filter.ofJson?_toJson`: a written filter is read, operand by operand.
* `Filter.reread_eq_self_iff`: it is the same filter exactly when no text in it reads as a moment.
* `Filter.read?_write`: what this means for the text of a filter, for filters read off a query, and
  for filters that were read before.
-/

namespace StaffSearch

/-! ## Operands -/

/-- What comes back of an operand that is written and read. -/
def Operand.reread : Operand → Operand
  | .text value =>
    match Instant.read? value with
    | some moment => .date moment
    | none => .text value
  | operand => operand

/-- **A written operand is read.** -/
@[simp] theorem Operand.ofJson?_toJson (operand : Operand) :
    Operand.ofJson? operand.toJson = some operand.reread := by
  cases operand with
  | number value =>
      rw [Operand.toJson, Operand.ofJson?, if_pos (Word.fitsSigned_toInt value), Int64.ofInt_toInt]
      rfl
  | date moment =>
      rw [Operand.toJson, Operand.ofJson?, Instant.read?_render]
      rfl
  | text value =>
      rw [Operand.toJson, Operand.ofJson?, Operand.reread]
      cases Instant.read? value <;> rfl

theorem Operand.reread_eq_self_iff (operand : Operand) :
    operand.reread = operand ↔
      ∀ value, operand = .text value → Instant.read? value = none := by
  cases operand with
  | number _ => simp [Operand.reread]
  | date _ => simp [Operand.reread]
  | text value =>
      have hReread : (Operand.text value).reread = .text value ↔ Instant.read? value = none := by
        rw [Operand.reread]
        cases Instant.read? value <;> simp
      rw [hReread]
      constructor
      · intro hNone other hSame
        cases hSame
        exact hNone
      · intro hAll
        exact hAll value rfl

/-- A text that was read does not read as a moment. -/
theorem Operand.read?_eq_none_of_ofJson? {json : Json} {value : String}
    (h : Operand.ofJson? json = some (.text value)) : Instant.read? value = none := by
  cases json with
  | text other =>
      rw [Operand.ofJson?] at h
      split at h
      · exact absurd h (by simp)
      · next hNone =>
          cases h
          exact hNone
  | integer other =>
      rw [Operand.ofJson?] at h
      split at h <;> exact absurd h (by simp)
  | null => exact absurd h (by simp [Operand.ofJson?])
  | boolean _ => exact absurd h (by simp [Operand.ofJson?])
  | decimal _ => exact absurd h (by simp [Operand.ofJson?])
  | list _ => exact absurd h (by simp [Operand.ofJson?])
  | object _ => exact absurd h (by simp [Operand.ofJson?])

/-! ## Sets -/

theorem TextSet.insertInto_of_lt {text : String} {list : List String}
    (h : ∀ other ∈ list, text < other) : TextSet.insertInto text list = text :: list := by
  cases list with
  | nil => rfl
  | cons other list => rw [TextSet.insertInto, if_pos (h other List.mem_cons_self)]

/-- A set is found again from its elements. -/
theorem TextSet.ofList_elements (set : TextSet) : TextSet.ofList set.elements = set := by
  have hElements : ∀ list : List String, list.Pairwise (· < ·) →
      (TextSet.ofList list).elements = list := by
    intro list hIncreasing
    induction list with
    | nil => rfl
    | cons text list ih =>
        obtain ⟨hFirst, hRest⟩ := List.pairwise_cons.mp hIncreasing
        change TextSet.insertInto text (TextSet.ofList list).elements = text :: list
        rw [ih hRest, TextSet.insertInto_of_lt hFirst]
  have hSame := hElements set.elements set.increasing
  cases set
  cases hList : TextSet.ofList _
  rw [hList] at hSame
  cases hSame
  rfl

@[simp] theorem Json.texts?_map_text (texts : List String) :
    (Json.list (texts.map .text)).texts? = some texts := by
  rw [Json.texts?]
  induction texts with
  | nil => rfl
  | cons text texts ih => simp [ih, Json.text?]

/-! ## Constraints -/

/-- What comes back of a constraint that is written and read. -/
def Constraint.reread : Constraint → Constraint
  | .equals operand => .equals operand.reread
  | .atLeast operand => .atLeast operand.reread
  | .atMost operand => .atMost operand.reread
  | .lessThan operand => .lessThan operand.reread
  | constraint => constraint

/-- **A written constraint is read.** -/
@[simp] theorem Constraint.ofJson?_toJson (constraint : Constraint) :
    Constraint.ofJson? constraint.toJson = some constraint.reread := by
  cases constraint with
  | equals operand =>
      change (Operand.ofJson? operand.toJson).map Constraint.equals = _
      rw [Operand.ofJson?_toJson]
      rfl
  | atLeast operand =>
      change (Operand.ofJson? operand.toJson).map Constraint.atLeast = _
      rw [Operand.ofJson?_toJson]
      rfl
  | atMost operand =>
      change (Operand.ofJson? operand.toJson).map Constraint.atMost = _
      rw [Operand.ofJson?_toJson]
      rfl
  | lessThan operand =>
      change (Operand.ofJson? operand.toJson).map Constraint.lessThan = _
      rw [Operand.ofJson?_toJson]
      rfl
  | containsPattern pattern => rfl
  | oneOf set =>
      change (Json.list (set.elements.map .text)).texts?.map _ = _
      rw [Json.texts?_map_text, Option.map_some, TextSet.ofList_elements]
      rfl

theorem Constraint.reread_eq_self_iff (constraint : Constraint) :
    constraint.reread = constraint ↔
      ∀ operand, constraint.operand? = some operand → operand.reread = operand := by
  cases constraint <;> simp [Constraint.reread, Constraint.operand?]

/-- A constraint that was read compares with no text that reads as a moment. -/
theorem Constraint.read?_eq_none_of_ofJson? {json : Json} {constraint : Constraint}
    (h : Constraint.ofJson? json = some constraint) {value : String}
    (hText : constraint.operand? = some (.text value)) : Instant.read? value = none := by
  unfold Constraint.ofJson? at h
  split at h
  · next kind content =>
      have hOperand : ∀ (make : Operand → Constraint),
          (∀ operand, (make operand).operand? = some operand) →
            (Operand.ofJson? content).map make = some constraint → Instant.read? value = none := by
        intro make hMake hMap
        obtain ⟨operand, hRead, rfl⟩ := Option.map_eq_some_iff.mp hMap
        rw [hMake] at hText
        cases hText
        exact Operand.read?_eq_none_of_ofJson? hRead
      unfold Constraint.ofMember? at h
      split at h
      · exact hOperand .equals (fun _ => rfl) h
      split at h
      · exact hOperand .atLeast (fun _ => rfl) h
      split at h
      · exact hOperand .atMost (fun _ => rfl) h
      split at h
      · exact hOperand .lessThan (fun _ => rfl) h
      split at h
      · obtain ⟨pattern, -, rfl⟩ := Option.map_eq_some_iff.mp h
        exact absurd hText (by simp [Constraint.operand?])
      split at h
      · obtain ⟨texts, -, rfl⟩ := Option.map_eq_some_iff.mp h
        exact absurd hText (by simp [Constraint.operand?])
      · exact absurd h (by simp)
  · exact absurd h (by simp)

/-! ## Filters -/

namespace Filter

/-- What comes back of a filter that is written and read. -/
def reread (filter : Filter) : Filter :=
  ⟨fun field => (filter.get? field).map Constraint.reread⟩

theorem get?_reread (filter : Filter) (field : Field) :
    filter.reread.get? field = (filter.get? field).map Constraint.reread := rfl

/-- The members of a filter, written for some fields. -/
def membersOf (filter : Filter) (fields : List Field) : List (String × Json) :=
  fields.filterMap fun field =>
    (filter.get? field).map fun constraint => (field.label, constraint.toJson)

theorem toJson_eq (filter : Filter) : filter.toJson = .object (filter.membersOf Field.all) := by
  rw [Filter.toJson, Filter.entries, List.map_filterMap, membersOf]
  simp only [Option.map_map]
  rfl

/-- Reading the members for some fields constrains these fields anew and no other. -/
theorem ofMembers?_membersOf (filter : Filter) (fields : List Field) :
    ∀ before : Filter, ∃ again, ofMembers? before (filter.membersOf fields) = some again ∧
      ∀ field, again.get? field =
        if field ∈ fields ∧ (filter.get? field).isSome then filter.reread.get? field
        else before.get? field := by
  induction fields with
  | nil =>
      intro before
      refine ⟨before, rfl, ?_⟩
      intro field
      simp
  | cons first fields ih =>
      intro before
      cases hFirst : filter.get? first with
      | none =>
          have hMembers : filter.membersOf (first :: fields) = filter.membersOf fields := by
            rw [membersOf, List.filterMap_cons_none]
            · rfl
            · rw [hFirst]
              rfl
          obtain ⟨again, hRead, hGet⟩ := ih before
          refine ⟨again, by rw [hMembers, hRead], ?_⟩
          intro field
          rw [hGet]
          by_cases hSame : field = first
          · subst hSame
            simp [hFirst]
          · simp [hSame]
      | some constraint =>
          have hMembers : filter.membersOf (first :: fields) =
              (first.label, constraint.toJson) :: filter.membersOf fields := by
            rw [membersOf, List.filterMap_cons_some]
            · rfl
            · rw [hFirst]
              rfl
          obtain ⟨again, hRead, hGet⟩ := ih (before.set first constraint.reread)
          refine ⟨again, ?_, ?_⟩
          · rw [hMembers, ofMembers?, Field.ofLabel?_label, Constraint.ofJson?_toJson]
            exact hRead
          · intro field
            rw [hGet]
            by_cases hSame : field = first
            · subst hSame
              simp [hFirst, Filter.set, reread]
            · simp [hSame, Filter.set]

/-- **A written filter is read**, operand by operand. -/
theorem ofJson?_toJson (filter : Filter) : Filter.ofJson? filter.toJson = some filter.reread := by
  obtain ⟨again, hRead, hGet⟩ := ofMembers?_membersOf filter Field.all Filter.empty
  have hAgain : again = filter.reread := by
    rw [Filter.ext_iff_get]
    intro field
    rw [hGet]
    cases hField : filter.get? field with
    | none => simp [reread, hField]
    | some constraint => simp
  rw [toJson_eq, Filter.ofJson?, hRead, hAgain]

/-- No constraint of the filter compares with a text that reads as a moment. -/
def HasPlainTexts (filter : Filter) : Prop :=
  ∀ value, filter.ComparesWith (.text value) → Instant.read? value = none

/-- **It is the same filter exactly when no text in it reads as a moment.** -/
theorem reread_eq_self_iff (filter : Filter) :
    filter.reread = filter ↔ filter.HasPlainTexts := by
  rw [Filter.ext_iff_get]
  constructor
  · rintro hSame value ⟨field, constraint, hGet, hOperand⟩
    have hReread : some constraint.reread = some constraint := by
      have hField := hSame field
      rw [get?_reread, hGet] at hField
      exact hField
    have hAll := constraint.reread_eq_self_iff.mp (Option.some.inj hReread)
    exact (Operand.reread_eq_self_iff _).mp (hAll _ hOperand) value rfl
  · intro hNone field
    cases hGet : filter.get? field with
    | none => rw [get?_reread, hGet, Option.map_none]
    | some constraint =>
        have hReread : constraint.reread = constraint := by
          apply constraint.reread_eq_self_iff.mpr
          intro operand hOperand
          apply operand.reread_eq_self_iff.mpr
          rintro value rfl
          exact hNone value ⟨field, constraint, hGet, hOperand⟩
        rw [get?_reread, hGet, Option.map_some, hReread]

theorem hasPlainTexts_of_ofMembers? (members : List (String × Json)) :
    ∀ {before filter : Filter}, before.HasPlainTexts →
      ofMembers? before members = some filter → filter.HasPlainTexts := by
  induction members with
  | nil =>
      intro before filter hBefore h
      cases h
      exact hBefore
  | cons member members ih =>
      intro before filter hBefore h
      obtain ⟨label, content⟩ := member
      rw [ofMembers?] at h
      split at h
      · next field constraint _ hConstraint =>
          refine ih ?_ h
          rintro value ⟨other, found, hGet, hText⟩
          simp only [Filter.set] at hGet
          split at hGet
          · cases hGet
            exact Constraint.read?_eq_none_of_ofJson? hConstraint hText
          · exact hBefore value ⟨other, found, hGet, hText⟩
      · exact absurd h (by simp)

/-- A filter that was read compares with no text that reads as a moment. -/
theorem hasPlainTexts_of_ofJson? {json : Json} {filter : Filter}
    (h : Filter.ofJson? json = some filter) : filter.HasPlainTexts := by
  have hEmpty : Filter.empty.HasPlainTexts := by
    rintro value ⟨field, constraint, hGet, -⟩
    exact absurd hGet (by simp)
  unfold Filter.ofJson? at h
  split at h
  · exact hasPlainTexts_of_ofMembers? _ hEmpty h
  · exact absurd h (by simp)

end Filter

/-! ## The text of a filter -/

theorem Operand.plain_toJson (depth : Nat) (operand : Operand) :
    Json.Plain depth operand.toJson := by
  cases operand with
  | number value => exact .integer depth (Json.fitsWord_toInt value)
  | date moment => exact .text depth _
  | text value => exact .text depth _

theorem Constraint.plain_toJson (depth : Nat) (constraint : Constraint) :
    Json.Plain (depth + 2) constraint.toJson := by
  have hOnly : ∀ {kind : String} {content : Json}, Json.Plain (depth + 1) content →
      Json.Plain (depth + 2) (.object [(kind, content)]) := by
    intro kind content hContent
    apply Json.Plain.object
    intro member hMem
    rw [List.mem_singleton.mp hMem]
    exact hContent
  cases constraint with
  | equals operand => exact hOnly (operand.plain_toJson _)
  | atLeast operand => exact hOnly (operand.plain_toJson _)
  | atMost operand => exact hOnly (operand.plain_toJson _)
  | lessThan operand => exact hOnly (operand.plain_toJson _)
  | containsPattern pattern => exact hOnly (.text _ _)
  | oneOf set =>
      apply hOnly
      apply Json.Plain.list
      intro item hMem
      obtain ⟨text, -, rfl⟩ := List.mem_map.mp hMem
      exact .text _ _

namespace Filter

theorem plain_toJson (depth : Nat) (filter : Filter) : Json.Plain (depth + 3) filter.toJson := by
  apply Json.Plain.object
  intro member hMem
  obtain ⟨entry, -, rfl⟩ := List.mem_map.mp hMem
  exact entry.2.plain_toJson depth

/-- The text of a filter. -/
def write (filter : Filter) : String := Json.render filter.toJson

/-- The filter that a text denotes. -/
def read? (text : String) : Option Filter := (Json.parse? text).bind Filter.ofJson?

/-- The text of a filter is read, operand by operand. -/
theorem read?_write_eq (filter : Filter) : Filter.read? filter.write = some filter.reread := by
  have hPlain : Json.Plain (Json.nestingLimit - 1) filter.toJson := filter.plain_toJson 124
  rw [read?, write, Json.parse?_render hPlain]
  exact filter.ofJson?_toJson

/-- **The text of a filter is read**, and as the same filter exactly when no text that it compares
with reads as a moment.  So it is for filters read off a query and for filters that were read
before. -/
theorem read?_write :
    (∀ filter : Filter, ∃ again, Filter.read? filter.write = some again ∧
      (again = filter ↔
        ∀ value, filter.ComparesWith (.text value) → Instant.read? value = none)) ∧
    (∀ (compiler : Query.Compiler) (query : String) (now : Instant) (filter : Filter),
      compiler.compile query now = .ok filter → Filter.read? filter.write = some filter) ∧
    ∀ (json : Json) (filter : Filter),
      Filter.ofJson? json = some filter → Filter.read? filter.write = some filter := by
  have hSame : ∀ filter : Filter, filter.HasPlainTexts →
      Filter.read? filter.write = some filter := by
    intro filter hTexts
    rw [read?_write_eq, filter.reread_eq_self_iff.mpr hTexts]
  refine ⟨?_, ?_, ?_⟩
  · intro filter
    exact ⟨filter.reread, filter.read?_write_eq, filter.reread_eq_self_iff⟩
  · intro compiler query now filter hCompile
    apply hSame
    intro value hText
    exact absurd hText (Query.not_comparesWith_text_of_compile hCompile value)
  · intro json filter hRead
    exact hSame filter (hasPlainTexts_of_ofJson? hRead)

end Filter

end StaffSearch
