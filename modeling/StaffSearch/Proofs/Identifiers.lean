import StaffSearch.Proofs.Digits
import StaffSearch.Proofs.StoreRuns

/-!
# The identifiers of stored records

A record that is inserted without an identifier gets one for its place, and one that comes with an
identifier keeps it.  Identifiers for places differ from each other (`memoryId_injective`), but they
are not compared with the identifiers that records bring along.  So the identifiers in a store are
different from each other exactly when no record brings the identifier of a place that is taken by a
record without one (`nodup_ids_storedFrom_iff`).

The two records may arrive in either order.
-/

namespace StaffSearch

open StaffSearch.Text

/-- Every record has an identifier, and no two of them have the same. -/
structure HaveOwnIds (held : List Employee) : Prop where
  /-- Every record has an identifier. -/
  isSome_id : ∀ employee ∈ held, employee.id.isSome = true
  /-- No identifier occurs twice. -/
  nodup_ids : (held.map (·.id)).Nodup

/-- The identifiers that the records bring along. -/
def broughtIds (given : List Employee) : List String := given.filterMap (·.id)

/-- No record brings the identifier for the place of a record without one, where the first of the
records goes to `place`. -/
def LeavesPlaceIds (place : Nat) (given : List Employee) : Prop :=
  ∀ i employee, given[i]? = some employee → employee.id = none →
    memoryId (place + i) ∉ broughtIds given

/-! ## Identifiers for places -/

/-- **Different places have different identifiers.** -/
theorem memoryId_injective {i j : Nat} (h : memoryId i = memoryId j) : i = j := by
  have hDigits : Nat.toDigits 10 i = Nat.toDigits 10 j := by
    apply String.ofList_injective
    rw [← Nat.repr_eq_ofList_toDigits, ← Nat.repr_eq_ofList_toDigits]
    exact (String.append_right_inj "mem-").mp h
  rw [← decimalValue_toDigits i, hDigits, decimalValue_toDigits]

@[simp] theorem mem_broughtIds_cons {employee : Employee} {rest : List Employee} {id : String} :
    id ∈ broughtIds (employee :: rest) ↔ employee.id = some id ∨ id ∈ broughtIds rest := by
  simp only [broughtIds, List.mem_filterMap, List.mem_cons, or_and_right, exists_or,
    exists_eq_left]

theorem id_withIdAt (employee : Employee) (place : Nat) :
    (employee.withIdAt place).id = some (employee.id.getD (memoryId place)) := by
  rw [Employee.withIdAt_eq]

/-! ## Identifiers of stored records -/

theorem mem_storedFrom_iff {given : List Employee} {place : Nat} {stored : Employee} :
    stored ∈ storedFrom place given ↔
      ∃ (i : Nat) (employee : Employee),
        given[i]? = some employee ∧ employee.withIdAt (place + i) = stored := by
  simp only [List.mem_iff_getElem?, getElem?_storedFrom, Option.map_eq_some_iff]

theorem isSome_id_of_mem_storedFrom {given : List Employee} {place : Nat} {stored : Employee}
    (hMem : stored ∈ storedFrom place given) : stored.id.isSome = true := by
  obtain ⟨i, employee, -, rfl⟩ := mem_storedFrom_iff.mp hMem
  rw [id_withIdAt]
  rfl

/-- Stored records have the identifiers that were brought along, and the others those for their
places. -/
theorem mem_ids_storedFrom_iff {given : List Employee} {place : Nat} {id : String} :
    some id ∈ (storedFrom place given).map (·.id) ↔
      id ∈ broughtIds given ∨
        ∃ i employee, given[i]? = some employee ∧ employee.id = none ∧
          memoryId (place + i) = id := by
  simp only [List.mem_map, mem_storedFrom_iff]
  constructor
  · rintro ⟨-, ⟨i, employee, hGiven, rfl⟩, hId⟩
    rw [id_withIdAt] at hId
    have hHas := Option.some.inj hId
    cases hBrought : employee.id with
    | some own =>
        rw [hBrought, Option.getD_some] at hHas
        subst hHas
        exact Or.inl (List.mem_filterMap.mpr ⟨employee, List.mem_of_getElem? hGiven, hBrought⟩)
    | none =>
        rw [hBrought, Option.getD_none] at hHas
        exact Or.inr ⟨i, employee, hGiven, hBrought, hHas⟩
  · rintro (hBrought | ⟨i, employee, hGiven, hNone, rfl⟩)
    · obtain ⟨employee, hMem, hId⟩ := List.mem_filterMap.mp hBrought
      obtain ⟨i, hGiven⟩ := List.mem_iff_getElem?.mp hMem
      refine ⟨_, ⟨i, employee, hGiven, rfl⟩, ?_⟩
      rw [id_withIdAt, hId, Option.getD_some]
    · refine ⟨_, ⟨i, employee, hGiven, rfl⟩, ?_⟩
      rw [id_withIdAt, hNone, Option.getD_none]

theorem leavesPlaceIds_cons_iff {place : Nat} {employee : Employee} {rest : List Employee} :
    LeavesPlaceIds place (employee :: rest) ↔
      (employee.id = none → memoryId place ∉ broughtIds rest) ∧
      (∀ i other, rest[i]? = some other → other.id = none →
        employee.id ≠ some (memoryId (place + 1 + i))) ∧
      LeavesPlaceIds (place + 1) rest := by
  have hPlace : ∀ i, place + (i + 1) = place + 1 + i := by omega
  constructor
  · intro hLeaves
    refine ⟨?_, ?_, ?_⟩
    · intro hNone hMem
      exact hLeaves 0 employee rfl hNone (mem_broughtIds_cons.mpr (Or.inr hMem))
    · intro i other hOther hNone hFirst
      rw [← hPlace] at hFirst
      exact hLeaves (i + 1) other hOther hNone (mem_broughtIds_cons.mpr (Or.inl hFirst))
    · intro i other hOther hNone hMem
      rw [← hPlace] at hMem
      exact hLeaves (i + 1) other hOther hNone (mem_broughtIds_cons.mpr (Or.inr hMem))
  · rintro ⟨hFirst, hOthers, hRest⟩ i other hOther hNone hMem
    cases i with
    | zero =>
        cases hOther
        rcases mem_broughtIds_cons.mp hMem with hOwn | hMem
        · rw [hNone] at hOwn
          exact absurd hOwn (by simp)
        · exact hFirst hNone hMem
    | succ i =>
        rw [hPlace] at hMem
        rcases mem_broughtIds_cons.mp hMem with hOwn | hMem
        · exact hOthers i other hOther hNone hOwn
        · exact hRest i other hOther hNone hMem

/-- The first record has an identifier of its own among those stored behind it. -/
theorem firstId_not_mem_iff {place : Nat} {employee : Employee} {rest : List Employee}
    (hBrought : (broughtIds (employee :: rest)).Nodup) :
    some (employee.id.getD (memoryId place)) ∉ (storedFrom (place + 1) rest).map (·.id) ↔
      (employee.id = none → memoryId place ∉ broughtIds rest) ∧
      ∀ i other, rest[i]? = some other → other.id = none →
        employee.id ≠ some (memoryId (place + 1 + i)) := by
  rw [mem_ids_storedFrom_iff]
  cases hId : employee.id with
  | some own =>
      rw [broughtIds, List.filterMap_cons_some hId] at hBrought
      constructor
      · intro hFirst
        refine ⟨fun hNone => absurd hNone (by simp), ?_⟩
        intro i other hOther hNone hSame
        exact hFirst (Or.inr ⟨i, other, hOther, hNone, (Option.some.inj hSame).symm⟩)
      · rintro ⟨-, hOthers⟩ (hMem | ⟨i, other, hOther, hNone, rfl⟩)
        · exact (List.nodup_cons.mp hBrought).1 hMem
        · exact hOthers i other hOther hNone rfl
  | none =>
      constructor
      · intro hFirst
        refine ⟨fun _ hMem => hFirst (Or.inl hMem), ?_⟩
        intro i other _ _ hSame
        exact absurd hSame (by simp)
      · rintro ⟨hFirst, -⟩ (hMem | ⟨i, other, -, -, hSame⟩)
        · exact hFirst rfl hMem
        · have hPlace := memoryId_injective hSame
          omega

/-- **When identifiers repeat.**  The identifiers of stored records are all different exactly when
those that were brought along differ from those for the places of the other records. -/
theorem nodup_ids_storedFrom_iff {given : List Employee} (hBrought : (broughtIds given).Nodup) :
    ∀ {place : Nat}, ((storedFrom place given).map (·.id)).Nodup ↔ LeavesPlaceIds place given := by
  induction given with
  | nil =>
      intro place
      exact iff_of_true List.nodup_nil fun i employee hGiven => absurd hGiven (by simp)
  | cons employee rest ih =>
      intro place
      have hRest : (broughtIds rest).Nodup :=
        hBrought.sublist ((List.sublist_cons_self employee rest).filterMap _)
      rw [storedFrom, List.map_cons, List.nodup_cons, id_withIdAt, firstId_not_mem_iff hBrought,
        ih hRest, leavesPlaceIds_cons_iff, and_assoc]

/-- The identifiers that stored records have are all there and all different exactly under the same
condition. -/
theorem haveOwnIds_storedFrom_iff {given : List Employee} {place : Nat}
    (hBrought : (broughtIds given).Nodup) :
    HaveOwnIds (storedFrom place given) ↔ LeavesPlaceIds place given := by
  rw [← nodup_ids_storedFrom_iff hBrought]
  exact ⟨HaveOwnIds.nodup_ids, fun hIds => ⟨fun _ => isSome_id_of_mem_storedFrom, hIds⟩⟩

/-- A store whose records have their own identifiers had so before. -/
theorem HaveOwnIds.of_prefix {held stored : List Employee} (hStored : HaveOwnIds stored)
    (hPrefix : held <+: stored) : HaveOwnIds held where
  isSome_id employee hMem := hStored.isSome_id employee (hPrefix.subset hMem)
  nodup_ids := hStored.nodup_ids.sublist (hPrefix.sublist.map _)

/-! ## Runs -/

namespace Store

/--
**When the identifiers in a store stay different.**  Records are inserted into an empty store, and
those that bring identifiers bring different ones.  Then the records held have their own identifiers
at every moment exactly when no record brings the identifier for the place of a record without one.
-/
theorem haveOwnIds_run_iff {requests : List Request}
    (hBrought : (broughtIds (requests.flatMap Request.given)).Nodup) :
    (∀ count, ∃ held, ((memory []).run (requests.take count)).2 = memory held ∧
      HaveOwnIds held) ↔
      LeavesPlaceIds 1 (requests.flatMap Request.given) := by
  have hStored := records_run requests []
  rw [List.nil_append, List.length_nil, Nat.zero_add] at hStored
  rw [← haveOwnIds_storedFrom_iff hBrought]
  constructor
  · intro hAlways
    obtain ⟨held, hHeld, hOwn⟩ := hAlways requests.length
    rw [List.take_length, hStored] at hHeld
    cases hHeld
    exact hOwn
  · intro hOwn count
    rw [← List.take_append_drop count requests] at hStored
    have hHeld := records_run (requests.take count) []
    have hPrefix := prefix_of_run hHeld hStored
    rw [List.take_append_drop] at hPrefix
    exact ⟨_, hHeld, hOwn.of_prefix hPrefix⟩

/-- Records come with identifiers and without, and one brings the identifier for a place that is
taken by a record with an identifier of its own. -/
theorem haveOwnIds_run_mixed :
    (broughtIds ([Request.insert [{ id := some "x-1" }, {}], .findAll,
      .insert [{ id := some "mem-1" }, {}]].flatMap Request.given)).Nodup ∧
      ∀ count, ∃ held, ((memory []).run ([.insert [{ id := some "x-1" }, {}], .findAll,
        .insert [{ id := some "mem-1" }, {}]].take count)).2 = memory held ∧ HaveOwnIds held := by
  refine ⟨by decide, (haveOwnIds_run_iff (by decide)).mpr ?_⟩
  intro i employee hGiven hNone
  match i with
  | 0 | 2 =>
      cases hGiven
      exact absurd hNone (by simp)
  | 1 | 3 => decide +kernel

/-- The second record comes without an identifier, and the first has brought the one for its place.
-/
theorem repeated_id_run :
    (broughtIds ([Request.insert [{ id := some "mem-2", name := "a" }],
      .insert [{ name := "b" }]].flatMap Request.given)).Nodup ∧
      ¬ ∃ held, ((memory []).run [.insert [{ id := some "mem-2", name := "a" }],
        .insert [{ name := "b" }]]).2 = memory held ∧ HaveOwnIds held := by
  refine ⟨by decide, ?_⟩
  rintro ⟨held, hHeld, hOwn⟩
  cases hHeld
  exact absurd hOwn.nodup_ids (by decide +kernel)

end Store

end StaffSearch
