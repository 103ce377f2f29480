import StaffSearch.Proofs.Compilation

/-!
# Compilers from any list of extractors

A compiler can be assembled from extractors exactly when no two of them own the same field.  What an
extractor adds to a filter is read off the query alone, and it is added on the extractor's own
field, so nothing that one extractor does is visible to another.  Two things follow: the draft never
refuses a constraint, and the order in which the extractors are run does not show in the filter.

## Main results

* `findClash?_eq_none_iff` — a clash is found exactly when two extractors own one field.
* `compile_ne_internal` — a compiler that could be assembled never reports a broken invariant.
* `compile_of_perm` — compilers that differ in the order of their extractors compile alike.
-/

namespace StaffSearch.Query

/-! ## Clashes -/

/-- No two of the extractors own the same field. -/
def OwnFieldsApart (extractors : List Extractor) : Prop :=
  extractors.Pairwise fun a b => a.field ≠ b.field

theorem nodup_fields_iff (extractors : List Extractor) :
    (extractors.map Extractor.field).Nodup ↔ OwnFieldsApart extractors := by
  rw [OwnFieldsApart, List.Nodup, List.pairwise_map]

theorem OwnFieldsApart.of_perm {extractors others : List Extractor}
    (hApart : OwnFieldsApart extractors) (hPerm : extractors.Perm others) :
    OwnFieldsApart others :=
  hPerm.pairwise hApart fun hFields => hFields.symm

theorem lookup_eq_none_iff_not_mem (owned : List (Field × String)) (field : Field) :
    owned.lookup field = none ↔ field ∉ owned.map (·.1) := by
  rw [List.lookup_eq_none_iff, List.mem_map]
  constructor
  · rintro hNone ⟨entry, hMem, rfl⟩
    exact absurd (hNone entry hMem) (by simp)
  · intro hNotMem entry hMem
    rw [bne_iff_ne]
    rintro rfl
    exact hNotMem ⟨entry, hMem, rfl⟩

/-- The search for a clash carries the fields that have an owner: none of them may be claimed
again, and the remaining extractors must own fields apart. -/
theorem findClash?_eq_none_iff (extractors : List Extractor) :
    ∀ owned, findClash? owned extractors = none ↔
      (∀ extractor ∈ extractors, extractor.field ∉ owned.map (·.1)) ∧
        OwnFieldsApart extractors := by
  induction extractors with
  | nil =>
      intro owned
      simp [findClash?, OwnFieldsApart]
  | cons first rest ih =>
      intro owned
      have hOwner := lookup_eq_none_iff_not_mem owned first.field
      rw [findClash?, OwnFieldsApart, List.pairwise_cons]
      cases hLookup : owned.lookup first.field with
      | some owner =>
          rw [hLookup] at hOwner
          have hClaimed : ¬ first.field ∉ owned.map (·.1) := fun h =>
            absurd (hOwner.mpr h) (by simp)
          constructor
          · intro h
            exact absurd h (by simp)
          · intro h
            exact absurd (h.1 first List.mem_cons_self) hClaimed
      | none =>
          have hFirst := hOwner.mp hLookup
          dsimp only
          rw [ih]
          constructor
          · rintro ⟨hRest, hApart⟩
            refine ⟨?_, ?_, hApart⟩
            · intro extractor hMem
              rcases List.mem_cons.mp hMem with rfl | hMem
              · exact hFirst
              · exact fun h => hRest extractor hMem (List.mem_cons_of_mem _ h)
            · intro extractor hMem hSame
              exact hRest extractor hMem (by simp [hSame])
          · rintro ⟨hAll, hDiffer, hApart⟩
            refine ⟨?_, hApart⟩
            intro extractor hMem hClaimed
            rw [List.map_cons, List.mem_cons] at hClaimed
            rcases hClaimed with hSame | hClaimed
            · exact hDiffer extractor hMem hSame.symm
            · exact hAll extractor (List.mem_cons_of_mem _ hMem) hClaimed

namespace Compiler

section Assembling

variable {gate : Gate} {binder : Binder} {extractors : List Extractor} {compiler : Compiler}

/-- Extractors that own fields apart make a compiler, with these parts. -/
theorem assemble_eq_ok_iff :
    assemble gate binder extractors = .ok compiler ↔
      OwnFieldsApart extractors ∧ compiler = { gate, binder, extractors } := by
  have hFree : findClash? [] extractors = none ↔ OwnFieldsApart extractors := by
    rw [findClash?_eq_none_iff]
    simp
  cases hClash : findClash? [] extractors with
  | none =>
      rw [assemble_eq_ok hClash, Except.ok.injEq]
      constructor
      · intro h
        exact ⟨hFree.mp hClash, h.symm⟩
      · intro h
        exact h.2.symm
  | some clash =>
      constructor
      · intro h
        rw [assemble, hClash] at h
        exact absurd h (by simp)
      · intro h
        rw [hFree.mpr h.1] at hClash
        exact absurd hClash (by simp)

theorem exists_assemble_iff :
    (∃ compiler, assemble gate binder extractors = .ok compiler) ↔ OwnFieldsApart extractors := by
  constructor
  · rintro ⟨compiler, h⟩
    exact (assemble_eq_ok_iff.mp h).1
  · intro hApart
    exact ⟨_, assemble_eq_ok_iff.mpr ⟨hApart, rfl⟩⟩

/-- Extractors that share a field are a fault of the configuration. -/
theorem assemble_of_shared (h : ¬ OwnFieldsApart extractors) :
    ∃ reason, assemble gate binder extractors = .error (.configuration reason) := by
  rw [assemble]
  cases hClash : findClash? [] extractors with
  | none => exact absurd ((findClash?_eq_none_iff extractors []).mp hClash).2 h
  | some clash => exact ⟨_, rfl⟩

end Assembling

/-! ## Running the extractors -/

/-- A compiler whose extractors own fields apart reports no broken invariant. -/
theorem compile_ne_internal {compiler : Compiler} (hApart : OwnFieldsApart compiler.extractors)
    (query : String) (now : Instant) (reason : String) :
    compiler.compile query now ≠ .error (.internal reason) := by
  by_cases hToken : tokenize query = []
  · rw [compiler.compile_of_no_token now hToken]
    simp [SearchError.queryRequired]
  · by_cases hBlocked : ∃ token ∈ tokenize query, token.stem ∈ compiler.gate.blocked
    · obtain ⟨text, hRejected, -⟩ := compiler.compile_of_blocked now hBlocked
      rw [hRejected]
      simp
    · have hCheck := Gate.check_of_unblocked fun token hMem hStem => hBlocked ⟨token, hMem, hStem⟩
      obtain ⟨filter, hOk, -⟩ :=
        compiler.compile_of_nodup ((nodup_fields_iff _).mpr hApart) now hToken hCheck
      rw [hOk]
      simp

/-- The order of the extractors does not show: each field has the same owner, if it has one, and
the owner finds the same. -/
theorem compile_of_perm {gate : Gate} {binder : Binder} {extractors others : List Extractor}
    (hApart : OwnFieldsApart extractors) (hPerm : extractors.Perm others) (query : String)
    (now : Instant) :
    compile ⟨gate, binder, others⟩ query now = compile ⟨gate, binder, extractors⟩ query now := by
  by_cases hToken : tokenize query = []
  · rw [compile_of_no_token _ now hToken, compile_of_no_token _ now hToken]
  · cases hCheck : gate.check (tokenize query) with
    | error cause =>
        rw [compile_of_token _ now hToken, compile_of_token _ now hToken]
        simp only [hCheck]
    | ok =>
        obtain ⟨filter, hOk, hFound, hFree⟩ :=
          compile_of_nodup ⟨gate, binder, extractors⟩ ((nodup_fields_iff _).mpr hApart) now hToken
            hCheck
        obtain ⟨other, hOther, hFound', hFree'⟩ :=
          compile_of_nodup ⟨gate, binder, others⟩
            ((nodup_fields_iff _).mpr (hApart.of_perm hPerm)) now hToken hCheck
        rw [hOk, hOther, Except.ok.injEq, Filter.ext_iff_get]
        intro field
        by_cases hOwned : field ∈ extractors.map Extractor.field
        · obtain ⟨owner, hMem, rfl⟩ := List.mem_map.mp hOwned
          rw [hFound owner hMem, hFound' owner (hPerm.mem_iff.mp hMem)]
          rfl
        · have hOwned' : field ∉ others.map Extractor.field := fun h =>
            hOwned ((hPerm.map Extractor.field).mem_iff.mpr h)
          rw [hFree field hOwned, hFree' field hOwned']

/--
**Assembling a compiler** from any extractors.  It succeeds exactly when no two of them own the same
field, and is refused as a fault of the configuration otherwise.  The compiler never reports a
broken invariant.  For the same extractors in another order, assembling succeeds as well or as
little, and the compiler gives the same answer to every query at every moment.
-/
theorem assemble_extractors (gate : Gate) (binder : Binder) (extractors : List Extractor) :
    ((∃ compiler, assemble gate binder extractors = .ok compiler) ↔ OwnFieldsApart extractors) ∧
    (¬ OwnFieldsApart extractors →
      ∃ reason, assemble gate binder extractors = .error (.configuration reason)) ∧
    (∀ compiler, assemble gate binder extractors = .ok compiler →
      ∀ query now reason, compiler.compile query now ≠ .error (.internal reason)) ∧
    (∀ others, extractors.Perm others →
      ((∃ other, assemble gate binder others = .ok other) ↔
        ∃ compiler, assemble gate binder extractors = .ok compiler) ∧
      ∀ compiler other, assemble gate binder extractors = .ok compiler →
        assemble gate binder others = .ok other →
          ∀ query now, other.compile query now = compiler.compile query now) := by
  refine ⟨exists_assemble_iff, assemble_of_shared, ?_, ?_⟩
  · intro compiler h
    obtain ⟨hApart, rfl⟩ := assemble_eq_ok_iff.mp h
    exact compile_ne_internal hApart
  · intro others hPerm
    refine ⟨?_, ?_⟩
    · rw [exists_assemble_iff, exists_assemble_iff]
      exact ⟨fun h => h.of_perm hPerm.symm, fun h => h.of_perm hPerm⟩
    · intro compiler other h hOther
      obtain ⟨hApart, rfl⟩ := assemble_eq_ok_iff.mp h
      obtain ⟨-, rfl⟩ := assemble_eq_ok_iff.mp hOther
      exact compile_of_perm hApart hPerm

end Compiler

end StaffSearch.Query
