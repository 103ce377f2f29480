import StaffSearch.Proofs.ExtendedSettings
import StaffSearch.Settings.Basic

/-!
# The order of entries in the settings

The settings add terms to the vocabularies by entries, each of them under the name of a category.
Names are read without regard to letter case, so several entries can be for one category, and the
order of the entries is then the order in which its terms come into the vocabulary.

In any order the same terms come in (`CompilerSettings.Reorders.perm_terms`), since which of them
are passed over does not depend on the order.  So the skills of a query are the same.  Of the
states, departments and degrees only the first one that is present makes it into the filter, and
that is the first one in the vocabulary.  Here the order of the entries for one category decides
(`CompilerSettings.Contests`).
-/

namespace StaffSearch.Query

open StaffSearch.Text

/-! ## Terms in any order -/

/-- Where a category allows several terms, their order does not show. -/
theorem termConstraint?_of_perm {category : Category} (hSeveral : category.allowsSeveral = true)
    {present others : List Term} (hPerm : present.Perm others) :
    Extractor.termConstraint? category present = Extractor.termConstraint? category others := by
  have hSet : TextSet.ofList (present.map (·.value)) = TextSet.ofList (others.map (·.value)) := by
    apply TextSet.eq_of_mem_iff
    intro text
    simpa using (hPerm.map _).mem_iff
  rw [Extractor.termConstraint?, Extractor.termConstraint?, if_pos hSeveral, if_pos hSeveral, hSet,
    hPerm.isEmpty_eq]

/-! ## Entries in another order -/

theorem eq_of_perm_of_length_le_one {α : Type} {xs ys : List α} (hPerm : xs.Perm ys)
    (hOne : xs.length ≤ 1) : xs = ys := by
  match xs with
  | [] => exact hPerm.nil_eq
  | [x] => exact hPerm.singleton_eq

/-- The second settings are the first ones with the entries for the vocabularies in some order. -/
structure CompilerSettings.Reorders (settings reordered : CompilerSettings) : Prop where
  /-- The window stays. -/
  window : reordered.window = settings.window
  /-- The blocked terms stay. -/
  blocked : reordered.blockedTerms = settings.blockedTerms
  /-- The entries are the same up to their order. -/
  entries : settings.extraTerms.Perm reordered.extraTerms

/-- The entries for a category. -/
def CompilerSettings.entriesOf (settings : CompilerSettings) (category : Category) :
    List (Category × List String) :=
  settings.extraTerms.filter (·.1 = category)

/-- Several entries are for the category that describes the field, and a query cannot name several
of its terms. -/
def CompilerSettings.Contests (settings : CompilerSettings) (field : Field) : Prop :=
  ∃ category : Category, category.field = field ∧ category.allowsSeveral = false ∧
    1 < (settings.entriesOf category).length

theorem CompilerSettings.termsOf_eq (settings : CompilerSettings) (category : Category) :
    settings.termsOf category = (settings.entriesOf category).flatMap (·.2) := by
  rw [termsOf, entriesOf]
  induction settings.extraTerms with
  | nil => rfl
  | cons entry rest ih =>
      rw [List.flatMap_cons, ih]
      by_cases hCategory : entry.1 = category
      · rw [if_pos hCategory, List.filter_cons_of_pos (by simpa using hCategory), List.flatMap_cons]
      · rw [if_neg hCategory, List.filter_cons_of_neg (by simpa using hCategory), List.nil_append]

section Reordering

variable {settings reordered : CompilerSettings}

/-- **A vocabulary has the same terms** for entries in any order. -/
theorem CompilerSettings.Reorders.perm_terms (h : settings.Reorders reordered)
    (category : Category) :
    ((Compiler.lexiconOf settings.extraTerms).terms category).Perm
      ((Compiler.lexiconOf reordered.extraTerms).terms category) := by
  have hNodup : ∀ extraTerms, ((Compiler.lexiconOf extraTerms).terms category).Nodup := by
    intro extraTerms
    have hValues := List.pairwise_map.mp (Compiler.nodup_values_lexiconOf extraTerms category)
    exact hValues.imp fun hApart hSame => hApart (congrArg Term.value hSame)
  have hTexts : ∀ text, text ∈ settings.termsOf category ↔ text ∈ reordered.termsOf category := by
    intro text
    exact (h.entries.flatMap_right _).mem_iff
  apply (List.perm_ext_iff_of_nodup (hNodup _) (hNodup _)).mpr
  intro term
  rw [Compiler.terms_lexiconOf, Compiler.terms_lexiconOf, mem_foldl_addTerm_iff,
    mem_foldl_addTerm_iff]
  simp only [hTexts]

/-- With one entry for a category there is only one order. -/
theorem CompilerSettings.Reorders.terms_eq (h : settings.Reorders reordered) {category : Category}
    (hOne : (settings.entriesOf category).length ≤ 1) :
    (Compiler.lexiconOf settings.extraTerms).terms category =
      (Compiler.lexiconOf reordered.extraTerms).terms category := by
  have hPerm : (settings.entriesOf category).Perm (reordered.entriesOf category) :=
    h.entries.filter _
  rw [Compiler.terms_lexiconOf, Compiler.terms_lexiconOf, CompilerSettings.termsOf_eq,
    CompilerSettings.termsOf_eq, eq_of_perm_of_length_le_one hPerm hOne]

end Reordering

/-! ## Compiling -/

/-- The field of a category holds what the terms that are present ask for. -/
theorem get?_category_eq {settings : CompilerSettings} {compiler : Compiler}
    (hCompiler : Compiler.ofSettings settings = .ok compiler) {query : String} {now : Instant}
    {filter : Filter} (hFilter : compiler.compile query now = .ok filter) (category : Category) :
    filter.get? category.field =
      Extractor.termConstraint? category
        (((Compiler.lexiconOf settings.extraTerms).terms category).filter
          (·.isPresentIn (tokenize query))) := by
  obtain ⟨-, hOwned, -⟩ := Compiler.of_compile_eq_ok hCompiler hFilter
  exact hOwned _ (ofLexicon_mem_standardExtractors _ category)

/-- What is read off a query with the first settings is what is read off it with the second ones,
unless the field is contested. -/
theorem CompilerSettings.Reorders.get?_eq {settings reordered : CompilerSettings}
    (h : settings.Reorders reordered) {compiler other : Compiler}
    (hCompiler : Compiler.ofSettings settings = .ok compiler)
    (hOther : Compiler.ofSettings reordered = .ok other) {query : String} {now : Instant}
    {filter found : Filter} (hFilter : compiler.compile query now = .ok filter)
    (hFound : other.compile query now = .ok found) {field : Field}
    (hField : ¬ settings.Contests field) : found.get? field = filter.get? field := by
  by_cases hCategory : ∃ category : Category, category.field = field
  · obtain ⟨category, rfl⟩ := hCategory
    rw [get?_category_eq hCompiler hFilter, get?_category_eq hOther hFound]
    by_cases hSeveral : category.allowsSeveral = true
    · exact termConstraint?_of_perm hSeveral ((h.perm_terms category).symm.filter _)
    · have hOne : (settings.entriesOf category).length ≤ 1 := by
        apply Nat.le_of_not_lt
        intro hMore
        exact hField ⟨category, rfl, Bool.eq_false_iff.mpr hSeveral, hMore⟩
      rw [h.terms_eq hOne]
  · refine get?_eq_of_window_eq h.window hCompiler hOther hFilter hFound ?_
    intro category hSame
    exact hCategory ⟨category, hSame.symm⟩

/-- Two outcomes of a compilation are the same, but for what the filters say about some fields. -/
def AgreeOutside (fields : Field → Prop) :
    Except SearchError Filter → Except SearchError Filter → Prop
  | .ok filter, .ok found => ∀ field, ¬ fields field → found.get? field = filter.get? field
  | .error cause, .error other => other = cause
  | _, _ => False

theorem AgreeOutside.eq {fields : Field → Prop} {outcome other : Except SearchError Filter}
    (h : AgreeOutside fields outcome other) (hNone : ∀ field, ¬ fields field) :
    other = outcome := by
  match outcome, other with
  | .ok filter, .ok found =>
      rw [Except.ok.injEq, Filter.ext_iff_get]
      exact fun field => h field (hNone field)
  | .error cause, .error other => exact congrArg _ h

theorem CompilerSettings.Reorders.agreeOutside {settings reordered : CompilerSettings}
    (h : settings.Reorders reordered) {compiler other : Compiler}
    (hCompiler : Compiler.ofSettings settings = .ok compiler)
    (hOther : Compiler.ofSettings reordered = .ok other) (query : String) (now : Instant) :
    AgreeOutside settings.Contests (compiler.compile query now) (other.compile query now) := by
  have hGate : other.gate = compiler.gate := by
    rw [Compiler.gate_eq_of_ofSettings hCompiler, Compiler.gate_eq_of_ofSettings hOther, h.blocked]
  by_cases hToken : tokenize query = []
  · rw [compiler.compile_of_no_token now hToken, other.compile_of_no_token now hToken]
    rfl
  · cases hCheck : compiler.gate.check (tokenize query) with
    | error cause =>
        rw [compiler.compile_of_token now hToken, other.compile_of_token now hToken, hGate]
        simp only [hCheck]
        rfl
    | ok =>
        have hPasses : ∀ token ∈ tokenize query, token.stem ∉ compiler.gate.blocked := by
          intro token hMem hStem
          have hFree := Gate.check_eq_ok_iff.mp hCheck token hMem
          rw [Gate.blocks_iff.mpr hStem] at hFree
          exact absurd hFree (by decide)
        obtain ⟨filter, hFilter, -⟩ := Compiler.compile_of_unblocked hCompiler now hToken hPasses
        obtain ⟨found, hFound, -⟩ :=
          Compiler.compile_of_unblocked hOther now hToken (hGate ▸ hPasses)
        rw [hFilter, hFound]
        intro field hField
        exact h.get?_eq hCompiler hOther hFilter hFound hField

end StaffSearch.Query

namespace StaffSearch.Settings

open StaffSearch.Query

/-! ## Names of categories -/

/-- An entry under the category that its name stands for. -/
def resolved? (entry : String × List String) : Option (Category × List String) :=
  match Category.parse entry.1 with
  | .ok category => some (category, entry.2)
  | .error _ => none

/-- Every entry has the name of a category. -/
def AllResolved (entries : List (String × List String)) : Prop :=
  ∀ entry ∈ entries, (resolved? entry).isSome = true

theorem resolveTerms_of_allResolved {entries : List (String × List String)} :
    AllResolved entries → resolveTerms entries = .ok (entries.filterMap resolved?) := by
  induction entries with
  | nil =>
      intro _
      rfl
  | cons entry rest ih =>
      intro hAll
      obtain ⟨name, terms⟩ := entry
      have hHere := hAll (name, terms) List.mem_cons_self
      have hRest := ih fun other hMem => hAll other (List.mem_cons_of_mem _ hMem)
      cases hParse : Category.parse name with
      | error cause =>
          simp [resolved?, hParse] at hHere
      | ok category =>
          have hEntry : resolved? (name, terms) = some (category, terms) := by
            simp only [resolved?, hParse]
          simp only [resolveTerms, hParse, hRest, List.filterMap_cons_some hEntry]

theorem allResolved_of_resolveTerms {entries : List (String × List String)} :
    ∀ {extraTerms : List (Category × List String)},
      resolveTerms entries = .ok extraTerms → AllResolved entries := by
  induction entries with
  | nil =>
      intro _ _ entry hMem
      exact absurd hMem List.not_mem_nil
  | cons entry rest ih =>
      intro extraTerms hResolved
      obtain ⟨name, terms⟩ := entry
      rw [resolveTerms] at hResolved
      split at hResolved
      · exact absurd hResolved (by simp)
      · next category hParse =>
          split at hResolved
          · exact absurd hResolved (by simp)
          · next others hRest =>
              intro other hMem
              rcases List.mem_cons.mp hMem with rfl | hMem
              · simp [resolved?, hParse]
              · exact ih hRest other hMem

/-- **Entries can be resolved** when each of them has the name of a category, and then each is put
under its category. -/
theorem resolveTerms_eq_ok_iff {entries : List (String × List String)}
    {extraTerms : List (Category × List String)} :
    resolveTerms entries = .ok extraTerms ↔
      AllResolved entries ∧ extraTerms = entries.filterMap resolved? := by
  constructor
  · intro hResolved
    have hAll := allResolved_of_resolveTerms hResolved
    rw [resolveTerms_of_allResolved hAll] at hResolved
    exact ⟨hAll, (Except.ok.inj hResolved).symm⟩
  · rintro ⟨hAll, rfl⟩
    exact resolveTerms_of_allResolved hAll

/-- The settings of the compiler exist when every entry has the name of a category. -/
theorem compilerSettings_eq_ok_iff {settings : Settings} {given : CompilerSettings} :
    settings.compilerSettings = .ok given ↔
      AllResolved settings.search.extraTerms ∧
        given =
          { window := settings.search.window
            blockedTerms := settings.search.blockedTerms
            extraTerms := settings.search.extraTerms.filterMap resolved? } := by
  rw [compilerSettings]
  constructor
  · intro hSettings
    cases hResolved : resolveTerms settings.search.extraTerms with
    | error cause =>
        rw [hResolved] at hSettings
        exact absurd hSettings (by simp [Except.map])
    | ok extraTerms =>
        obtain ⟨hAll, rfl⟩ := resolveTerms_eq_ok_iff.mp hResolved
        rw [hResolved] at hSettings
        exact ⟨hAll, (Except.ok.inj hSettings).symm⟩
  · rintro ⟨hAll, rfl⟩
    rw [resolveTerms_of_allResolved hAll]
    rfl

/-! ## Settings in another order -/

/-- The settings with other entries for the vocabularies. -/
def withEntries (settings : Settings) (entries : List (String × List String)) : Settings :=
  { settings with search := { settings.search with extraTerms := entries } }

section Reordering

variable {settings : Settings} {entries : List (String × List String)}

theorem exists_compilerSettings_iff_of_perm (hPerm : settings.search.extraTerms.Perm entries) :
    (∃ given, settings.compilerSettings = .ok given) ↔
      ∃ reordered, (settings.withEntries entries).compilerSettings = .ok reordered := by
  have hResolved : AllResolved settings.search.extraTerms ↔ AllResolved entries := by
    simp only [AllResolved, hPerm.mem_iff]
  simp only [compilerSettings_eq_ok_iff, exists_and_left, exists_eq, and_true]
  exact hResolved

theorem reorders_of_perm (hPerm : settings.search.extraTerms.Perm entries)
    {given reordered : CompilerSettings} (hGiven : settings.compilerSettings = .ok given)
    (hReordered : (settings.withEntries entries).compilerSettings = .ok reordered) :
    given.Reorders reordered := by
  obtain ⟨-, rfl⟩ := compilerSettings_eq_ok_iff.mp hGiven
  obtain ⟨-, rfl⟩ := compilerSettings_eq_ok_iff.mp hReordered
  exact ⟨rfl, rfl, hPerm.filterMap _⟩

end Reordering

/--
**The order of entries in the settings.**  In any order they give settings for a compiler or in
none.  The compilers give the same answer to every query at every moment, but for what a filter says
about a field that is contested: one of whose terms a query can name one only, and for which there
are several entries.
-/
theorem compile_of_perm_entries (settings : Settings) {entries : List (String × List String)}
    (hPerm : settings.search.extraTerms.Perm entries) :
    ((∃ given, settings.compilerSettings = .ok given) ↔
      ∃ reordered, (settings.withEntries entries).compilerSettings = .ok reordered) ∧
    ∀ given reordered, settings.compilerSettings = .ok given →
      (settings.withEntries entries).compilerSettings = .ok reordered →
        ∀ compiler other, Compiler.ofSettings given = .ok compiler →
          Compiler.ofSettings reordered = .ok other → ∀ query now,
            AgreeOutside given.Contests (compiler.compile query now) (other.compile query now) ∧
            ((∀ field, ¬ given.Contests field) →
              other.compile query now = compiler.compile query now) := by
  refine ⟨exists_compilerSettings_iff_of_perm hPerm, ?_⟩
  intro given reordered hGiven hReordered compiler other hCompiler hOther query now
  have hAgree :=
    (reorders_of_perm hPerm hGiven hReordered).agreeOutside hCompiler hOther query now
  exact ⟨hAgree, hAgree.eq⟩

/-- Two entries are for skills, in whatever letters; the only one for states is moved between them.
-/
theorem compile_of_perm_entries_skills :
    ∃ given reordered,
      compilerSettings { search := { extraTerms :=
        [("Skill", ["Rust"]), (" skill", ["Go"]), ("STATE", ["Oregon"])] } } = .ok given ∧
      (withEntries { search := { extraTerms :=
        [("Skill", ["Rust"]), (" skill", ["Go"]), ("STATE", ["Oregon"])] } }
        [(" skill", ["Go"]), ("STATE", ["Oregon"]), ("Skill", ["Rust"])]).compilerSettings =
          .ok reordered ∧
      ∃ compiler other, Compiler.ofSettings given = .ok compiler ∧
        Compiler.ofSettings reordered = .ok other ∧
          ∀ query now, other.compile query now = compiler.compile query now := by
  have hPerm : [("Skill", ["Rust"]), (" skill", ["Go"]), ("STATE", ["Oregon"])].Perm
      [(" skill", ["Go"]), ("STATE", ["Oregon"]), ("Skill", ["Rust"])] := by decide
  obtain ⟨compiler, hCompiler⟩ := Compiler.exists_ofSettings
    { extraTerms := [(.skill, ["Rust"]), (.skill, ["Go"]), (.state, ["Oregon"])] } (by decide)
  obtain ⟨other, hOther⟩ := Compiler.exists_ofSettings
    { extraTerms := [(.skill, ["Go"]), (.state, ["Oregon"]), (.skill, ["Rust"])] } (by decide)
  refine ⟨_, _, rfl, rfl, compiler, other, hCompiler, hOther, ?_⟩
  intro query now
  apply ((compile_of_perm_entries { search := { extraTerms := _ } } hPerm).2 _ _ rfl rfl compiler
    other hCompiler hOther query now).2
  rintro field ⟨category, rfl, hSingle, hMore⟩
  cases category with
  | skill => exact absurd hSingle (by decide)
  | state | department | education => exact absurd hMore (by decide)

/-- Two entries are for states, and the first of them decides. -/
theorem order_of_entries_shows :
    ∃ given reordered,
      compilerSettings { search := { extraTerms :=
        [("State", ["Oregon"]), ("state", ["Nevada"])] } } = .ok given ∧
      (withEntries { search := { extraTerms := [("State", ["Oregon"]), ("state", ["Nevada"])] } }
        [("state", ["Nevada"]), ("State", ["Oregon"])]).compilerSettings = .ok reordered ∧
      ∃ compiler other, Compiler.ofSettings given = .ok compiler ∧
        Compiler.ofSettings reordered = .ok other ∧
          ∀ now, other.compile "oregon or nevada" now ≠ compiler.compile "oregon or nevada" now := by
  obtain ⟨compiler, hCompiler⟩ := Compiler.exists_ofSettings
    { extraTerms := [(.state, ["Oregon"]), (.state, ["Nevada"])] } (by decide)
  obtain ⟨other, hOther⟩ := Compiler.exists_ofSettings
    { extraTerms := [(.state, ["Nevada"]), (.state, ["Oregon"])] } (by decide)
  refine ⟨_, _, rfl, rfl, compiler, other, hCompiler, hOther, ?_⟩
  intro now hSame
  have hToken : tokenize "oregon or nevada" ≠ [] := by decide +kernel
  have hPasses : ∀ token ∈ tokenize "oregon or nevada", token.stem ∉ compiler.gate.blocked := by
    -- the gate is the default one, whose stems are known
    obtain ⟨standard, hStandard⟩ := Compiler.exists_ofSettings {} (by decide)
    have hGate := Compiler.gate_eq_of_ofSettings hCompiler
    rw [← Compiler.gate_eq_of_ofSettings hStandard] at hGate
    rw [hGate, Compiler.blocked_of_ofSettings_default hStandard]
    decide +kernel
  obtain ⟨filter, hFilter, -⟩ := Compiler.compile_of_unblocked hCompiler now hToken hPasses
  have hOregon := get?_category_eq hCompiler hFilter .state
  have hNevada := get?_category_eq hOther (hSame.trans hFilter) .state
  rw [hOregon] at hNevada
  exact absurd hNevada (by decide +kernel)

end StaffSearch.Settings
