import StaffSearch.Proofs.Vocabularies

/-!
# Settings with further terms

Settings can be extended by further terms: terms to be blocked, and terms for the vocabularies.
Neither takes anything away.  A blocked stem stays blocked, and a vocabulary is the beginning of the
extended one, so the first term that is present is the same one if it was there before.

The stages that read numbers, dates and the city never look at a term of a vocabulary.  They are the
same in both compilers, and so is the window in which numerals are sought.
-/

namespace StaffSearch.Query

/-! ## Extending -/

/-- The second settings are the first ones with further terms: more terms are blocked, and terms are
appended to what is added to the vocabularies.  The window is the same. -/
structure CompilerSettings.Extends (settings extended : CompilerSettings) : Prop where
  /-- The window stays. -/
  window : extended.window = settings.window
  /-- Blocked terms stay blocked. -/
  blocked : settings.blockedTerms ⊆ extended.blockedTerms
  /-- Terms of a category are added behind those that are there. -/
  terms : ∀ category, settings.termsOf category <+: extended.termsOf category

/-- What a filter says about states, departments, degrees and skills is said by the second filter as
well, and the other fields are constrained in the same way. -/
structure KeepsConstraints (filter extended : Filter) : Prop where
  /-- A constraint on a field that has one term stays. -/
  terms : ∀ category ∈ [Category.state, .department, .education], ∀ constraint,
    filter.get? category.field = some constraint →
      extended.get? category.field = some constraint
  /-- Skills stay in the set. -/
  skills : SkillsWithin filter extended
  /-- A field without a vocabulary is constrained as before, or as little. -/
  others : ∀ field, (∀ category : Category, field ≠ category.field) →
    extended.get? field = filter.get? field

section Extending

variable {settings extended : CompilerSettings}

/-- What the settings block, the extended settings block. -/
theorem CompilerSettings.Extends.blocked_subset (h : settings.Extends extended) :
    (Gate.ofTerms settings.blockedTerms).blocked ⊆ (Gate.ofTerms extended.blockedTerms).blocked := by
  have hTerms : alwaysBlocked ++ settings.blockedTerms ⊆ alwaysBlocked ++ extended.blockedTerms := by
    intro term hMem
    rcases List.mem_append.mp hMem with hAlways | hBlocked
    · exact List.mem_append_left _ hAlways
    · exact List.mem_append_right _ (h.blocked hBlocked)
  exact List.filter_subset _ (List.map_subset _ hTerms)

/-- **A vocabulary is the beginning of the extended one**, also where some of the further terms are
passed over. -/
theorem CompilerSettings.Extends.prefix_terms (h : settings.Extends extended)
    (category : Category) :
    (Compiler.lexiconOf settings.extraTerms).terms category <+:
      (Compiler.lexiconOf extended.extraTerms).terms category := by
  obtain ⟨further, hFurther⟩ := h.terms category
  rw [Compiler.terms_lexiconOf, Compiler.terms_lexiconOf, ← hFurther, List.foldl_append]
  exact prefix_foldl_addTerm further _

end Extending

/-! ## Compiling -/

/-- An extractor without a vocabulary is run by every compiler. -/
theorem mem_standardExtractors_of_field {lexicon : Lexicon} {extractor : Extractor}
    (hMem : extractor ∈ Compiler.standardExtractors lexicon)
    (hField : ∀ category : Category, extractor.field ≠ category.field) (other : Lexicon) :
    extractor ∈ Compiler.standardExtractors other := by
  rw [Compiler.standardExtractors, List.mem_append] at hMem ⊢
  rcases hMem with hVocabulary | hOther
  · obtain ⟨category, -, rfl⟩ := List.mem_map.mp hVocabulary
    exact absurd rfl (hField category)
  · exact Or.inr hOther

section SameWindow

variable {settings others : CompilerSettings} {compiler other : Compiler}

/-- Compilers with the same window give their extractors the same to read. -/
theorem Compiler.contextOf_eq_of_window_eq (hWindow : others.window = settings.window)
    (hCompiler : Compiler.ofSettings settings = .ok compiler)
    (hOther : Compiler.ofSettings others = .ok other) (query : String) (now : Instant) :
    other.contextOf query now = compiler.contextOf query now := by
  rw [(Compiler.ofSettings_eq_ok_iff.mp hCompiler).2, (Compiler.ofSettings_eq_ok_iff.mp hOther).2]
  simp only [Compiler.contextOf, hWindow]

/-- Compilers with the same window read fields without a vocabulary in the same way. -/
theorem get?_eq_of_window_eq (hWindow : others.window = settings.window)
    (hCompiler : Compiler.ofSettings settings = .ok compiler)
    (hOther : Compiler.ofSettings others = .ok other) {query : String} {now : Instant}
    {filter found : Filter} (hFilter : compiler.compile query now = .ok filter)
    (hFound : other.compile query now = .ok found) {field : Field}
    (hField : ∀ category : Category, field ≠ category.field) :
    found.get? field = filter.get? field := by
  obtain ⟨-, hOwned, hFree⟩ := Compiler.of_compile_eq_ok hCompiler hFilter
  obtain ⟨-, hOwned', hFree'⟩ := Compiler.of_compile_eq_ok hOther hFound
  by_cases hHere : field ∈
      (Compiler.standardExtractors (Compiler.lexiconOf settings.extraTerms)).map Extractor.field
  · obtain ⟨extractor, hMem, rfl⟩ := List.mem_map.mp hHere
    rw [hOwned extractor hMem, hOwned' extractor (mem_standardExtractors_of_field hMem hField _),
      Compiler.contextOf_eq_of_window_eq hWindow hCompiler hOther]
  · rw [hFree field hHere, hFree' field hHere]

end SameWindow

/-- What the compiler reads off a query stays when its settings are extended. -/
theorem keepsConstraints_of_compile {settings extended : CompilerSettings}
    {compiler larger : Compiler} (hExtends : settings.Extends extended)
    (hCompiler : Compiler.ofSettings settings = .ok compiler)
    (hLarger : Compiler.ofSettings extended = .ok larger) {query : String} {now : Instant}
    {filter found : Filter} (hFilter : compiler.compile query now = .ok filter)
    (hFound : larger.compile query now = .ok found) : KeepsConstraints filter found := by
  obtain ⟨-, hOwned, hFree⟩ := Compiler.of_compile_eq_ok hCompiler hFilter
  obtain ⟨-, hOwned', hFree'⟩ := Compiler.of_compile_eq_ok hLarger hFound
  have hReading := reading_of_extractors hOwned hFree
  have hReading' := reading_of_extractors hOwned' hFree'
  refine ⟨?_, ?_, ?_⟩
  · intro category hSingle constraint hConstraint
    rw [hReading.terms category hSingle, Option.map_eq_some_iff] at hConstraint
    obtain ⟨term, hTerm, rfl⟩ := hConstraint
    rw [hReading'.terms category hSingle,
      (hExtends.prefix_terms category).find?_eq_some hTerm, Option.map_some]
  · apply hReading.skillsWithin hReading'
    intro term hMem hPresent
    exact ⟨(hExtends.prefix_terms .skill).subset hMem, hPresent⟩
  · intro field hField
    exact get?_eq_of_window_eq hExtends.window hCompiler hLarger hFilter hFound hField

/--
**Extending settings takes nothing away.**  A query that is rejected is rejected under the extended
settings as well.  If it compiles under both, then the first term of a state, a department or a
degree stays the same, the skills stay in the set, and everything else is read in the same way.
-/
theorem compile_of_extends {settings extended : CompilerSettings} {compiler larger : Compiler}
    (hExtends : settings.Extends extended)
    (hCompiler : Compiler.ofSettings settings = .ok compiler)
    (hLarger : Compiler.ofSettings extended = .ok larger) (query : String) (now : Instant) :
    ((∃ text, compiler.compile query now = .error (.rejected text)) →
      ∃ text, larger.compile query now = .error (.rejected text)) ∧
    ∀ filter found, compiler.compile query now = .ok filter →
      larger.compile query now = .ok found → KeepsConstraints filter found := by
  constructor
  · intro hRejected
    obtain ⟨token, hMem, hStem⟩ :=
      (Compiler.exists_rejected_iff hCompiler query now).mp hRejected
    apply (Compiler.exists_rejected_iff hLarger query now).mpr
    rw [Compiler.gate_eq_of_ofSettings hCompiler] at hStem
    rw [Compiler.gate_eq_of_ofSettings hLarger]
    exact ⟨token, hMem, hExtends.blocked_subset hStem⟩
  · intro filter found hFilter hFound
    exact keepsConstraints_of_compile hExtends hCompiler hLarger hFilter hFound

/-- Settings that block one more term and add a department and two skills. -/
theorem compile_of_extends_skill :
    ∃ compiler larger,
      Compiler.ofSettings { blockedTerms := ["bonus"], extraTerms := [(.skill, ["Rust"])] } =
        .ok compiler ∧
      Compiler.ofSettings
        { blockedTerms := ["equity", "bonus"]
          extraTerms := [(.department, ["Legal"]), (.skill, ["Rust", "Python", "Go"])] } =
        .ok larger ∧
      ∀ now, (∃ text, larger.compile "Bonuses in sales" now = .error (.rejected text)) ∧
        ∃ filter found, compiler.compile "Go or Rust in legal, city Paris" now = .ok filter ∧
          larger.compile "Go or Rust in legal, city Paris" now = .ok found ∧
            KeepsConstraints filter found := by
  obtain ⟨compiler, hCompiler⟩ := Compiler.exists_ofSettings
    { blockedTerms := ["bonus"], extraTerms := [(.skill, ["Rust"])] } (by decide)
  obtain ⟨larger, hLarger⟩ := Compiler.exists_ofSettings
    { blockedTerms := ["equity", "bonus"]
      extraTerms := [(.department, ["Legal"]), (.skill, ["Rust", "Python", "Go"])] } (by decide)
  have hExtends : CompilerSettings.Extends
      { blockedTerms := ["bonus"], extraTerms := [(.skill, ["Rust"])] }
      { blockedTerms := ["equity", "bonus"]
        extraTerms := [(.department, ["Legal"]), (.skill, ["Rust", "Python", "Go"])] } := by
    refine ⟨rfl, by decide, ?_⟩
    intro category
    cases category <;> exact ⟨_, rfl⟩
  refine ⟨compiler, larger, hCompiler, hLarger, fun now => ⟨?_, ?_⟩⟩
  · apply (compile_of_extends hExtends hCompiler hLarger "Bonuses in sales" now).1
    apply (Compiler.exists_rejected_iff hCompiler _ now).mpr
    rw [Compiler.gate_eq_of_ofSettings hCompiler]
    decide +kernel
  · have hToken : tokenize "Go or Rust in legal, city Paris" ≠ [] := by decide +kernel
    have hPasses : ∀ token ∈ tokenize "Go or Rust in legal, city Paris",
        token.stem ∉ larger.gate.blocked := by
      rw [Compiler.gate_eq_of_ofSettings hLarger]
      decide +kernel
    have hPassesBefore : ∀ token ∈ tokenize "Go or Rust in legal, city Paris",
        token.stem ∉ compiler.gate.blocked := by
      intro token hMem hStem
      apply hPasses token hMem
      rw [Compiler.gate_eq_of_ofSettings hLarger]
      rw [Compiler.gate_eq_of_ofSettings hCompiler] at hStem
      exact hExtends.blocked_subset hStem
    obtain ⟨filter, hFilter, -⟩ :=
      Compiler.compile_of_unblocked hCompiler now hToken hPassesBefore
    obtain ⟨found, hFound, -⟩ := Compiler.compile_of_unblocked hLarger now hToken hPasses
    exact ⟨filter, found, hFilter, hFound,
      (compile_of_extends hExtends hCompiler hLarger _ now).2 filter found hFilter hFound⟩

end StaffSearch.Query
