import StaffSearch.Proofs.SpacedWords
import StaffSearch.Proofs.Vocabularies

/-!
# Two queries in one

Two queries with a space between them are a query, and its tokens are the tokens of the two
(`stems_append_space`): a space ends every token, and no comma reaches over it.  The gate and the
vocabularies compare stems only.  So whatever they see in one of the two they see in the whole, and
nothing can be hidden by putting text around it.

New runs of stems may appear where the two queries meet.  They cannot push a term out: skills are
collected, and of the other terms the first one in the vocabulary is taken, which can only be an
earlier one than before.
-/

namespace StaffSearch.Query

open StaffSearch.Text

/-! ## What the gate sees -/

section Compiling

variable {settings : CompilerSettings} {compiler : Compiler}

/-- The gate looks at stems only. -/
theorem exists_rejected_iff_stems (hCompiler : Compiler.ofSettings settings = .ok compiler)
    (query : String) (now : Instant) :
    (∃ text, compiler.compile query now = .error (.rejected text)) ↔
      ∃ stem ∈ stems query, stem ∈ compiler.gate.blocked := by
  rw [Compiler.exists_rejected_iff hCompiler, stems]
  constructor
  · rintro ⟨token, hMem, hBlocked⟩
    exact ⟨token.stem, List.mem_map_of_mem hMem, hBlocked⟩
  · rintro ⟨stem, hMem, hBlocked⟩
    obtain ⟨token, hToken, rfl⟩ := List.mem_map.mp hMem
    exact ⟨token, hToken, hBlocked⟩

/-- A query with a token that is not rejected compiles. -/
theorem exists_reading_of_not_rejected (hCompiler : Compiler.ofSettings settings = .ok compiler)
    {query : String} {now : Instant} (hSome : stems query ≠ [])
    (hPasses : ¬ ∃ text, compiler.compile query now = .error (.rejected text)) :
    ∃ filter, compiler.compile query now = .ok filter ∧
      Reading (Compiler.lexiconOf settings.extraTerms) query now filter := by
  have hToken : tokenize query ≠ [] := fun hNone => hSome (List.map_eq_nil_iff.mpr hNone)
  obtain ⟨filter, hFilter, hFound, hFree⟩ := Compiler.compile_of_unblocked hCompiler now hToken
    fun token hMem hStem =>
      hPasses ((Compiler.exists_rejected_iff hCompiler query now).mpr ⟨token, hMem, hStem⟩)
  exact ⟨filter, hFilter, reading_of_extractors hFound hFree⟩

end Compiling

/-! ## What the vocabularies see -/

/-- What the vocabularies of the lexicon say about a part, they say about the whole: no skill is
lost, and of a field with one term, the term in the whole is the same one or an earlier one. -/
structure CoversTerms (lexicon : Lexicon) (whole part : Filter) : Prop where
  /-- Every skill of the part is one of the whole. -/
  skills : SkillsWithin part whole
  /-- The term of the whole stands no later in the vocabulary. -/
  terms : ∀ category ∈ [Category.state, .department, .education], ∀ constraint,
    part.get? category.field = some constraint →
      ∃ found ∈ lexicon.terms category, ∃ early ∈ lexicon.terms category,
        constraint = .containsPattern found.value ∧
          whole.get? category.field = some (.containsPattern early.value) ∧
            lexicon.place category early.value ≤ lexicon.place category found.value

/-- More tokens on either side take nothing away from what the vocabularies see. -/
theorem Reading.coversTerms {extraTerms : List (Category × List String)} {query longer : String}
    {now later : Instant} {part whole : Filter} (hInfix : stems query <:+: stems longer)
    (hPart : Reading (Compiler.lexiconOf extraTerms) query now part)
    (hWhole : Reading (Compiler.lexiconOf extraTerms) longer later whole) :
    CoversTerms (Compiler.lexiconOf extraTerms) whole part := by
  have hStays : ∀ term : Term, term.isPresentIn (tokenize query) = true →
      term.isPresentIn (tokenize longer) = true := fun term => Term.isPresentIn_mono hInfix
  constructor
  · exact hPart.skillsWithin hWhole fun term hMem hPresent => ⟨hMem, hStays term hPresent⟩
  · intro category hSingle constraint hConstraint
    rw [hPart.terms category hSingle, Option.map_eq_some_iff] at hConstraint
    obtain ⟨found, hFound, rfl⟩ := hConstraint
    have hMem := List.mem_of_find?_eq_some hFound
    have hHere := List.find?_some hFound
    have hSome : (((Compiler.lexiconOf extraTerms).terms category).find?
        (·.isPresentIn (tokenize longer))).isSome = true := by
      rw [List.find?_isSome]
      exact ⟨found, hMem, hStays found hHere⟩
    obtain ⟨early, hEarly⟩ := Option.isSome_iff_exists.mp hSome
    refine ⟨found, hMem, early, List.mem_of_find?_eq_some hEarly, rfl, ?_, ?_⟩
    · rw [hWhole.terms category hSingle, hEarly]
      rfl
    · exact place_le_of_find? hStays (Compiler.nodup_values_lexiconOf extraTerms category)
        hFound hEarly

/-! ## The whole query -/

/--
**Putting text around a query hides nothing.**  Two queries with a space between them are rejected
exactly when one of them is.  Otherwise the two and the whole compile, and the whole covers what the
vocabularies see in each of the two.
-/
theorem compile_append_space {settings : CompilerSettings} {compiler : Compiler}
    (hCompiler : Compiler.ofSettings settings = .ok compiler) {a b : String}
    (ha : ∃ c ∈ a.toList, isAlphanumeric c = true) (hb : ∃ c ∈ b.toList, isAlphanumeric c = true)
    (now : Instant) :
    ((∃ text, compiler.compile (a ++ " " ++ b) now = .error (.rejected text)) ↔
      (∃ text, compiler.compile a now = .error (.rejected text)) ∨
        ∃ text, compiler.compile b now = .error (.rejected text)) ∧
    ((¬ ∃ text, compiler.compile (a ++ " " ++ b) now = .error (.rejected text)) →
      ∃ first second whole, compiler.compile a now = .ok first ∧
        compiler.compile b now = .ok second ∧ compiler.compile (a ++ " " ++ b) now = .ok whole ∧
          CoversTerms (Compiler.lexiconOf settings.extraTerms) whole first ∧
            CoversTerms (Compiler.lexiconOf settings.extraTerms) whole second) := by
  have hStems := stems_append_space a b
  have hRejected : (∃ text, compiler.compile (a ++ " " ++ b) now = .error (.rejected text)) ↔
      (∃ text, compiler.compile a now = .error (.rejected text)) ∨
        ∃ text, compiler.compile b now = .error (.rejected text) := by
    rw [exists_rejected_iff_stems hCompiler, exists_rejected_iff_stems hCompiler,
      exists_rejected_iff_stems hCompiler, hStems]
    simp only [List.mem_append, or_and_right, exists_or]
  refine ⟨hRejected, ?_⟩
  intro hPasses
  have hNeither := not_or.mp fun h => hPasses (hRejected.mpr h)
  have hSome : stems (a ++ " " ++ b) ≠ [] := by
    rw [hStems]
    exact List.append_ne_nil_of_left_ne_nil (stems_ne_nil ha) _
  obtain ⟨first, hFirst, hReading⟩ :=
    exists_reading_of_not_rejected hCompiler (stems_ne_nil ha) hNeither.1
  obtain ⟨second, hSecond, hReading'⟩ :=
    exists_reading_of_not_rejected hCompiler (stems_ne_nil hb) hNeither.2
  obtain ⟨whole, hWhole, hReadingWhole⟩ :=
    exists_reading_of_not_rejected hCompiler hSome hPasses
  have hInFront : stems a <:+: stems (a ++ " " ++ b) := by
    rw [hStems]
    exact (List.prefix_append (stems a) (stems b)).isInfix
  have hBehind : stems b <:+: stems (a ++ " " ++ b) := by
    rw [hStems]
    exact (List.suffix_append (stems a) (stems b)).isInfix
  exact ⟨first, second, whole, hFirst, hSecond, hWhole, hReading.coversTerms hInFront hReadingWhole,
    hReading'.coversTerms hBehind hReadingWhole⟩

/-- A state is named across the space, and it stands earlier in the vocabulary than the one that is
found in front of the space. -/
theorem compile_append_space_state :
    ∃ compiler, Compiler.ofSettings {} = .ok compiler ∧
      ∀ now, ∃ first second whole,
        compiler.compile "Florida, or: new" now = .ok first ∧
        compiler.compile "York; SQL" now = .ok second ∧
        compiler.compile ("Florida, or: new" ++ " " ++ "York; SQL") now = .ok whole ∧
          CoversTerms (Compiler.lexiconOf []) whole first ∧
            CoversTerms (Compiler.lexiconOf []) whole second := by
  obtain ⟨compiler, hCompiler⟩ := Compiler.exists_ofSettings {} (by decide)
  refine ⟨compiler, hCompiler, fun now => ?_⟩
  have hSpaced := compile_append_space hCompiler (a := "Florida, or: new") (b := "York; SQL")
    ⟨'F', by decide, by decide +kernel⟩ ⟨'Y', by decide, by decide +kernel⟩ now
  apply hSpaced.2
  rw [exists_rejected_iff_stems hCompiler, Compiler.blocked_of_ofSettings_default hCompiler]
  decide +kernel

end StaffSearch.Query
