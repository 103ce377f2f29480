import StaffSearch.Proofs.Compilation

/-!
# Vocabularies and what is found in them

A term is present in a query when the stems of one of its spellings stand there side by side
(`Term.isPresentIn_iff`), so it stays present when tokens are added on either side.

A vocabulary grows at its end only.  What is there stays where it is, and a value that is there is
not added again, so the place of a value in a vocabulary is well defined and does not change
(`Lexicon.place`).

## Main results

* `prefix_foldl_addTerm` — a vocabulary is the beginning of every extension of it.
* `mem_foldl_addTerm_iff` — which terms are added does not depend on their order.
* `nodup_values_lexiconOf` — no value stands twice in a vocabulary.
* `place_le_of_find?` — a search that accepts more terms ends no later.
* `Reading.skillsWithin` — where every present skill stays present, the set of skills only grows.
-/

namespace StaffSearch.Query

open StaffSearch.Text

/-! ## Runs of stems -/

theorem isSome_firstPlace?_iff {α : Type} [BEq α] [LawfulBEq α] {part : List α} (hPart : part ≠ [])
    (list : List α) : (firstPlace? part list).isSome = true ↔ part <:+: list := by
  induction list with
  | nil => simp [firstPlace?, hPart]
  | cons x rest ih =>
      rw [firstPlace?, List.infix_cons_iff, ← List.isPrefixOf_iff_prefix, ← ih]
      by_cases hHere : part.isPrefixOf (x :: rest) = true
      · simp [hHere]
      · simp [hHere]

/-- **A term is present** when the stems of one of its spellings stand side by side. -/
theorem Term.isPresentIn_iff {term : Term} {tokens : List Token} :
    term.isPresentIn tokens = true ↔
      ∃ form ∈ term.forms, form ≠ [] ∧ form <:+: tokens.map (·.stem) := by
  rw [Term.isPresentIn, List.any_eq_true]
  constructor
  · rintro ⟨form, hMem, hFound⟩
    rw [findStems?] at hFound
    by_cases hEmpty : form.isEmpty = true
    · rw [if_pos hEmpty] at hFound
      exact absurd hFound (by simp)
    · rw [if_neg hEmpty] at hFound
      have hSome : form ≠ [] := fun hNil => hEmpty (List.isEmpty_iff.mpr hNil)
      exact ⟨form, hMem, hSome, (isSome_firstPlace?_iff hSome _).mp hFound⟩
  · rintro ⟨form, hMem, hSome, hInfix⟩
    refine ⟨form, hMem, ?_⟩
    rw [findStems?, if_neg fun hEmpty => hSome (List.isEmpty_iff.mp hEmpty)]
    exact (isSome_firstPlace?_iff hSome _).mpr hInfix

/-- A term stays present when tokens are added on either side. -/
theorem Term.isPresentIn_mono {term : Term} {tokens more : List Token}
    (hInfix : tokens.map (·.stem) <:+: more.map (·.stem))
    (h : term.isPresentIn tokens = true) : term.isPresentIn more = true := by
  obtain ⟨form, hMem, hSome, hRun⟩ := Term.isPresentIn_iff.mp h
  exact Term.isPresentIn_iff.mpr ⟨form, hMem, hSome, hRun.trans hInfix⟩

/-! ## Growing vocabularies -/

/-- Adding a term leaves the vocabulary as it is or puts the term behind it. -/
theorem addTerm_cases (terms : List Term) (text : String) :
    Lexicon.addTerm terms text = terms ∨
      ((∀ known ∈ terms, known.value ≠ (Term.of text []).value) ∧
        Lexicon.addTerm terms text = terms ++ [Term.of text []]) := by
  rw [Lexicon.addTerm]
  split
  · exact Or.inl rfl
  · next hNew =>
      right
      refine ⟨?_, rfl⟩
      intro known hMem hSame
      apply hNew
      rw [Bool.or_eq_true, List.any_eq_true]
      exact Or.inr ⟨known, hMem, beq_iff_eq.mpr hSame⟩

theorem prefix_addTerm (terms : List Term) (text : String) :
    terms <+: Lexicon.addTerm terms text := by
  rcases addTerm_cases terms text with hSame | ⟨-, hAdded⟩
  · exact ⟨[], by rw [hSame, List.append_nil]⟩
  · rw [hAdded]
    exact List.prefix_append terms _

/-- **A vocabulary is the beginning of every extension of it.** -/
theorem prefix_foldl_addTerm (texts : List String) :
    ∀ terms, terms <+: texts.foldl Lexicon.addTerm terms := by
  induction texts with
  | nil =>
      intro terms
      exact List.prefix_refl terms
  | cons text texts ih =>
      intro terms
      rw [List.foldl_cons]
      exact (prefix_addTerm terms text).trans (ih (Lexicon.addTerm terms text))

theorem nodup_values_addTerm {terms : List Term} (h : (terms.map (·.value)).Nodup)
    (text : String) : ((Lexicon.addTerm terms text).map (·.value)).Nodup := by
  rcases addTerm_cases terms text with hSame | ⟨hNew, hAdded⟩
  · rw [hSame]
    exact h
  · rw [hAdded, List.map_append, List.nodup_append]
    refine ⟨h, List.nodup_cons.mpr ⟨List.not_mem_nil, List.nodup_nil⟩, ?_⟩
    intro value hValue other hOther hSame
    obtain ⟨known, hMem, rfl⟩ := List.mem_map.mp hValue
    rw [List.map_cons, List.map_nil, List.mem_singleton] at hOther
    exact hNew known hMem (hSame.trans hOther)

theorem nodup_values_foldl_addTerm (texts : List String) :
    ∀ {terms : List Term}, (terms.map (·.value)).Nodup →
      ((texts.foldl Lexicon.addTerm terms).map (·.value)).Nodup := by
  induction texts with
  | nil =>
      intro terms h
      exact h
  | cons text texts ih =>
      intro terms h
      rw [List.foldl_cons]
      exact ih (nodup_values_addTerm h text)

/-- A term with a spelling is in the vocabulary afterwards, by its value. -/
theorem exists_mem_addTerm (terms : List Term) {text : String}
    (hForms : (Term.of text []).forms ≠ []) :
    ∃ term ∈ Lexicon.addTerm terms text, term.value = (Term.of text []).value := by
  rw [Lexicon.addTerm]
  split
  · next hPassed =>
      rw [Bool.or_eq_true, List.any_eq_true] at hPassed
      rcases hPassed with hEmpty | ⟨known, hMem, hSame⟩
      · exact absurd (List.isEmpty_iff.mp hEmpty) hForms
      · exact ⟨known, hMem, beq_iff_eq.mp hSame⟩
  · exact ⟨_, List.mem_append_right _ List.mem_cons_self, rfl⟩

/-- A term with one spelling is determined by its value. -/
theorem Term.of_eq_of_value_eq {text other : String}
    (h : (Term.of text []).value = (Term.of other []).value) :
    Term.of text [] = Term.of other [] := by
  simp only [Term.of] at h ⊢
  rw [h]

theorem mem_addTerm_iff {terms : List Term} {text : String} {term : Term} :
    term ∈ Lexicon.addTerm terms text ↔
      term ∈ terms ∨ (term.forms ≠ [] ∧ (∀ known ∈ terms, known.value ≠ term.value) ∧
        Term.of text [] = term) := by
  rw [Lexicon.addTerm]
  split
  · next hPassed =>
      refine ⟨Or.inl, ?_⟩
      rintro (hMem | ⟨hForms, hNew, rfl⟩)
      · exact hMem
      · rw [Bool.or_eq_true, List.any_eq_true] at hPassed
        rcases hPassed with hEmpty | ⟨known, hMem, hSame⟩
        · exact absurd (List.isEmpty_iff.mp hEmpty) hForms
        · exact absurd (beq_iff_eq.mp hSame) (hNew known hMem)
  · next hAdded =>
      rw [Bool.or_eq_true, List.any_eq_true, not_or] at hAdded
      rw [List.mem_append, List.mem_singleton]
      constructor
      · rintro (hMem | rfl)
        · exact Or.inl hMem
        · refine Or.inr ⟨fun hNil => hAdded.1 (List.isEmpty_iff.mpr hNil), ?_, rfl⟩
          intro known hMem hSame
          exact hAdded.2 ⟨known, hMem, beq_iff_eq.mpr hSame⟩
      · rintro (hMem | ⟨-, -, rfl⟩)
        · exact Or.inl hMem
        · exact Or.inr rfl

/-- **Which terms are added** does not depend on their order: those that have a spelling and a value
that was not there. -/
theorem mem_foldl_addTerm_iff (texts : List String) {term : Term} :
    ∀ {terms : List Term}, term ∈ texts.foldl Lexicon.addTerm terms ↔
      term ∈ terms ∨ (term.forms ≠ [] ∧ (∀ known ∈ terms, known.value ≠ term.value) ∧
        ∃ text ∈ texts, Term.of text [] = term) := by
  induction texts with
  | nil =>
      intro terms
      simp
  | cons text texts ih =>
      intro terms
      rw [List.foldl_cons, ih]
      constructor
      · rintro (hMem | ⟨hForms, hNew, other, hOther, hTerm⟩)
        · rcases mem_addTerm_iff.mp hMem with hMem | ⟨hForms, hNew, hTerm⟩
          · exact Or.inl hMem
          · exact Or.inr ⟨hForms, hNew, text, List.mem_cons_self, hTerm⟩
        · refine Or.inr ⟨hForms, ?_, other, List.mem_cons_of_mem _ hOther, hTerm⟩
          intro known hMem
          exact hNew known ((prefix_addTerm terms text).subset hMem)
      · rintro (hMem | ⟨hForms, hNew, other, hOther, rfl⟩)
        · exact Or.inl ((prefix_addTerm terms text).subset hMem)
        · by_cases hSame : Term.of text [] = Term.of other []
          · exact Or.inl (mem_addTerm_iff.mpr (Or.inr ⟨hForms, hNew, hSame⟩))
          · right
            refine ⟨hForms, ?_, other, ?_, rfl⟩
            · intro known hMem hValue
              rcases mem_addTerm_iff.mp hMem with hMem | ⟨-, -, rfl⟩
              · exact hNew known hMem hValue
              · exact hSame (Term.of_eq_of_value_eq hValue)
            · rcases List.mem_cons.mp hOther with rfl | hOther
              · exact absurd rfl hSame
              · exact hOther

/-! ## The vocabularies of a compiler -/

namespace Compiler

theorem terms_foldl_extend (extraTerms : List (Category × List String)) (category : Category) :
    ∀ lexicon : Lexicon,
      (extraTerms.foldl (fun lexicon (category, terms) => lexicon.extend category terms)
        lexicon).terms category =
        (extraTerms.flatMap fun entry => if entry.1 = category then entry.2 else []).foldl
          Lexicon.addTerm (lexicon.terms category) := by
  induction extraTerms with
  | nil =>
      intro lexicon
      rfl
  | cons entry extraTerms ih =>
      intro lexicon
      rw [List.foldl_cons, ih, List.flatMap_cons, List.foldl_append]
      by_cases hCategory : entry.1 = category
      · rw [if_pos hCategory, ← hCategory, Lexicon.terms_extend_self]
      · rw [if_neg hCategory, Lexicon.terms_extend_of_ne lexicon (Ne.symm hCategory)]
        rfl

/-- The vocabulary of a category is the built-in one with the terms that the settings add. -/
theorem terms_lexiconOf (settings : CompilerSettings) (category : Category) :
    (lexiconOf settings.extraTerms).terms category =
      (settings.termsOf category).foldl Lexicon.addTerm (Lexicon.builtIn.terms category) :=
  terms_foldl_extend settings.extraTerms category Lexicon.builtIn

theorem nodup_values_builtIn (category : Category) :
    ((Lexicon.builtIn.terms category).map (·.value)).Nodup := by
  cases category <;> decide +kernel

/-- **No value stands twice in a vocabulary.** -/
theorem nodup_values_lexiconOf (extraTerms : List (Category × List String))
    (category : Category) :
    (((lexiconOf extraTerms).terms category).map (·.value)).Nodup := by
  have hTerms := terms_foldl_extend extraTerms category Lexicon.builtIn
  rw [lexiconOf, hTerms]
  exact nodup_values_foldl_addTerm _ (nodup_values_builtIn category)

/-- A term of a compiler's vocabulary is built in, or it has one spelling only. -/
theorem mem_terms_lexiconOf {extraTerms : List (Category × List String)} {category : Category}
    {term : Term} (h : term ∈ (lexiconOf extraTerms).terms category) :
    (∃ entry ∈ category.builtIn, term = Term.of entry.1 entry.2) ∨
      ∃ text, term = Term.of text [] := by
  have hTerms := terms_foldl_extend extraTerms category Lexicon.builtIn
  rw [lexiconOf, hTerms] at h
  rcases (mem_foldl_addTerm_iff _).mp h with hBuiltIn | ⟨-, -, text, -, hText⟩
  · obtain ⟨entry, hEntry, rfl⟩ := List.mem_map.mp hBuiltIn
    exact Or.inl ⟨entry, hEntry, rfl⟩
  · exact Or.inr ⟨text, hText.symm⟩

/-- A lexicon that is extended once more is a lexicon with one more entry. -/
theorem extend_lexiconOf (extraTerms : List (Category × List String)) (category : Category)
    (texts : List String) :
    (lexiconOf extraTerms).extend category texts = lexiconOf (extraTerms ++ [(category, texts)]) := by
  rw [lexiconOf, lexiconOf, List.foldl_append]
  rfl

end Compiler

/-! ## Places -/

/-- The place of a value in the vocabulary of a category; the number of its terms for a value that
is not there. -/
def Lexicon.place (lexicon : Lexicon) (category : Category) (value : String) : Nat :=
  ((lexicon.terms category).map (·.value)).idxOf value

/-- **A search that accepts more terms ends no later.** -/
theorem place_le_of_find? {terms : List Term} {accepts acceptsMore : Term → Bool}
    (hMore : ∀ term, accepts term = true → acceptsMore term = true) :
    (terms.map (·.value)).Nodup → ∀ {found early : Term}, terms.find? accepts = some found →
      terms.find? acceptsMore = some early →
        (terms.map (·.value)).idxOf early.value ≤ (terms.map (·.value)).idxOf found.value := by
  induction terms with
  | nil =>
      intro _ found early hFound
      exact absurd hFound (by simp)
  | cons term rest ih =>
      intro hNodup found early hFound hEarly
      rw [List.map_cons, List.nodup_cons] at hNodup
      rw [List.map_cons]
      by_cases hAccepted : acceptsMore term = true
      · rw [List.find?_cons_of_pos hAccepted] at hEarly
        cases hEarly
        rw [List.idxOf_cons_self]
        exact Nat.zero_le _
      · have hPassed : ¬ accepts term = true := fun h => hAccepted (hMore term h)
        rw [List.find?_cons_of_neg hAccepted] at hEarly
        rw [List.find?_cons_of_neg hPassed] at hFound
        -- both terms stand behind this one, and so do their values, which stand there only once
        have hApart : ∀ other ∈ rest, term.value ≠ other.value := by
          intro other hMem hSame
          exact hNodup.1 (hSame ▸ List.mem_map_of_mem hMem)
        rw [List.idxOf_cons, List.idxOf_cons,
          beq_false_of_ne (hApart early (List.mem_of_find?_eq_some hEarly)),
          beq_false_of_ne (hApart found (List.mem_of_find?_eq_some hFound))]
        exact Nat.succ_le_succ (ih hNodup.2 hFound hEarly)

/-! ## Sets of skills -/

/-- Every skill that the first filter admits is a skill that the second one admits; so the second
one constrains the skills if the first one does. -/
def SkillsWithin (filter larger : Filter) : Prop :=
  ∀ constraint, filter.get? .skills = some constraint →
    ∃ set more, constraint = .oneOf set ∧ larger.get? .skills = some (.oneOf more) ∧
      set.elements ⊆ more.elements

/-- **The set of skills grows** with the skills that are present. -/
theorem Reading.skillsWithin {lexicon other : Lexicon} {query longer : String} {now later : Instant}
    {filter larger : Filter} (hFilter : Reading lexicon query now filter)
    (hLarger : Reading other longer later larger)
    (hPresent : ∀ term ∈ lexicon.terms .skill, term.isPresentIn (tokenize query) = true →
      term ∈ other.terms .skill ∧ term.isPresentIn (tokenize longer) = true) :
    SkillsWithin filter larger := by
  intro constraint hSkills
  obtain ⟨set, rfl, hSet⟩ := hFilter.skills_some constraint hSkills
  have hConstrained : larger.get? .skills ≠ none := by
    intro hNone
    have hFree : filter.get? .skills = none := by
      apply hFilter.skills_none.mpr
      intro term hMem
      rw [Bool.eq_false_iff]
      intro hTerm
      obtain ⟨hThere, hFound⟩ := hPresent term hMem hTerm
      rw [hLarger.skills_none.mp hNone term hThere] at hFound
      exact absurd hFound (by decide)
    rw [hSkills] at hFree
    exact absurd hFree (by simp)
  obtain ⟨found, hFound⟩ := Option.ne_none_iff_exists'.mp hConstrained
  obtain ⟨more, rfl, hMore⟩ := hLarger.skills_some found hFound
  refine ⟨set, more, rfl, hFound, ?_⟩
  intro value hValue
  obtain ⟨term, hMem, hTerm, rfl⟩ := (hSet value).mp hValue
  obtain ⟨hThere, hStays⟩ := hPresent term hMem hTerm
  exact (hMore term.value).mpr ⟨term, hThere, hStays, rfl⟩

end StaffSearch.Query
