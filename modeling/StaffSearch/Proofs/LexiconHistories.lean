import StaffSearch.Proofs.OwnSpelling
import StaffSearch.Proofs.Vocabularies

/-!
# Lexicons that were extended many times

A history is a list of calls, each of which gives some terms for a category.  What a lexicon knows
afterwards does not depend on how the terms were spread over the calls: a vocabulary is the built-in
one, followed by a list that is read off the given terms (`newValues`).

A given term counts by its value, in lowercase and without blanks around it, and it counts only if
there is a letter or a number in it.  Lowercasing neither makes nor removes a letter or a number, so
it does not matter whether they are looked for in the term or in its value.

* `stems_givenValue_eq_nil_iff`: a value has stems exactly if the given term has tokens.
* `foldl_addTerm`: a vocabulary grows by the new values, each once, in the order they are given.
* `extend_eq_self_iff`: an extension changes nothing exactly if it has no new value.
* `terms_of_history`: what a lexicon knows after a history, and how further calls change it.
-/

namespace StaffSearch.Query

open StaffSearch.Text

/-! ## Given terms and their values -/

/-- The value under which a given term is added. -/
def givenValue (text : String) : String := lowercase (trim text)

/-- The values of the terms that have tokens, in order. -/
def givenValues (texts : List String) : List String :=
  (texts.filter fun text => !(tokenize text).isEmpty).map givenValue

/-- The values that are not known, each once, in the order in which they appear first. -/
def newValues (known values : List String) : List String :=
  (values.filter (· ∉ known)).eraseDups

/-- The term of a value that is spelled in no other way. -/
def Term.plain (value : String) : Term := { value, forms := [stems value] }

theorem any_isAlphanumeric_lowerAfter (text : List Char) :
    ∀ before, (lowerAfter before text).any isAlphanumeric = text.any isAlphanumeric := by
  induction text with
  | nil =>
      intro before
      rfl
  | cons c rest ih =>
      intro before
      by_cases hc : c = 'İ'
      · subst hc
        have hDotted : isAlphanumeric 'İ' = true := by decide +kernel
        have hSmall : isAlphanumeric 'i' = true := by decide +kernel
        rw [lowerAfter_cons_dotted, List.any_cons, hSmall, Bool.true_or, List.any_cons, hDotted,
          Bool.true_or]
      · rw [lowerAfter_cons hc, List.any_cons, List.any_cons, ih,
          (sameKind_lowerWithin before c rest).alphanumeric]

theorem stems_eq_nil_iff (text : String) :
    stems text = [] ↔ text.toList.any isAlphanumeric = false := by
  rw [stems, List.map_eq_nil_iff, tokenize_eq_nil_iff, List.any_eq_false]
  simp only [Bool.not_eq_true]

/-- **A value has stems exactly if the given term has tokens.** -/
theorem stems_givenValue_eq_nil_iff (text : String) :
    stems (givenValue text) = [] ↔ tokenize text = [] := by
  calc stems (givenValue text) = []
      ↔ stems (trim text) = [] := by
        rw [stems_eq_nil_iff, stems_eq_nil_iff, givenValue, lowercase, String.toList_ofList,
          lowerList, any_isAlphanumeric_lowerAfter]
    _ ↔ tokenize text = [] := by rw [stems_trim, stems, List.map_eq_nil_iff]

theorem mem_givenValues_iff {value : String} {texts : List String} :
    value ∈ givenValues texts ↔ ∃ text ∈ texts, tokenize text ≠ [] ∧ givenValue text = value := by
  simp only [givenValues, List.mem_map, List.mem_filter, Bool.not_eq_true', ne_eq,
    List.isEmpty_eq_false_iff, and_assoc]

theorem stems_ne_nil_of_mem_givenValues {value : String} {texts : List String}
    (h : value ∈ givenValues texts) : stems value ≠ [] := by
  obtain ⟨text, -, hTokens, rfl⟩ := mem_givenValues_iff.mp h
  exact fun hNone => hTokens ((stems_givenValue_eq_nil_iff text).mp hNone)

theorem mem_newValues_iff {known values : List String} {value : String} :
    value ∈ newValues known values ↔ value ∈ values ∧ value ∉ known := by
  rw [newValues, List.mem_eraseDups, List.mem_filter, decide_eq_true_iff]

theorem newValues_cons_of_mem {known : List String} {value : String} (h : value ∈ known)
    (values : List String) : newValues known (value :: values) = newValues known values := by
  have hPassed : ¬ decide (value ∉ known) = true := by simpa using h
  rw [newValues, newValues, List.filter_cons, if_neg hPassed]

/-- A new value is known to the values behind it. -/
theorem newValues_cons_of_not_mem {known : List String} {value : String} (h : value ∉ known)
    (values : List String) :
    newValues known (value :: values) = value :: newValues (known ++ [value]) values := by
  have hRest : (values.filter (· ∉ known)).filter (fun other => !other == value) =
      values.filter (· ∉ known ++ [value]) := by
    rw [List.filter_filter]
    apply List.filter_congr
    intro other _
    rw [Bool.eq_iff_iff]
    simp only [Bool.and_eq_true, Bool.not_eq_true', beq_eq_false_iff_ne, decide_eq_true_eq,
      List.mem_append, List.mem_singleton, not_or]
    exact and_comm
  rw [newValues, newValues, List.filter_cons, if_pos (decide_eq_true h), List.eraseDups_cons, hRest]

/-! ## Adding terms -/

/-- A given term has a spelling exactly if it has tokens, and then it is the term of its value. -/
theorem Term.of_given (text : String) :
    Term.of text [] =
      if tokenize text = [] then { value := givenValue text, forms := [] }
      else Term.plain (givenValue text) := by
  have hTerm : Term.of text [] =
      { value := givenValue text
        forms := [stems (givenValue text)].filter fun form => !form.isEmpty } := by
    simp only [Term.of, givenValue, List.map_cons, List.map_nil]
  have hStems := stems_givenValue_eq_nil_iff text
  rw [hTerm]
  split
  · next hTokens =>
      rw [hStems.mpr hTokens]
      rfl
  · next hTokens =>
      have hSome : (!(stems (givenValue text)).isEmpty) = true := by
        rw [Bool.not_eq_true', List.isEmpty_eq_false_iff]
        exact fun hNone => hTokens (hStems.mp hNone)
      rw [List.filter_cons, if_pos hSome, List.filter_nil, Term.plain]

/-- **One more term** is passed over if it has no tokens or its value is there, and stands behind
the others if not. -/
theorem addTerm_eq (terms : List Term) (text : String) :
    Lexicon.addTerm terms text =
      if tokenize text = [] ∨ givenValue text ∈ terms.map (·.value) then terms
      else terms ++ [Term.plain (givenValue text)] := by
  rw [Lexicon.addTerm, Term.of_given]
  by_cases hTokens : tokenize text = []
  · rw [if_pos hTokens, if_pos (Or.inl hTokens)]
    rfl
  · have hKnown : terms.any (fun known => known.value == givenValue text) = true ↔
        givenValue text ∈ terms.map (·.value) := by
      simp only [List.any_eq_true, beq_iff_eq, List.mem_map]
    rw [if_neg hTokens]
    simp only [Term.plain, List.isEmpty_cons, Bool.false_or, hKnown, hTokens, false_or]

/-- **A vocabulary grows by the new values**, each once, in the order they are given. -/
theorem foldl_addTerm (texts : List String) :
    ∀ terms, texts.foldl Lexicon.addTerm terms =
      terms ++ (newValues (terms.map (·.value)) (givenValues texts)).map Term.plain := by
  induction texts with
  | nil =>
      intro terms
      exact (List.append_nil terms).symm
  | cons text texts ih =>
      intro terms
      rw [List.foldl_cons, addTerm_eq]
      by_cases hTokens : tokenize text = []
      · have hValues : givenValues (text :: texts) = givenValues texts := by
          simp [givenValues, hTokens]
        rw [if_pos (Or.inl hTokens), ih, hValues]
      · have hValues : givenValues (text :: texts) = givenValue text :: givenValues texts := by
          simp [givenValues, hTokens]
        rw [hValues]
        by_cases hKnown : givenValue text ∈ terms.map (·.value)
        · rw [if_pos (Or.inr hKnown), ih, newValues_cons_of_mem hKnown]
        · rw [if_neg (not_or.mpr ⟨hTokens, hKnown⟩), ih, newValues_cons_of_not_mem hKnown,
            List.map_append, List.append_assoc]
          rfl

/-- The values that are known afterwards. -/
theorem mem_values_foldl_addTerm_iff {texts : List String} {terms : List Term} {value : String} :
    value ∈ (texts.foldl Lexicon.addTerm terms).map (·.value) ↔
      value ∈ terms.map (·.value) ∨ value ∈ givenValues texts := by
  have hPlain : ((newValues (terms.map (·.value)) (givenValues texts)).map Term.plain).map (·.value) =
      newValues (terms.map (·.value)) (givenValues texts) := by
    rw [List.map_map]
    exact List.map_id _
  rw [foldl_addTerm, List.map_append, List.mem_append, hPlain, mem_newValues_iff]
  by_cases hKnown : value ∈ terms.map (·.value)
  · simp [hKnown]
  · simp [hKnown]

/-! ## Extending a lexicon -/

namespace Lexicon

/-- The values of the vocabulary of a category. -/
def values (lexicon : Lexicon) (category : Category) : List String :=
  (lexicon.terms category).map (·.value)

theorem extend_comm (lexicon : Lexicon) {c d : Category} (h : c ≠ d) (xs ys : List String) :
    (lexicon.extend c xs).extend d ys = (lexicon.extend d ys).extend c xs := by
  simp only [extend, mk.injEq]
  funext e
  by_cases hc : e = c
  · subst hc
    simp [h]
  · simp [hc]

/-- **An extension changes nothing exactly if it has no new value.** -/
theorem extend_eq_self_iff (lexicon : Lexicon) (category : Category) (texts : List String) :
    lexicon.extend category texts = lexicon ↔ givenValues texts ⊆ lexicon.values category := by
  constructor
  · intro hSame value hValue
    have hKnown : value ∈ (lexicon.extend category texts).values category := by
      rw [values, terms_extend_self]
      exact mem_values_foldl_addTerm_iff.mpr (Or.inr hValue)
    rwa [hSame] at hKnown
  · intro hKnown
    have hNone : newValues (lexicon.values category) (givenValues texts) = [] := by
      apply List.eq_nil_iff_forall_not_mem.mpr
      intro value hNew
      obtain ⟨hGiven, hUnknown⟩ := mem_newValues_iff.mp hNew
      exact hUnknown (hKnown hGiven)
    have hTerms : ∀ c, (lexicon.extend category texts).terms c = lexicon.terms c := by
      intro c
      by_cases hc : c = category
      · subst hc
        rw [terms_extend_self, foldl_addTerm, ← values, hNone, List.map_nil, List.append_nil]
      · exact terms_extend_of_ne lexicon hc texts
    exact congrArg Lexicon.mk (funext hTerms)

end Lexicon

/-! ## Histories -/

/-- The terms that the calls of a history give for a category, in order. -/
def givenTerms (history : List (Category × List String)) (category : Category) : List String :=
  history.flatMap fun call => if call.1 = category then call.2 else []

open Compiler

variable (history : List (Category × List String)) (category : Category)

theorem terms_lexiconOf_eq_append :
    (lexiconOf history).terms category =
      Lexicon.builtIn.terms category ++
        (newValues (Lexicon.builtIn.values category)
          (givenValues (givenTerms history category))).map Term.plain := by
  have hTerms := terms_foldl_extend history category Lexicon.builtIn
  rw [lexiconOf, hTerms, ← givenTerms, foldl_addTerm, Lexicon.values]

theorem forms_builtIn : ∀ term ∈ Lexicon.builtIn.terms category, ∃ form ∈ term.forms, form ≠ [] := by
  cases category <;> decide +kernel

/-- Every term of a vocabulary can be found by one of its spellings. -/
theorem exists_form_of_mem_terms {term : Term} (h : term ∈ (lexiconOf history).terms category) :
    ∃ form ∈ term.forms, form ≠ [] := by
  rw [terms_lexiconOf_eq_append, List.mem_append] at h
  rcases h with hBuiltIn | hAdded
  · exact forms_builtIn category term hBuiltIn
  · obtain ⟨value, hNew, rfl⟩ := List.mem_map.mp hAdded
    exact ⟨stems value, List.mem_singleton_self _,
      stems_ne_nil_of_mem_givenValues (mem_newValues_iff.mp hNew).1⟩

/-- Values that were given before are there. -/
theorem givenValues_subset_values :
    givenValues (givenTerms history category) ⊆ (lexiconOf history).values category := by
  have hTerms := terms_foldl_extend history category Lexicon.builtIn
  rw [Lexicon.values, lexiconOf, hTerms, ← givenTerms]
  intro value hGiven
  exact mem_values_foldl_addTerm_iff.mpr (Or.inr hGiven)

/-- **What a lexicon knows after any history of extensions.**  The vocabulary of a category is the
built-in one with the new values of the given terms behind it, no value stands there twice, and every
term has a spelling.  Terms can be given at once or one after the other, terms with values that were
given before change nothing, and the calls for one category have no part in another one. -/
theorem terms_of_history :
    (∀ (history : List (Category × List String)) (category : Category),
      (lexiconOf history).terms category =
          Lexicon.builtIn.terms category ++
            (newValues (Lexicon.builtIn.values category)
              (givenValues (givenTerms history category))).map Term.plain ∧
        ((lexiconOf history).values category).Nodup ∧
        (∀ term ∈ (lexiconOf history).terms category, ∃ form ∈ term.forms, form ≠ []) ∧
        (∀ xs ys, (lexiconOf history).extend category (xs ++ ys) =
          ((lexiconOf history).extend category xs).extend category ys) ∧
        (∀ texts, givenValues texts ⊆ givenValues (givenTerms history category) →
          (lexiconOf history).extend category texts = lexiconOf history)) ∧
    (∀ (history : List (Category × List String)) (c d : Category), c ≠ d → ∀ xs ys,
      ((lexiconOf history).extend c xs).extend d ys =
          ((lexiconOf history).extend d ys).extend c xs ∧
        ((lexiconOf history).extend c xs).terms d = (lexiconOf history).terms d) := by
  constructor
  · intro history category
    refine ⟨terms_lexiconOf_eq_append history category, nodup_values_lexiconOf history category,
      fun term => exists_form_of_mem_terms history category,
      fun xs ys => Lexicon.extend_append _ category xs ys, ?_⟩
    intro texts hGiven
    exact ((lexiconOf history).extend_eq_self_iff category texts).mpr
      (List.Subset.trans hGiven (givenValues_subset_values history category))
  · intro history c d hApart xs ys
    exact ⟨Lexicon.extend_comm _ hApart xs ys,
      Lexicon.terms_extend_of_ne _ (Ne.symm hApart) xs⟩

/-- A term that is given again and again, with blanks and capitals, between terms that are passed
over. -/
theorem terms_of_history_rust :
    (lexiconOf [(.skill, ["Rust", "--"]), (.skill, [" RUST ", "Python"])]).terms .skill =
        Lexicon.builtIn.terms .skill ++ [Term.plain "rust"] ∧
      givenValues ["rUST"] ⊆ givenValues (givenTerms [(.skill, ["Rust"])] .skill) ∧
      (lexiconOf [(.skill, ["Rust"])]).extend .skill ["rUST"] = lexiconOf [(.skill, ["Rust"])] ∧
      Category.skill ≠ .state ∧
      ((lexiconOf []).extend .skill ["Rust"]).extend .state ["Ohio"] =
        ((lexiconOf []).extend .state ["Ohio"]).extend .skill ["Rust"] := by
  have hNew : newValues (Lexicon.builtIn.values .skill)
      (givenValues (givenTerms [(.skill, ["Rust", "--"]), (.skill, [" RUST ", "Python"])] .skill)) =
        ["rust"] := by decide +kernel
  have hGiven : givenValues ["rUST"] ⊆ givenValues (givenTerms [(.skill, ["Rust"])] .skill) := by
    decide +kernel
  have hApart : Category.skill ≠ .state := by decide
  refine ⟨?_, hGiven, ?_, hApart, ?_⟩
  · rw [(terms_of_history.1 _ .skill).1, hNew]
    rfl
  · obtain ⟨-, -, -, -, hAgain⟩ := terms_of_history.1 [(.skill, ["Rust"])] .skill
    exact hAgain ["rUST"] hGiven
  · exact (terms_of_history.2 [] .skill .state hApart ["Rust"] ["Ohio"]).1

end StaffSearch.Query
