import StaffSearch.Proofs.AlikeTexts
import StaffSearch.Proofs.Vocabularies
import StaffSearch.Proofs.WordContents

/-!
# Terms and their own spellings

A term that is added to a vocabulary is lowercased as a text, and the tokens of that text are what it
is found by.  A query is cut into tokens first, and each character is lowercased by itself.  The two
orders give the same stems exactly when the text is lowercased letter by letter
(`stems_lowercase_eq_iff`).

So a term is found by its own spelling, whatever stands around it, unless the spelling has a dotted
capital I, whose dot ends a token, or a capital sigma at the end of a word, which becomes another
letter (`found_by_own_spelling_iff`).

The proof that these are not found compares the stems without looking at a single one of them: there
are no fewer of them in the lowercase form, so they could only be the same, and the dots and the
final sigmas in them are counted.
-/

namespace StaffSearch.Query

open StaffSearch.Text

/-! ## Lowercasing first -/

theorem readAlike_lowerLetter (c : Char) : ReadAlike c (lowerLetter c) :=
  { sameKind_lowerLetter c with lower := lowerChar_lowerLetter c }

/-- **Lowercasing a text first keeps its stems** exactly when it is lowercased letter by letter. -/
theorem stems_lowercase_eq_iff (text : String) :
    stems (lowercase text) = stems text ↔ LowersByLetter text.toList := by
  constructor
  · intro hSame
    constructor
    · intro hDotted
      -- the dot stands in a stem of the text, and could get into one of the lowercase form only
      -- from a dotted capital I there
      have hDot := (count_combiningDot_stems_pos_iff text).mpr hDotted
      rw [← hSame] at hDot
      have hLowered := (count_combiningDot_stems_pos_iff (lowercase text)).mp hDot
      rw [lowercase, String.toList_ofList] at hLowered
      exact dotted_not_mem_lowerAfter text.toList [] hLowered
    · intro hFinal
      have hMore := (count_final_lowerAfter text.toList []).2 hFinal
      have hCount := count_final_stems (lowercase text)
      rw [hSame, count_final_stems text, lowercase, String.toList_ofList, lowerList] at hCount
      omega
  · intro hLetters
    show (tokenizeList (lowercase text).toList).map (·.stem) = _
    rw [lowercase, String.toList_ofList, lowerList_of_lowersByLetter hLetters]
    exact map_stem_tokenizeList_map fun c _ => readAlike_lowerLetter c

/-- The stems of the lowercase form stand side by side in the text only if they are all of them. -/
theorem stems_lowercase_eq_of_within {text : String}
    (h : stems (lowercase text) <:+: stems text) : stems (lowercase text) = stems text :=
  h.eq_of_length_le (length_stems_le text)

/-- An ASCII lowercase form has no trace of the exceptions. -/
theorem lowersByLetter_of_isAsciiText {text : String} (h : IsAsciiText (lowercase text)) :
    LowersByLetter text.toList := by
  have hAscii : ∀ c, c ∈ lowerAfter [] text.toList → c.toNat < 128 := by
    intro c hMem
    apply h c
    rw [lowercase, String.toList_ofList]
    exact hMem
  constructor
  · intro hDotted
    have hDot := hAscii _ (mem_lowerAfter_of_dotted text.toList [] hDotted)
    exact absurd hDot (by decide)
  · intro hFinal
    have hMore := (count_final_lowerAfter text.toList []).2 hFinal
    have hMem : 'ς' ∈ lowerAfter [] text.toList := List.count_pos_iff.mp (by omega)
    exact absurd (hAscii _ hMem) (by decide)

/-! ## Spellings of a term -/

theorem Term.value_of (value : String) (aliases : List String) :
    (Term.of value aliases).value = lowercase (trim value) := rfl

/-- The stems of its value are among the spellings of a term, if there are any. -/
theorem Term.mem_forms_of {value : String} {aliases : List String}
    (hSome : stems (lowercase (trim value)) ≠ []) :
    stems (lowercase (trim value)) ∈ (Term.of value aliases).forms := by
  apply List.mem_filter.mpr
  refine ⟨List.mem_map_of_mem List.mem_cons_self, ?_⟩
  rw [Bool.not_eq_true', Bool.eq_false_iff]
  exact fun hEmpty => hSome (List.isEmpty_iff.mp hEmpty)

/-- A term without other spellings is found by the stems of its value only. -/
theorem Term.eq_of_mem_forms {value : String} {form : List String}
    (h : form ∈ (Term.of value []).forms) : form = stems (lowercase (trim value)) := by
  simp only [Term.of, List.map_cons, List.map_nil, List.mem_filter, List.mem_singleton] at h
  exact h.1

theorem isAsciiText_builtIn (category : Category) :
    ∀ entry ∈ category.builtIn, IsAsciiText (Term.of entry.1 entry.2).value := by
  cases category <;> decide +kernel

/-! ## Finding a term -/

section Finding

variable {extraTerms : List (Category × List String)} {category : Category} {term : Term}
  {text : String}

/-- The stems of the text stand side by side wherever the text stands between spaces. -/
theorem stems_infix_between (a text b : String) :
    stems text <:+: stems (a ++ " " ++ text ++ " " ++ b) := by
  rw [stems_append_space, stems_append_space]
  exact ⟨stems a, stems b, rfl⟩

/-- A term with the value of a text is found by the text if that is lowercased letter by letter. -/
theorem isPresentIn_between (hMem : term ∈ (Compiler.lexiconOf extraTerms).terms category)
    (hValue : term.value = lowercase (trim text)) (hSome : stems text ≠ [])
    (hLetters : LowersByLetter (trim text).toList) (a b : String) :
    term.isPresentIn (tokenize (a ++ " " ++ text ++ " " ++ b)) = true := by
  have hStems : stems term.value = stems text := by
    rw [hValue, (stems_lowercase_eq_iff (trim text)).mpr hLetters, stems_trim]
  have hForm : stems term.value ∈ term.forms := by
    rw [← hStems] at hSome
    rcases Compiler.mem_terms_lexiconOf hMem with ⟨entry, -, rfl⟩ | ⟨spelling, rfl⟩
    · exact Term.mem_forms_of hSome
    · exact Term.mem_forms_of hSome
  rw [hStems] at hForm
  exact Term.isPresentIn_iff.mpr ⟨_, hForm, hSome, stems_infix_between a text b⟩

/-- A term with the value of a text is found in the text alone only if that is lowercased letter by
letter. -/
theorem lowersByLetter_of_isPresentIn
    (hMem : term ∈ (Compiler.lexiconOf extraTerms).terms category)
    (hValue : term.value = lowercase (trim text))
    (hPresent : term.isPresentIn (tokenize ("" ++ " " ++ text ++ " " ++ "")) = true) :
    LowersByLetter (trim text).toList := by
  rcases Compiler.mem_terms_lexiconOf hMem with ⟨entry, hEntry, rfl⟩ | ⟨spelling, rfl⟩
  · apply lowersByLetter_of_isAsciiText
    rw [← hValue]
    exact isAsciiText_builtIn category entry hEntry
  · obtain ⟨form, hForm, -, hInfix⟩ := Term.isPresentIn_iff.mp hPresent
    have hAlone : (tokenize ("" ++ " " ++ text ++ " " ++ "")).map (·.stem) = stems (trim text) := by
      show stems ("" ++ " " ++ text ++ " " ++ "") = _
      rw [stems_append_space, stems_append_space, stems_trim]
      show [] ++ stems text ++ [] = stems text
      simp
    rw [Term.eq_of_mem_forms hForm, ← Term.value_of, hValue, hAlone] at hInfix
    exact (stems_lowercase_eq_iff (trim text)).mp (stems_lowercase_eq_of_within hInfix)

/--
**Terms and their own spellings**, in every lexicon that can be built.  A term that is added is in
the vocabulary afterwards, by its trimmed lowercase form.  It is found by the text that it was given
as, whatever stands around it, exactly when the trimmed text is lowercased letter by letter.
-/
theorem found_by_own_spelling_iff (extraTerms : List (Category × List String))
    (category : Category) {text : String}
    (hSome : ∃ c ∈ text.toList, isAlphanumeric c = true) :
    (∃ term ∈ ((Compiler.lexiconOf extraTerms).extend category [text]).terms category,
      term.value = lowercase (trim text)) ∧
    ∀ term ∈ ((Compiler.lexiconOf extraTerms).extend category [text]).terms category,
      term.value = lowercase (trim text) →
        ((∀ a b : String,
          term.isPresentIn (tokenize (a ++ " " ++ text ++ " " ++ b)) = true) ↔
            LowersByLetter (trim text).toList) := by
  have hStems := stems_ne_nil hSome
  constructor
  · have hLowered : stems (lowercase (trim text)) ≠ [] := by
      intro hNone
      have hLe := length_stems_le (trim text)
      rw [hNone, stems_trim] at hLe
      exact hStems (List.length_eq_zero_iff.mp (Nat.le_zero.mp hLe))
    have hForms : (Term.of text []).forms ≠ [] := List.ne_nil_of_mem (Term.mem_forms_of hLowered)
    rw [Lexicon.terms_extend_self, List.foldl_cons, List.foldl_nil]
    exact exists_mem_addTerm _ hForms
  · intro term hMem hValue
    rw [Compiler.extend_lexiconOf] at hMem
    constructor
    · intro hPresent
      exact lowersByLetter_of_isPresentIn hMem hValue (hPresent "" "")
    · intro hLetters
      exact isPresentIn_between hMem hValue hStems hLetters

end Finding

/-- A skill with an accent and a number, and blanks around it. -/
theorem found_by_own_spelling_accent :
    ∃ term ∈ ((Compiler.lexiconOf []).extend .skill [" ÉCOLE 42 "]).terms .skill,
      term.value = "école 42" ∧ ∀ a b : String,
        term.isPresentIn (tokenize (a ++ " " ++ " ÉCOLE 42 " ++ " " ++ b)) = true := by
  have hSome : ∃ c ∈ " ÉCOLE 42 ".toList, isAlphanumeric c = true :=
    ⟨'É', by decide, by decide +kernel⟩
  have hValue : lowercase (trim " ÉCOLE 42 ") = "école 42" := by decide +kernel
  have hLetters : LowersByLetter (trim " ÉCOLE 42 ").toList := by
    constructor
    · decide +kernel
    · rintro ⟨front, rest, hText, -⟩
      have hSigma : 'Σ' ∈ (trim " ÉCOLE 42 ").toList := by
        rw [hText]
        exact List.mem_append_right front List.mem_cons_self
      exact absurd hSigma (by decide +kernel)
  obtain ⟨⟨term, hMem, hTerm⟩, hFound⟩ := found_by_own_spelling_iff [] .skill hSome
  exact ⟨term, hMem, hTerm.trans hValue, (hFound term hMem hTerm).mpr hLetters⟩

/-- A term that ends with a capital sigma is not found by the very text that it was given as. -/
theorem not_found_by_own_spelling_sigma :
    ¬ ∃ term ∈ ((Compiler.lexiconOf []).extend .skill ["ΟΔΟΣ"]).terms .skill,
      term.value = lowercase (trim "ΟΔΟΣ") ∧
        term.isPresentIn (tokenize ("" ++ " " ++ "ΟΔΟΣ" ++ " " ++ "")) = true := by
  decide +kernel

end StaffSearch.Query
