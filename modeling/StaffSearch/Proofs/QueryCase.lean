import StaffSearch.Proofs.AlikeTexts
import StaffSearch.Proofs.AsciiCase
import StaffSearch.Proofs.Compilation

/-!
# Searching in capitals and in small letters

A query is read in two ways, and both of them ignore the case of its ASCII letters.  The tokens are
lowercase already, so they are the same tokens (`tokenize_lowercaseAscii`).  The city is captured
from the query as it is spelled, by a search that ignores case at every step, so two spellings lead
to the same place and capture the same word in two spellings (`capture?_lowercaseAscii`).

The spelling of a city is all that the case of a query leaves in a filter, and a pattern is compared
in lowercase, so the filters admit the same records (`compile_ignores_case`).
-/

namespace StaffSearch

open StaffSearch.Text

namespace Query

/-! ## Tokens -/

theorem readAlike_lowerAscii (c : Char) : ReadAlike c (lowerAscii c) where
  alphanumeric := isAlphanumeric_lowerAscii c
  digit := isAsciiDigit_lowerAscii c
  comma := changesLetters_lowerAscii.eq_sign_iff (by decide) c
  lower := lowerChar_lowerAscii c

/-- **The case of ASCII letters does not show in the tokens.** -/
theorem tokenize_lowercaseAscii (text : String) :
    tokenize (lowercaseAscii text) = tokenize text := by
  rw [tokenize, tokenize, toList_lowercaseAscii]
  exact tokenizeList_map_of_size (fun c _ => readAlike_lowerAscii c)
    fun c _ => utf8Size_lowerAscii c

/-! ## Pieces of a site -/

@[simp] theorem isWordAt_map_lowerAscii (c : Option Char) :
    isWordAt (c.map lowerAscii) = isWordAt c := by
  cases c with
  | none => rfl
  | some c => exact isWordCharacter_lowerAscii c

@[simp] theorem isBoundary_map_lowerAscii (before after : Option Char) :
    isBoundary (before.map lowerAscii) (after.map lowerAscii) = isBoundary before after := by
  rw [isBoundary, isBoundary, isWordAt_map_lowerAscii, isWordAt_map_lowerAscii]

@[simp] theorem trimStart_map_lowerAscii (text : List Char) :
    trimStart (text.map lowerAscii) = (trimStart text).map lowerAscii := by
  have hBlank : isBlank ∘ lowerAscii = isBlank := funext isBlank_lowerAscii
  rw [trimStart, List.dropWhile_map, hBlank]
  rfl

@[simp] theorem leadingWord?_map_lowerAscii (text : List Char) :
    leadingWord? (text.map lowerAscii) = (leadingWord? text).map (·.map lowerAscii) := by
  have hWord : isWordCharacter ∘ lowerAscii = isWordCharacter :=
    funext isWordCharacter_lowerAscii
  unfold leadingWord?
  rw [List.takeWhile_map, hWord]
  cases text.takeWhile isWordCharacter <;> rfl

@[simp] theorem afterBlanks?_map_lowerAscii (text : List Char) :
    afterBlanks? (text.map lowerAscii) = (afterBlanks? text).map (·.map lowerAscii) := by
  cases text with
  | nil => rfl
  | cons c rest =>
      rw [List.map_cons, afterBlanks?, afterBlanks?, isBlank_lowerAscii, trimStart_map_lowerAscii]
      split <;> rfl

@[simp] theorem afterLink?_map_lowerAscii (text : List Char) :
    afterLink? (text.map lowerAscii) = (afterLink? text).map (·.map lowerAscii) := by
  match text with
  | [] | [_] => rfl
  | a :: b :: rest =>
      rw [List.map_cons, List.map_cons, afterLink?, afterLink?]
      simp only [sameLetter_lowerAscii]
      split
      · rfl
      · split <;> rfl

@[simp] theorem afterTrigger?_map_lowerAscii (trigger : List Char) :
    ∀ (before : Option Char) (text : List Char),
      afterTrigger? (before.map lowerAscii) trigger (text.map lowerAscii) =
        (afterTrigger? before trigger text).map fun found =>
          (found.1.map lowerAscii, found.2.map lowerAscii) := by
  induction trigger with
  | nil =>
      intro before text
      rfl
  | cons t trigger ih =>
      intro before text
      cases text with
      | nil => rfl
      | cons c text =>
          rw [List.map_cons, afterTrigger?, afterTrigger?, sameLetter_lowerAscii]
          split
          · exact ih (some c) text
          · rfl

/-! ## The three ways -/

@[simp] theorem wordAfterSign?_map_lowerAscii (text : List Char) :
    wordAfterSign? (text.map lowerAscii) = (wordAfterSign? text).map (·.map lowerAscii) := by
  unfold wordAfterSign?
  rw [trimStart_map_lowerAscii]
  cases trimStart text with
  | nil => rfl
  | cons c rest =>
      have hColon : lowerAscii c = ':' ↔ c = ':' :=
        changesLetters_lowerAscii.eq_sign_iff (by decide) c
      have hEquals : lowerAscii c = '=' ↔ c = '=' :=
        changesLetters_lowerAscii.eq_sign_iff (by decide) c
      simp only [List.map_cons, hColon, hEquals, trimStart_map_lowerAscii,
        leadingWord?_map_lowerAscii]
      split <;> rfl

@[simp] theorem wordAfterBlanks?_map_lowerAscii (text : List Char) :
    wordAfterBlanks? (text.map lowerAscii) = (wordAfterBlanks? text).map (·.map lowerAscii) := by
  rw [wordAfterBlanks?, wordAfterBlanks?, afterBlanks?_map_lowerAscii]
  cases afterBlanks? text with
  | none => rfl
  | some rest => exact leadingWord?_map_lowerAscii rest

@[simp] theorem wordAfterLink?_map_lowerAscii (text : List Char) :
    wordAfterLink? (text.map lowerAscii) = (wordAfterLink? text).map (·.map lowerAscii) := by
  rw [wordAfterLink?, wordAfterLink?, afterBlanks?_map_lowerAscii]
  cases afterBlanks? text with
  | none => rfl
  | some link =>
      simp only [Option.map_some, Option.bind_some, afterLink?_map_lowerAscii]
      cases afterLink? link with
      | none => rfl
      | some rest => exact wordAfterBlanks?_map_lowerAscii rest

@[simp] theorem followingWord?_map_lowerAscii (text : List Char) :
    followingWord? (text.map lowerAscii) = (followingWord? text).map (·.map lowerAscii) := by
  rw [followingWord?, followingWord?, wordAfterSign?_map_lowerAscii,
    wordAfterLink?_map_lowerAscii, wordAfterBlanks?_map_lowerAscii, Option.map_or, Option.map_or]

/-! ## Sites -/

@[simp] theorem wordAtSite?_map_lowerAscii (trigger : List Char) (before : Option Char)
    (text : List Char) :
    wordAtSite? trigger (before.map lowerAscii) (text.map lowerAscii) =
      (wordAtSite? trigger before text).map (·.map lowerAscii) := by
  unfold wordAtSite?
  rw [List.head?_map, isBoundary_map_lowerAscii, afterTrigger?_map_lowerAscii]
  split
  · cases afterTrigger? before trigger text with
    | none => rfl
    | some found =>
        simp only [Option.map_some, List.head?_map, isBoundary_map_lowerAscii,
          followingWord?_map_lowerAscii]
        split <;> rfl
  · rfl

/-- The leftmost site is at the same place in both spellings. -/
@[simp] theorem firstWord?_map_lowerAscii (trigger text : List Char) :
    ∀ before : Option Char,
      firstWord? trigger (before.map lowerAscii) (text.map lowerAscii) =
        (firstWord? trigger before text).map (·.map lowerAscii) := by
  induction text with
  | nil =>
      intro before
      have hSite := wordAtSite?_map_lowerAscii trigger before []
      unfold firstWord?
      rw [hSite]
      cases wordAtSite? trigger before [] <;> rfl
  | cons c rest ih =>
      intro before
      have hSite := wordAtSite?_map_lowerAscii trigger before (c :: rest)
      unfold firstWord?
      rw [hSite]
      cases wordAtSite? trigger before (c :: rest) with
      | none => exact ih (some c)
      | some word => rfl

/-- **Two spellings of a text capture two spellings of one word.** -/
theorem capture?_lowercaseAscii (trigger text : String) :
    capture? trigger (lowercaseAscii text) = (capture? trigger text).map lowercaseAscii := by
  have hFirst := firstWord?_map_lowerAscii trigger.toList text.toList none
  rw [Option.map_none] at hFirst
  unfold capture?
  rw [toList_lowercaseAscii, hFirst]
  cases firstWord? trigger.toList none text.toList with
  | none => rfl
  | some word =>
      have hWord : String.ofList (word.map lowerAscii) = lowercaseAscii (String.ofList word) := by
        rw [lowercaseAscii, String.toList_ofList]
      simp only [Option.map_some, hWord, lowercase_lowercaseAscii]
      split <;> rfl

end Query

/-! ## Filters -/

/-- Filters that agree on every field, except that the city may be spelled in two ways. -/
structure Filter.EqualUpToCity (a b : Filter) : Prop where
  /-- Every other field is constrained in the same way. -/
  others : ∀ field, field ≠ .city → a.get? field = b.get? field
  /-- The city is unconstrained in both, or its patterns differ in the case of letters only. -/
  city : (a.get? .city = none ∧ b.get? .city = none) ∨
    ∃ word other, equalIgnoringAsciiCase word other = true ∧
      a.get? .city = some (.containsPattern word) ∧
        b.get? .city = some (.containsPattern other)

/-- A record is admitted when every field meets its constraint, if it has one. -/
theorem Filter.admits_eq (filter : Filter) (employee : Employee) :
    filter.admits employee =
      Field.all.all fun field => (filter.get? field).all (·.holdsOf (employee.value field)) := by
  rw [Filter.admits, Filter.entries, List.all_filterMap]
  congr 1
  funext field
  cases filter.get? field <;> rfl

theorem containsPattern_congr {word other : String}
    (h : equalIgnoringAsciiCase word other = true) (text : String) :
    containsPattern word text = containsPattern other text := by
  have hLower : ∀ pattern : String,
      lowerList pattern.toList = lowerList (lowercaseAscii pattern).toList := by
    intro pattern
    rw [toList_lowercaseAscii, lowerList_map_lowerAscii]
  rw [containsPattern, containsPattern, hLower word, equalIgnoringAsciiCase_iff.mp h, ← hLower]

/-- The spelling of a city does not matter to records. -/
theorem Filter.EqualUpToCity.admits {a b : Filter} (h : a.EqualUpToCity b)
    (employee : Employee) : a.admits employee = b.admits employee := by
  rw [Filter.admits_eq, Filter.admits_eq]
  congr 1
  funext field
  by_cases hField : field = .city
  · subst hField
    rcases h.city with ⟨hNone, hNone'⟩ | ⟨word, other, hSame, hWord, hOther⟩
    · rw [hNone, hNone']
    · rw [hWord, hOther]
      exact containsPattern_congr hSame employee.city
  · rw [h.others field hField]

namespace Query

/-! ## Queries with the same tokens -/

/-- An extractor that captures nothing reads the tokens and not the text. -/
theorem constraint?_raw {extractor : Extractor}
    (hTokens : ∀ name field trigger, extractor ≠ .capture name field trigger) (context : Context)
    (raw : String) :
    extractor.constraint? { context with raw } = extractor.constraint? context := by
  cases extractor with
  | vocabulary category terms => rfl
  | capture name field trigger => exact absurd rfl (hTokens name field trigger)
  | numeric field anchor => rfl
  | joinDate => rfl

/-- Only the city is captured. -/
theorem ne_capture_of_field {lexicon : Lexicon} {extractor : Extractor}
    (hMem : extractor ∈ Compiler.standardExtractors lexicon) (hField : extractor.field ≠ .city) :
    ∀ name field trigger, extractor ≠ .capture name field trigger := by
  rintro name field trigger rfl
  simp only [Compiler.standardExtractors, Category.all, Extractor.ofLexicon, Extractor.city,
    Extractor.salary, Extractor.age, List.map_cons, List.map_nil, List.cons_append,
    List.nil_append, List.mem_cons, List.not_mem_nil, reduceCtorEq, false_or, or_false] at hMem
  cases hMem
  exact hField rfl

theorem Compiler.contextOf_of_tokens (compiler : Compiler) {query other : String}
    (h : tokenize query = tokenize other) (now : Instant) :
    compiler.contextOf other now = { compiler.contextOf query now with raw := other } := by
  rw [contextOf, contextOf, h]

/-- Queries with the same tokens meet the same error, or their filters differ in the captured city
only. -/
theorem compile_of_same_tokens {settings : CompilerSettings} {compiler : Compiler}
    (hCompiler : Compiler.ofSettings settings = .ok compiler) {query other : String}
    (hTokens : tokenize query = tokenize other) (now : Instant) :
    (∃ cause, compiler.compile query now = .error cause ∧
      compiler.compile other now = .error cause) ∨
    ∃ filter found, compiler.compile query now = .ok filter ∧
      compiler.compile other now = .ok found ∧
        (∀ field, field ≠ .city → filter.get? field = found.get? field) ∧
          filter.get? .city = (capture? "city" query).map .containsPattern ∧
            found.get? .city = (capture? "city" other).map .containsPattern := by
  by_cases hToken : tokenize query = []
  · left
    exact ⟨_, compiler.compile_of_no_token now hToken,
      compiler.compile_of_no_token now (hTokens ▸ hToken)⟩
  · have hToken' : tokenize other ≠ [] := hTokens ▸ hToken
    by_cases hBlocked : ∃ token ∈ tokenize query, token.stem ∈ compiler.gate.blocked
    · obtain ⟨text, hCheck, -⟩ := Gate.check_of_blocked hBlocked
      left
      refine ⟨.rejected text, ?_, ?_⟩
      · rw [compiler.compile_of_token now hToken, hCheck]
      · rw [compiler.compile_of_token now hToken', ← hTokens, hCheck]
    · have hPasses : ∀ token ∈ tokenize query, token.stem ∉ compiler.gate.blocked :=
        fun token hMem hStem => hBlocked ⟨token, hMem, hStem⟩
      obtain ⟨filter, hFilter, hOwned, hFree⟩ :=
        Compiler.compile_of_unblocked hCompiler now hToken hPasses
      obtain ⟨found, hOther, hOwned', hFree'⟩ :=
        Compiler.compile_of_unblocked hCompiler now hToken' (hTokens ▸ hPasses)
      right
      refine ⟨filter, found, hFilter, hOther, ?_, ?_, ?_⟩
      · intro field hCity
        by_cases hField : field ∈
            (Compiler.standardExtractors (Compiler.lexiconOf settings.extraTerms)).map
              Extractor.field
        · obtain ⟨extractor, hMem, rfl⟩ := List.mem_map.mp hField
          have hRead := constraint?_raw (ne_capture_of_field hMem hCity)
            (compiler.contextOf query now) other
          rw [hOwned extractor hMem, hOwned' extractor hMem,
            compiler.contextOf_of_tokens hTokens now]
          exact hRead.symm
        · rw [hFree field hField, hFree' field hField]
      · exact hOwned .city (by simp [Compiler.standardExtractors])
      · exact hOwned' .city (by simp [Compiler.standardExtractors])

/--
**Compiling ignores the case of ASCII letters.**  Two queries that differ in nothing else are
refused with the same error, or they compile, to filters that agree but for the spelling of the
city and that admit the same records.
-/
theorem compile_ignores_case {settings : CompilerSettings} {compiler : Compiler}
    (hCompiler : Compiler.ofSettings settings = .ok compiler) {query other : String}
    (hSame : equalIgnoringAsciiCase query other = true) (now : Instant) :
    (∃ cause, compiler.compile query now = .error cause ∧
      compiler.compile other now = .error cause) ∨
    ∃ filter found, compiler.compile query now = .ok filter ∧
      compiler.compile other now = .ok found ∧ filter.EqualUpToCity found ∧
        ∀ employee, filter.admits employee = found.admits employee := by
  have hLowered := equalIgnoringAsciiCase_iff.mp hSame
  have hTokens : tokenize query = tokenize other := by
    rw [← tokenize_lowercaseAscii query, hLowered, tokenize_lowercaseAscii]
  have hCaptured : (capture? "city" query).map lowercaseAscii =
      (capture? "city" other).map lowercaseAscii := by
    rw [← capture?_lowercaseAscii, hLowered, capture?_lowercaseAscii]
  rcases compile_of_same_tokens hCompiler hTokens now with hError |
    ⟨filter, found, hFilter, hOther, hFields, hCity, hCity'⟩
  · exact Or.inl hError
  · have hEqual : filter.EqualUpToCity found := by
      refine ⟨hFields, ?_⟩
      rw [hCity, hCity']
      cases hWord : capture? "city" query with
      | none =>
          rw [hWord, Option.map_none, eq_comm, Option.map_eq_none_iff] at hCaptured
          left
          rw [hCaptured]
          exact ⟨rfl, rfl⟩
      | some word =>
          rw [hWord, Option.map_some, eq_comm, Option.map_eq_some_iff] at hCaptured
          obtain ⟨spelled, hSpelled, hWords⟩ := hCaptured
          right
          rw [hSpelled]
          exact ⟨word, spelled, equalIgnoringAsciiCase_iff.mpr hWords.symm, rfl, rfl⟩
    exact Or.inr ⟨filter, found, hFilter, hOther, hEqual, hEqual.admits⟩

/-- Two spellings of a query with a numeral in thousands and a city that is captured. -/
theorem compile_ignores_case_city :
    ∃ compiler, Compiler.ofSettings {} = .ok compiler ∧
      equalIgnoringAsciiCase "SQL, pay over 60K, CITY of Paris" "sql, Pay over 60k, city OF pARIS" =
        true ∧
      ∀ now, ∃ filter found,
        compiler.compile "SQL, pay over 60K, CITY of Paris" now = .ok filter ∧
        compiler.compile "sql, Pay over 60k, city OF pARIS" now = .ok found ∧
          filter.EqualUpToCity found ∧
            ∀ employee, filter.admits employee = found.admits employee := by
  obtain ⟨compiler, hCompiler⟩ := Compiler.exists_ofSettings {} (by decide)
  have hSame : equalIgnoringAsciiCase "SQL, pay over 60K, CITY of Paris"
      "sql, Pay over 60k, city OF pARIS" = true := by decide
  refine ⟨compiler, hCompiler, hSame, fun now => ?_⟩
  rcases compile_ignores_case hCompiler hSame now with ⟨cause, hError, -⟩ | hBoth
  · have hPasses : ∀ token ∈ tokenize "SQL, pay over 60K, CITY of Paris",
        token.stem ∉ compiler.gate.blocked := by
      rw [Compiler.blocked_of_ofSettings_default hCompiler]
      decide +kernel
    obtain ⟨filter, hFilter, -, -⟩ :=
      Compiler.compile_of_unblocked hCompiler now (by decide +kernel) hPasses
    rw [hFilter] at hError
    exact absurd hError (by simp)
  · exact hBoth

end Query
end StaffSearch
