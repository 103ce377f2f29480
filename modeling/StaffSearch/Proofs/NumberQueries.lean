import StaffSearch.Proofs.Clauses

/-!
# Asking for a salary and an age

A query with a clause for the salary and a clause for the age, such as "salary above 50,000 and age
below 30", constrains each of the two fields with its own number.  The clauses may come in either
order, with any words before, between and behind them that are no anchors.  Both numbers are
compared in the same way, which the fillers of the whole query decide (`comparison`), and the join
date stays free.

Every text of such a query is an anchor that opens a clause, a numeral that ends one, or a filler.
Only anchors can be anchors and only numerals can be numerals, so that the tokens of a clause are as
the binder wants them (`Clause.exists_tokens`) and each anchor takes the numeral of its own clause
(`NumberQuery.bind_text`).  Words for a direction are neither anchors nor numerals, so that only
fillers have a say in the comparison (`NumberQuery.constraint_eq_comparison`).
-/

namespace StaffSearch.Query

open StaffSearch.Text

/-! ## Quiet texts -/

/-- The text is no anchor of any kind. -/
def IsQuiet (text : String) : Prop := ∀ anchor : Anchor, stem text ∉ anchor.stems

/-- A word of ASCII letters that is no anchor of any kind. -/
structure IsFiller (word : String) : Prop where
  ne_empty : word ≠ ""
  letters : ∀ c ∈ word.toList, isAsciiLetter c = true
  quiet : IsQuiet (lowercase word)

theorem Anchor.mem_all (anchor : Anchor) : anchor ∈ Anchor.all := by
  cases anchor <;> decide

theorem isQuiet_iff {text : String} :
    IsQuiet text ↔ ∀ anchor ∈ Anchor.all, stem text ∉ anchor.stems :=
  ⟨fun h anchor _ => h anchor, fun h anchor => h anchor anchor.mem_all⟩

instance (text : String) : Decidable (IsQuiet text) := decidable_of_iff' _ isQuiet_iff

theorem isFiller_iff {word : String} : IsFiller word ↔
    word ≠ "" ∧ word.toList.all isAsciiLetter = true ∧ IsQuiet (lowercase word) :=
  ⟨fun h => ⟨h.ne_empty, List.all_eq_true.mpr h.letters, h.quiet⟩,
    fun ⟨hSome, hLetters, hQuiet⟩ => ⟨hSome, List.all_eq_true.mp hLetters, hQuiet⟩⟩

instance (word : String) : Decidable (IsFiller word) := decidable_of_iff' _ isFiller_iff

/-- The kinds of anchors that own numerals in a query that asks for no join date. -/
abbrev numericAnchors : List Anchor := [.salary, .age]

theorem ofStem?_of_isQuiet {text : String} (h : IsQuiet text) (active : List Anchor) :
    Anchor.ofStem? active (stem text) = none := by
  rw [Anchor.ofStem?, List.find?_eq_none]
  intro anchor _ hFound
  rw [Bool.and_eq_true] at hFound
  exact h anchor (List.contains_iff_mem.mp hFound.2)

theorem stems_salary : ∀ text ∈ Anchor.salary.stems,
    Anchor.ofStem? numericAnchors text = some .salary ∧ text ≠ "year" := by decide +kernel

theorem stems_age : ∀ text ∈ Anchor.age.stems,
    Anchor.ofStem? numericAnchors text = some .age ∧ text ≠ "year" := by decide +kernel

theorem year_mem_stems : "year" ∈ Anchor.years.stems := by decide +kernel

/-- No anchor has a digit in it. -/
theorem not_digit_of_mem_stems : ∀ anchor ∈ Anchor.all, ∀ text ∈ anchor.stems,
    text.toList.any isAsciiDigit = false := by decide +kernel

theorem quiet_keywords : ∀ keyword ∈ upwardWords ++ downwardWords, ∀ anchor ∈ Anchor.all,
    stem keyword ∉ anchor.stems := by decide +kernel

theorem not_digit_keywords : ∀ keyword ∈ upwardWords ++ downwardWords,
    keyword.toList.any isAsciiDigit = false := by decide +kernel

/-- A quiet text is no word for years. -/
theorem IsQuiet.stem_ne_year {text : String} (h : IsQuiet text) : stem text ≠ "year" := by
  intro hYear
  apply h .years
  rw [hYear]
  exact year_mem_stems

theorem any_digit_spelling (spelling : Spelling) :
    (String.ofList spelling.digits).toList.any isAsciiDigit = true := by
  obtain ⟨c, rest, hDigits, hDigit⟩ := spelling.exists_digits_cons
  rw [String.toList_ofList, hDigits, List.any_cons, hDigit, Bool.true_or]

theorem isQuiet_spelling (spelling : Spelling) : IsQuiet (String.ofList spelling.digits) := by
  intro anchor hMem
  rw [stem_spelling] at hMem
  have hNone := not_digit_of_mem_stems anchor anchor.mem_all _ hMem
  rw [any_digit_spelling] at hNone
  exact absurd hNone (by decide)

/-! ## Clauses of words -/

/-- A clause as it is written: an anchor word for the salary or the age, which is one token with the
given text, then fillers, and a numeral whose value fits a signed 64-bit word. -/
structure Clause where
  anchor : Anchor
  word : String
  text : String
  fillers : List String
  numeral : Spelling
  isNumeric : anchor ∈ numericAnchors
  isWord : wordsOf word = [text]
  isAnchor : stem text ∈ anchor.stems
  areFillers : ∀ filler ∈ fillers, IsFiller filler
  fits : numeral.value < Word.count 63

theorem flatMap_wordsOf_fillers {fillers : List String} (h : ∀ filler ∈ fillers, IsFiller filler) :
    fillers.flatMap wordsOf = fillers.map lowercase := by
  induction fillers with
  | nil => rfl
  | cons filler fillers ih =>
      have hFiller := h filler List.mem_cons_self
      rw [List.flatMap_cons, List.map_cons, wordsOf_of_letters hFiller.ne_empty hFiller.letters,
        ih fun other hMem => h other (List.mem_cons_of_mem _ hMem)]
      rfl

/-- The tokens of fillers are no anchors and no numerals. -/
theorem fillerTokens_are_quiet {fillers : List String} (h : ∀ filler ∈ fillers, IsFiller filler)
    {tokens : List Token} (hStems : ∀ token ∈ tokens, token.stem = stem token.text)
    (hTexts : tokens.map (·.text) = fillers.map lowercase) :
    ∀ token ∈ tokens,
      Anchor.ofStem? numericAnchors token.stem = none ∧ token.numeral? = none := by
  intro token hMem
  have hText : token.text ∈ fillers.map lowercase := by
    rw [← hTexts]
    exact List.mem_map_of_mem hMem
  obtain ⟨filler, hFiller, hSame⟩ := List.mem_map.mp hText
  constructor
  · rw [hStems token hMem, ← hSame]
    exact ofStem?_of_isQuiet (h filler hFiller).quiet _
  · rw [Token.numeral?, ← hSame]
    exact numeralOf?_lowercase (h filler hFiller).letters

namespace Clause

variable (clause : Clause)

/-- The field that the clause is about. -/
def field : Field := if clause.anchor = .salary then .salary else .age

/-- The number of the clause. -/
def number : Operand := .number (Int64.ofNat clause.numeral.value)

/-- The words of the clause as they are written. -/
def pieces : List String := clause.word :: (clause.fillers ++ [clause.numeral.text])

/-- The texts of the tokens of the clause. -/
def texts : List String :=
  clause.text :: (clause.fillers.map lowercase ++ [String.ofList clause.numeral.digits])

theorem flatMap_wordsOf_pieces : clause.pieces.flatMap wordsOf = clause.texts := by
  rw [pieces, List.flatMap_cons, List.flatMap_append, flatMap_wordsOf_fillers clause.areFillers,
    List.flatMap_singleton, clause.isWord, wordsOf_spelling]
  rfl

theorem anchor_eq : clause.anchor = .salary ∨ clause.anchor = .age := by
  have hKind := clause.isNumeric
  simp only [numericAnchors, List.mem_cons, List.not_mem_nil, or_false] at hKind
  exact hKind

theorem ofStem?_text : Anchor.ofStem? numericAnchors (stem clause.text) = some clause.anchor ∧
    stem clause.text ≠ "year" := by
  have hAnchor := clause.isAnchor
  rcases clause.anchor_eq with hSalary | hAge
  · rw [hSalary] at hAnchor ⊢
    exact stems_salary _ hAnchor
  · rw [hAge] at hAnchor ⊢
    exact stems_age _ hAnchor

/-- **A clause of words becomes a clause of tokens.** -/
theorem exists_tokens {tokens : List Token}
    (hStems : ∀ token ∈ tokens, token.stem = stem token.text)
    (hTexts : tokens.map (·.text) = clause.texts) :
    ∃ found : ClauseTokens numericAnchors, found.tokens = tokens ∧
      found.anchor = clause.anchor ∧ found.value = clause.numeral.value ∧
        found.fillers.length = clause.fillers.length := by
  obtain ⟨word, behind, rfl, hWord, hBehind⟩ := List.map_eq_cons_iff.mp hTexts
  obtain ⟨fillers, last, rfl, hFillers, hLast⟩ := List.map_eq_append_iff.mp hBehind
  obtain ⟨numeral, rest, rfl, hNumeral, hRest⟩ := List.map_eq_cons_iff.mp hLast
  obtain rfl := List.map_eq_nil_iff.mp hRest
  have hQuiet := fillerTokens_are_quiet clause.areFillers
    (fun token hMem => hStems token (by simp [hMem])) hFillers
  have hNumeralStem : numeral.stem = stem numeral.text := hStems numeral (by simp)
  have hForward : clause.anchor.looksForward = true := by
    rcases clause.anchor_eq with hSalary | hAge
    · rw [hSalary]
      rfl
    · rw [hAge]
      rfl
  have hAnchor : Anchor.ofStem? numericAnchors word.stem = some clause.anchor := by
    rw [hStems word List.mem_cons_self, hWord]
    exact clause.ofStem?_text.1
  have hValue : numeral.numeral? = some clause.numeral.value := by
    rw [Token.numeral?, hNumeral, String.toList_ofList, numeralOf?_spelling, if_pos clause.fits]
  have hNoAnchors : ∀ token ∈ fillers ++ [numeral],
      Anchor.ofStem? numericAnchors token.stem = none := by
    intro token hMem
    rcases List.mem_append.mp hMem with hFiller | hLast
    · exact (hQuiet token hFiller).1
    · rw [List.mem_singleton.mp hLast, hNumeralStem, hNumeral]
      exact ofStem?_of_isQuiet (isQuiet_spelling clause.numeral) _
  have hLength : fillers.length = clause.fillers.length := by
    rw [← List.length_map (·.text), hFillers, List.length_map]
  exact ⟨{ anchor := clause.anchor, value := clause.numeral.value, word, fillers, numeral,
           looksForward := hForward, isAnchor := hAnchor, areQuiet := hNoAnchors,
           areNoNumerals := fun token hMem => (hQuiet token hMem).2, hasValue := hValue },
    rfl, rfl, rfl, hLength⟩

/-- No token of a clause is a word for years. -/
theorem stem_ne_year {text : String} (h : text ∈ clause.texts) : stem text ≠ "year" := by
  rw [texts, List.mem_cons, List.mem_append, List.mem_singleton] at h
  rcases h with rfl | hFiller | rfl
  · exact clause.ofStem?_text.2
  · obtain ⟨filler, hMem, rfl⟩ := List.mem_map.mp hFiller
    exact (clause.areFillers filler hMem).quiet.stem_ne_year
  · exact (isQuiet_spelling clause.numeral).stem_ne_year

/-- A word for a direction is a token of a clause only if it is a filler. -/
theorem keyword_mem_texts_iff {keyword : String} (h : keyword ∈ upwardWords ++ downwardWords) :
    keyword ∈ clause.texts ↔ keyword ∈ clause.fillers.map lowercase := by
  have hWord : keyword ≠ clause.text := by
    rintro rfl
    exact quiet_keywords _ h clause.anchor clause.anchor.mem_all clause.isAnchor
  have hNumeral : keyword ≠ String.ofList clause.numeral.digits := by
    rintro rfl
    have hNone := not_digit_keywords _ h
    rw [any_digit_spelling] at hNone
    exact absurd hNone (by decide)
  simp [texts, hWord, hNumeral]

theorem extractor_mem (lexicon : Lexicon) :
    Extractor.numeric clause.field clause.anchor ∈ Compiler.standardExtractors lexicon := by
  rcases clause.anchor_eq with hSalary | hAge
  · have hField : clause.field = .salary := by rw [field, hSalary]; rfl
    rw [hField, hSalary]
    simp [Compiler.standardExtractors, Extractor.salary]
  · have hField : clause.field = .age := by rw [field, hAge]; rfl
    rw [hField, hAge]
    simp [Compiler.standardExtractors, Extractor.age]

end Clause

/-! ## Queries -/

/-- A query with a clause for the salary and one for the age, in either order, and fillers in front,
between and behind. -/
structure NumberQuery where
  before : List String
  first : Clause
  between : List String
  second : Clause
  after : List String
  differ : first.anchor ≠ second.anchor
  areFillers : ∀ word ∈ before ++ (between ++ after), IsFiller word

/-- How a number is compared in a query with the given fillers.  Words for "at least" go first. -/
def comparison (fillers : List String) (operand : Operand) : Constraint :=
  if ∃ word ∈ fillers, lowercase word ∈ upwardWords then .atLeast operand
  else if ∃ word ∈ fillers, lowercase word ∈ downwardWords then .atMost operand
  else .equals operand

namespace NumberQuery

variable (query : NumberQuery)

/-- The words of the query as they are written, with single spaces between them. -/
def text : String :=
  " ".intercalate (query.before ++ (query.first.pieces ++
    (query.between ++ (query.second.pieces ++ query.after))))

/-- All fillers of the query, those of the clauses included. -/
def fillers : List String :=
  query.before ++ (query.first.fillers ++
    (query.between ++ (query.second.fillers ++ query.after)))

theorem areFillers_before : ∀ word ∈ query.before, IsFiller word := fun word hMem =>
  query.areFillers word (List.mem_append_left _ hMem)

theorem areFillers_between : ∀ word ∈ query.between, IsFiller word := fun word hMem =>
  query.areFillers word (List.mem_append_right _ (List.mem_append_left _ hMem))

theorem areFillers_after : ∀ word ∈ query.after, IsFiller word := fun word hMem =>
  query.areFillers word (List.mem_append_right _ (List.mem_append_right _ hMem))

/-- **The texts of the tokens** of the query. -/
theorem wordsOf_text : wordsOf query.text =
    query.before.map lowercase ++ (query.first.texts ++
      (query.between.map lowercase ++ (query.second.texts ++ query.after.map lowercase))) := by
  rw [text, wordsOf_intercalate]
  simp only [List.flatMap_append, Clause.flatMap_wordsOf_pieces,
    flatMap_wordsOf_fillers query.areFillers_before,
    flatMap_wordsOf_fillers query.areFillers_between,
    flatMap_wordsOf_fillers query.areFillers_after]

/-- Among the words for a direction, the tokens of the query are its fillers. -/
theorem keyword_mem_wordsOf_iff {keyword : String} (h : keyword ∈ upwardWords ++ downwardWords) :
    keyword ∈ wordsOf query.text ↔ ∃ filler ∈ query.fillers, lowercase filler = keyword := by
  rw [← List.mem_map, wordsOf_text, fillers]
  simp only [List.map_append, List.mem_append, Clause.keyword_mem_texts_iff _ h]

theorem containsText_iff {words : List String} (h : ∀ word ∈ words,
    word ∈ upwardWords ++ downwardWords) : containsText words (tokenize query.text) = true ↔
      ∃ filler ∈ query.fillers, lowercase filler ∈ words := by
  rw [containsText, List.any_eq_true]
  constructor
  · rintro ⟨token, hMem, hContains⟩
    have hWord : token.text ∈ words := List.contains_iff_mem.mp hContains
    obtain ⟨filler, hFiller, hSame⟩ :=
      (query.keyword_mem_wordsOf_iff (h _ hWord)).mp (List.mem_map_of_mem hMem)
    refine ⟨filler, hFiller, ?_⟩
    rw [hSame]
    exact hWord
  · rintro ⟨filler, hFiller, hWord⟩
    obtain ⟨token, hMem, hSame⟩ := List.mem_map.mp
      ((query.keyword_mem_wordsOf_iff (h _ hWord)).mpr ⟨filler, hFiller, rfl⟩)
    refine ⟨token, hMem, List.contains_iff_mem.mpr ?_⟩
    rw [hSame]
    exact hWord

/-- **The fillers decide how numbers are compared.** -/
theorem constraint_eq_comparison (value : Nat) :
    (directionOf (tokenize query.text)).constraint value =
      comparison query.fillers (.number (Int64.ofNat value)) := by
  have hUpward := query.containsText_iff fun word hMem =>
    List.mem_append_left downwardWords hMem
  have hDownward := query.containsText_iff fun word hMem =>
    List.mem_append_right upwardWords hMem
  rw [directionOf, comparison]
  by_cases hUp : ∃ word ∈ query.fillers, lowercase word ∈ upwardWords
  · rw [if_pos hUp, if_pos (hUpward.mpr hUp)]
    rfl
  · rw [if_neg hUp, if_neg (mt hUpward.mp hUp)]
    by_cases hDown : ∃ word ∈ query.fillers, lowercase word ∈ downwardWords
    · rw [if_pos hDown, if_pos (hDownward.mpr hDown)]
      rfl
    · rw [if_neg hDown, if_neg (mt hDownward.mp hDown)]
      rfl

/-- The query asks for no join date, whether it speaks of joining or not. -/
theorem asksForJoinDate_eq_false : asksForJoinDate (tokenize query.text) = false := by
  have hNoYear : ∀ text ∈ wordsOf query.text, stem text ≠ "year" := by
    have hQuiet : ∀ {fillers : List String}, (∀ word ∈ fillers, IsFiller word) →
        ∀ text ∈ fillers.map lowercase, stem text ≠ "year" := by
      intro fillers hFillers text hMem
      obtain ⟨filler, hFiller, rfl⟩ := List.mem_map.mp hMem
      exact (hFillers filler hFiller).quiet.stem_ne_year
    intro text hMem
    simp only [wordsOf_text, List.mem_append] at hMem
    rcases hMem with hMem | hMem | hMem | hMem | hMem
    · exact hQuiet query.areFillers_before text hMem
    · exact query.first.stem_ne_year hMem
    · exact hQuiet query.areFillers_between text hMem
    · exact query.second.stem_ne_year hMem
    · exact hQuiet query.areFillers_after text hMem
  have hStem : containsStem "year" (tokenize query.text) = false := by
    rw [containsStem, List.any_eq_false]
    intro token hMem hYear
    rw [stem_of_mem_tokenize hMem, beq_iff_eq] at hYear
    exact hNoYear token.text (List.mem_map_of_mem hMem) hYear
  rw [asksForJoinDate, hStem, Bool.and_false]

/-- **Each anchor of the query takes the numeral of its own clause.** -/
theorem bind_text {binder : Binder}
    (hFirst : query.first.fillers.length < binder.window.toNat)
    (hSecond : query.second.fillers.length < binder.window.toNat)
    (hSize : binder.window.toNat + (tokenize query.text).length < 2 ^ 64) :
    ((binder.bind (tokenize query.text) numericAnchors).get? query.first.anchor).map (·.value) =
        some query.first.numeral.value ∧
      ((binder.bind (tokenize query.text) numericAnchors).get? query.second.anchor).map (·.value) =
        some query.second.numeral.value := by
  -- the tokens fall into parts as their texts do
  obtain ⟨before, rest₁, hAll, hBefore, hRest₁⟩ := List.map_eq_append_iff.mp query.wordsOf_text
  obtain ⟨tokens₁, rest₂, rfl, hTokens₁, hRest₂⟩ := List.map_eq_append_iff.mp hRest₁
  obtain ⟨between, rest₃, rfl, hBetween, hRest₃⟩ := List.map_eq_append_iff.mp hRest₂
  obtain ⟨tokens₂, after, rfl, hTokens₂, hAfter⟩ := List.map_eq_append_iff.mp hRest₃
  have hStems : ∀ token ∈ before ++ (tokens₁ ++ (between ++ (tokens₂ ++ after))),
      token.stem = stem token.text := by
    rw [← hAll]
    exact fun token hMem => stem_of_mem_tokenize hMem
  simp only [List.forall_mem_append] at hStems
  obtain ⟨hStemsBefore, hStems₁, hStemsBetween, hStems₂, hStemsAfter⟩ := hStems
  obtain ⟨first, rfl, hAnchor₁, hValue₁, hLength₁⟩ := query.first.exists_tokens hStems₁ hTokens₁
  obtain ⟨second, rfl, hAnchor₂, hValue₂, hLength₂⟩ :=
    query.second.exists_tokens hStems₂ hTokens₂
  rw [← hAnchor₁, ← hAnchor₂, ← hValue₁, ← hValue₂]
  apply ClauseTokens.bind_two ?_ ?_ ?_ ?_ ?_ ?_ hAll hSize
  · rw [hAnchor₁, hAnchor₂]
    exact query.differ
  · exact fun token hMem =>
      (fillerTokens_are_quiet query.areFillers_before hStemsBefore hBefore token hMem).1
  · exact fun token hMem =>
      (fillerTokens_are_quiet query.areFillers_between hStemsBetween hBetween token hMem).1
  · exact fun token hMem =>
      (fillerTokens_are_quiet query.areFillers_after hStemsAfter hAfter token hMem).1
  · rw [hLength₁]
    exact hFirst
  · rw [hLength₂]
    exact hSecond

end NumberQuery

/--
**A salary and an age are never mixed up.**  A query with a clause for each compiles, unless the
gate blocks one of its tokens, when the window reaches the numerals of both clauses.  The field of
each clause is compared with the number of that clause, and the fillers of the whole query decide
how.  The join date stays free.
-/
theorem compile_numberQuery {settings : CompilerSettings} {compiler : Compiler}
    (hCompiler : Compiler.ofSettings settings = .ok compiler) (query : NumberQuery)
    (hFirst : query.first.fillers.length < settings.window.toNat)
    (hSecond : query.second.fillers.length < settings.window.toNat)
    (hSize : settings.window.toNat + (tokenize query.text).length < 2 ^ 64)
    (hPasses : ∀ token ∈ tokenize query.text, token.stem ∉ compiler.gate.blocked)
    (now : Instant) :
    ∃ filter, compiler.compile query.text now = .ok filter ∧
      filter.get? query.first.field = some (comparison query.fillers query.first.number) ∧
      filter.get? query.second.field = some (comparison query.fillers query.second.number) ∧
      filter.get? .joinDate = none := by
  have hBinder : compiler.binder.window = settings.window := by
    obtain ⟨hWindow, rfl⟩ := Compiler.ofSettings_eq_ok_iff.mp hCompiler
    exact if_neg hWindow
  rw [← hBinder] at hFirst hSecond hSize
  have hToken : tokenize query.text ≠ [] := by
    intro hNone
    have hWords := query.wordsOf_text
    rw [wordsOf, hNone, Clause.texts] at hWords
    simp at hWords
  obtain ⟨filter, hCompile, hFound, -⟩ :=
    Compiler.compile_of_unblocked hCompiler now hToken hPasses
  have hActive : Compiler.activeAnchors (tokenize query.text) = numericAnchors := by
    rw [Compiler.activeAnchors, query.asksForJoinDate_eq_false]
    rfl
  obtain ⟨hValue₁, hValue₂⟩ := query.bind_text hFirst hSecond hSize
  -- both fields are alike: the value is what the anchor took, the rest depends on the query only
  have hClause : ∀ clause : Clause,
      ((compiler.binder.bind (tokenize query.text) numericAnchors).get? clause.anchor).map
        (·.value) = some clause.numeral.value →
      filter.get? clause.field = some (comparison query.fillers clause.number) := by
    intro clause hValue
    obtain ⟨binding, hBinding, hSame⟩ := Option.map_eq_some_iff.mp hValue
    have hGet := hFound _ (clause.extractor_mem _)
    rw [Extractor.constraint?, Compiler.contextOf] at hGet
    dsimp only at hGet
    rw [hActive, hBinding, Option.map_some, hSame, query.constraint_eq_comparison] at hGet
    exact hGet
  refine ⟨filter, hCompile, hClause _ hValue₁, hClause _ hValue₂, ?_⟩
  have hJoinDate := hFound .joinDate (by simp [Compiler.standardExtractors])
  rw [Extractor.constraint?, Compiler.contextOf] at hJoinDate
  dsimp only at hJoinDate
  rw [query.asksForJoinDate_eq_false] at hJoinDate
  exact hJoinDate

/-- The numeral `50,000`. -/
private def fiftyThousand : Spelling where
  head := ['5', '0']
  groups := [['0', '0', '0']]
  head_ne_nil := by decide
  head_digits := List.all_eq_true.mp (by decide)
  groups_digits := by
    intro group hMem
    rw [List.mem_singleton.mp hMem]
    exact ⟨by decide, List.all_eq_true.mp (by decide)⟩

/-- The numeral `30`. -/
private def thirty : Spelling where
  head := ['3', '0']
  groups := []
  head_ne_nil := by decide
  head_digits := List.all_eq_true.mp (by decide)
  groups_digits := fun _ hMem => absurd hMem List.not_mem_nil

/-- A query with a clause for the salary and one for the age. -/
private def sampleQuery : NumberQuery where
  before := ["Employees", "with"]
  first :=
    { anchor := .salary, word := "salary", text := "salary", fillers := ["above"]
      numeral := fiftyThousand, isNumeric := by decide, isWord := by decide +kernel
      isAnchor := by decide +kernel, areFillers := by decide +kernel, fits := by decide +kernel }
  between := ["and"]
  second :=
    { anchor := .age, word := "age", text := "age", fillers := ["below"]
      numeral := thirty, isNumeric := by decide, isWord := by decide +kernel
      isAnchor := by decide +kernel, areFillers := by decide +kernel, fits := by decide +kernel }
  after := []
  differ := by decide
  areFillers := by decide +kernel

/-- Words for both directions make both numbers lower bounds. -/
theorem compile_numberQuery_above :
    ∃ compiler, Compiler.ofSettings {} = .ok compiler ∧ ∀ now, ∃ filter,
      compiler.compile "Employees with salary above 50,000 and age below 30" now = .ok filter ∧
        filter.get? .salary = some (.atLeast (.number 50000)) ∧
        filter.get? .age = some (.atLeast (.number 30)) ∧
        filter.get? .joinDate = none := by
  obtain ⟨compiler, hCompiler⟩ := Compiler.exists_ofSettings {} (by decide)
  have hText : sampleQuery.text = "Employees with salary above 50,000 and age below 30" := by
    decide +kernel
  have hWords : wordsOf sampleQuery.text =
      ["employees", "with", "salary", "above", "50000", "and", "age", "below", "30"] := by
    rw [sampleQuery.wordsOf_text]
    decide +kernel
  have hPasses : ∀ token ∈ tokenize sampleQuery.text, token.stem ∉ compiler.gate.blocked := by
    have hStems : ∀ text ∈ wordsOf sampleQuery.text, stem text ∉ compiler.gate.blocked := by
      rw [hWords, Compiler.blocked_of_ofSettings_default hCompiler]
      decide +kernel
    intro token hMem
    rw [stem_of_mem_tokenize hMem]
    exact hStems token.text (List.mem_map_of_mem hMem)
  have hLength : (tokenize sampleQuery.text).length = 9 := by
    rw [← List.length_map (·.text)]
    exact congrArg List.length hWords
  refine ⟨compiler, hCompiler, fun now => ?_⟩
  obtain ⟨filter, hCompile, hSalary, hAge, hJoinDate⟩ :=
    compile_numberQuery hCompiler sampleQuery (by decide) (by decide)
      (by rw [hLength]; decide) hPasses now
  rw [hText] at hCompile
  have hFirst : comparison sampleQuery.fillers sampleQuery.first.number =
      .atLeast (.number 50000) := by decide +kernel
  have hSecond : comparison sampleQuery.fillers sampleQuery.second.number =
      .atLeast (.number 30) := by decide +kernel
  rw [hFirst] at hSalary
  rw [hSecond] at hAge
  exact ⟨filter, hCompile, hSalary, hAge, hJoinDate⟩

end StaffSearch.Query
