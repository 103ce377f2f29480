import StaffSearch.Proofs.Compilation

/-!
# The gate and the captured city

The gate looks at tokens, which are cut where letters and numbers end.  The city is captured from
the query itself, and cut where word characters end.  The two kinds of pieces agree at the front of
a captured word, since a link ends with neither kind.  At the back they can differ: a superscript
two carries a token on and ends a captured word, and so does a comma between digit groups.

Hence a blocked word can be captured after all (`not_city_unblocked`), but only as the last token
of the city and only where the token of the query goes on behind it (`blocked_token_of_city`).
-/

namespace StaffSearch.Query

open StaffSearch.Text

/-! ## Edges of words -/

theorem separator_of_endsLink {c : Char} (hc : endsLink c = true) :
    isAlphanumeric c = false ∧ c ≠ ',' := by
  simp only [endsLink, Bool.or_eq_true, beq_iff_eq] at hc
  rcases hc with (hBlank | rfl) | rfl
  · refine ⟨isAlphanumeric_eq_false_of_isBlank hBlank, ?_⟩
    rintro rfl
    exact absurd hBlank (by decide)
  · decide +kernel
  · decide +kernel

/-- A word is a lead, which ends with a separator if there is one, and a run of letters and
numbers. -/
theorem exists_lead_run (word : List Char) :
    ∃ lead run, word = lead ++ run ∧ (∀ c ∈ run, isAlphanumeric c = true) ∧
      ∀ front c, lead = front ++ [c] → isAlphanumeric c = false := by
  refine ⟨(word.reverse.dropWhile isAlphanumeric).reverse,
    (word.reverse.takeWhile isAlphanumeric).reverse, ?_, ?_, ?_⟩
  · rw [← List.reverse_append, List.takeWhile_append_dropWhile, List.reverse_reverse]
  · intro c hMem
    exact List.all_eq_true.mp List.all_takeWhile c (List.mem_reverse.mp hMem)
  · intro front c hLead
    have hHead := List.head?_dropWhile_not isAlphanumeric word.reverse
    rw [← List.reverse_reverse (List.dropWhile isAlphanumeric word.reverse), hLead,
      List.reverse_concat, List.head?_cons] at hHead
    simpa using hHead

/-! ## Tokens of a captured word -/

/-- The text goes on at `rest` behind a token, although a word ends there: with a letter or number
that is no word character, or, behind digits, with a comma and a group of three digits. -/
def CarriesOn (token : Token) (rest : List Char) : Prop :=
  ∃ c behind, rest = c :: behind ∧
    ((isAlphanumeric c = true ∧ isWordCharacter c = false) ∨
      (c = ',' ∧ token.text.toList.all isAsciiDigit = true ∧ startsDigitGroup behind = true))

theorem carriesOn_of_not_tokenEnds {token : Token} {rest : List Char}
    (hStops : ∀ c behind, rest = c :: behind → isWordCharacter c = false)
    (h : ¬ TokenEnds token.text.toList rest) : CarriesOn token rest := by
  cases rest with
  | nil => exact absurd (tokenEnds_nil _) h
  | cons c behind =>
      refine ⟨c, behind, rfl, ?_⟩
      cases hc : isAlphanumeric c with
      | true => exact Or.inl ⟨rfl, hStops c behind rfl⟩
      | false =>
          by_cases hOn : c = ',' ∧ token.text.toList.all isAsciiDigit = true ∧
              startsDigitGroup behind = true
          · exact Or.inr hOn
          · refine absurd ?_ h
            intro x tail hSplit
            cases hSplit
            refine ⟨hc, fun hComma hDigits => ?_⟩
            rw [Bool.eq_false_iff]
            intro hGroup
            exact hOn ⟨hComma, hDigits, hGroup⟩

/-- What is read at the place of a whole word is read in the query. -/
theorem WholeWordAt.mem_tokenizeList {query front word rest : List Char} {edge : Char}
    (hAt : WholeWordAt query front edge word rest) {token : Token}
    (hMem : token ∈ scan (byteLength (front ++ [edge])) none (word ++ rest)) :
    token ∈ tokenizeList query := by
  obtain ⟨hEdge, hNoComma⟩ := separator_of_endsLink hAt.edge
  have hCut : CutBetween (front ++ [edge]) (word ++ rest) := by
    intro other c hSplit
    obtain ⟨-, hSame⟩ := List.append_inj' hSplit rfl
    cases hSame
    exact ⟨hEdge, fun h => absurd h hNoComma⟩
  rw [tokenizeList, hAt.split, List.append_cons, scan_of_cutBetween hCut, Nat.zero_add]
  exact List.mem_append_right _ hMem

/-- Inside a word no comma can join what is in front of it with what is behind it. -/
theorem cutBetween_of_word {lead : List Char} (hLetters : ∀ c ∈ lead, isWordCharacter c = true)
    (hLead : ∀ front c, lead = front ++ [c] → isAlphanumeric c = false) (rest : List Char) :
    CutBetween lead rest := by
  intro front c hSplit
  refine ⟨hLead front c hSplit, ?_⟩
  rintro rfl
  have hComma := hLetters ',' (by rw [hSplit]; simp)
  exact absurd hComma (by decide +kernel)

/--
The tokens of a whole word are tokens of the query, except that the last one may be cut short.  So
if no token of the query has a property of stems, a token of the word that has it is the last one,
and the query carries it on.
-/
theorem carriesOn_of_wholeWord {query front word rest : List Char} {edge : Char}
    (hAt : WholeWordAt query front edge word rest) {blocked : List String}
    (hPasses : ∀ token ∈ tokenizeList query, token.stem ∉ blocked) :
    ∀ token ∈ tokenizeList word, token.stem ∈ blocked →
      token.stop = byteLength word ∧ CarriesOn token rest := by
  obtain ⟨lead, run, hWord, hRun, hLead⟩ := exists_lead_run word
  have hCut : ∀ behind, CutBetween lead behind := by
    apply cutBetween_of_word _ hLead
    intro c hMem
    exact hAt.letters c (by rw [hWord]; exact List.mem_append_left _ hMem)
  -- the same lead and run, read in the query
  have hQuery : ∀ token ∈ scan (byteLength (front ++ [edge])) none (word ++ rest),
      token.stem ∉ blocked := fun token hMem => hPasses token (hAt.mem_tokenizeList hMem)
  rw [hWord, List.append_assoc, scan_of_cutBetween (hCut _)] at hQuery
  intro token hMem hStem
  rw [hWord, tokenizeList, scan_of_cutBetween (hCut run), List.mem_append] at hMem
  rcases hMem with hFirst | hLast
  · rw [scan_none_eq_map_shift] at hQuery
    have hShifted := hQuery (token.shift (byteLength (front ++ [edge])))
      (List.mem_append_left _ (List.mem_map_of_mem hFirst))
    exact absurd hStem hShifted
  · by_cases hEmpty : run = []
    · rw [hEmpty] at hLast
      exact absurd hLast (by simp [scan, OpenToken.close])
    · have hAlone := scan_run hEmpty hRun (tokenEnds_nil _) (0 + byteLength lead)
      rw [List.append_nil] at hAlone
      rw [hAlone, scan_nil, OpenToken.close, List.mem_singleton] at hLast
      refine ⟨?_, carriesOn_of_not_tokenEnds hAt.stops ?_⟩
      · simp [hLast, hWord, Token.of]
      · intro hEnds
        rw [hLast] at hEnds hStem
        rw [Token.of, String.toList_ofList] at hEnds
        rw [scan_run hEmpty hRun hEnds] at hQuery
        -- the run stands elsewhere in the query, and stems do not depend on places
        have hUnblocked := hQuery _ (List.mem_append_right _ List.mem_cons_self)
        exact hUnblocked hStem

/-! ## The city -/

/-- A query that compiles has no blocked token, and its city is what is captured. -/
theorem city_of_compile {settings : CompilerSettings} {compiler : Compiler}
    (hCompiler : Compiler.ofSettings settings = .ok compiler) {query : String} {now : Instant}
    {filter : Filter} (hCompile : compiler.compile query now = .ok filter) :
    (∀ token ∈ tokenize query, token.stem ∉ compiler.gate.blocked) ∧
      filter.get? .city = (capture? "city" query).map .containsPattern := by
  obtain ⟨hPasses, hFound, -⟩ := Compiler.of_compile_eq_ok hCompiler hCompile
  exact ⟨hPasses, hFound .city (by simp [Compiler.standardExtractors])⟩

/--
**The gate and the city**: the city of a compiled query is a whole word of the query, and wherever
it stands there, a blocked token of it is its last one, cut short: the query carries it on behind
the word.
-/
theorem blocked_token_of_city {settings : CompilerSettings} {compiler : Compiler}
    (hCompiler : Compiler.ofSettings settings = .ok compiler) {query : String} {now : Instant}
    {filter : Filter} {word : String} (hCompile : compiler.compile query now = .ok filter)
    (hCity : filter.get? .city = some (.containsPattern word)) :
    StandsAsWord word.toList query.toList ∧
      ∀ front edge rest, WholeWordAt query.toList front edge word.toList rest →
        ∀ token ∈ tokenize word, compiler.gate.blocks token = true →
          token.stop = byteLength word.toList ∧ CarriesOn token rest := by
  obtain ⟨hPasses, hCaptured⟩ := city_of_compile hCompiler hCompile
  rw [hCity] at hCaptured
  obtain ⟨captured, hCapture, hSame⟩ := Option.map_eq_some_iff.mp hCaptured.symm
  cases hSame
  refine ⟨standsAsWord_of_capture? hCapture, ?_⟩
  intro front edge rest hAt token hMem hBlocks
  exact carriesOn_of_wholeWord hAt hPasses token hMem (Gate.blocks_iff.mp hBlocks)

/-- The token of the captured word `drop`. -/
private def dropToken : Token := Token.of "drop".toList 0 4

/-- A superscript two belongs to the token in front of it, but to no captured word: the query
passes the gate as `drop²` and is captured as `drop`. -/
private theorem compile_superscript :
    ∃ compiler, Compiler.ofSettings {} = .ok compiler ∧
      (dropToken ∈ tokenize "drop" ∧ compiler.gate.blocks dropToken = true) ∧
      ∀ now, ∃ filter, compiler.compile "city drop²" now = .ok filter ∧
        filter.get? .city = some (.containsPattern "drop") := by
  obtain ⟨compiler, hCompiler⟩ := Compiler.exists_ofSettings {} (by decide)
  have hBlocked := Compiler.blocked_of_ofSettings_default hCompiler
  have hMem : dropToken ∈ tokenize "drop" := by
    have hText : runText "drop".toList = "drop".toList := by decide +kernel
    have hNonempty : "drop".toList ≠ [] := by decide
    have hRun : "drop".toList.all isAlphanumeric = true := by decide +kernel
    have hScan := scan_run hNonempty (List.all_eq_true.mp hRun) (tokenEnds_nil _) 0
    rw [hText, List.append_nil] at hScan
    rw [tokenize, tokenizeList, hScan]
    exact List.mem_cons_self
  have hBlocks : compiler.gate.blocks dropToken = true := by
    rw [Gate.blocks_iff, hBlocked]
    decide +kernel
  refine ⟨compiler, hCompiler, ⟨hMem, hBlocks⟩, ?_⟩
  intro now
  have hPasses : ∀ token ∈ tokenize "city drop²", token.stem ∉ compiler.gate.blocked := by
    rw [hBlocked]
    decide +kernel
  obtain ⟨filter, hCompile, -, -⟩ :=
    Compiler.compile_of_unblocked hCompiler now (by decide +kernel) hPasses
  refine ⟨filter, hCompile, ?_⟩
  rw [(city_of_compile hCompiler hCompile).2]
  have hCapture : capture? "city" "city drop²" = some "drop" := by decide +kernel
  rw [hCapture, Option.map_some]

theorem blocked_token_of_city_superscript :
    ∃ compiler, Compiler.ofSettings {} = .ok compiler ∧
      ∀ now, ∃ filter, compiler.compile "city drop²" now = .ok filter ∧
        filter.get? .city = some (.containsPattern "drop") ∧
          ∃ token ∈ tokenize "drop", compiler.gate.blocks token = true ∧
            token.stop = byteLength "drop".toList ∧ CarriesOn token "²".toList := by
  obtain ⟨compiler, hCompiler, ⟨hMem, hBlocks⟩, hCompiles⟩ := compile_superscript
  refine ⟨compiler, hCompiler, ?_⟩
  intro now
  obtain ⟨filter, hCompile, hCity⟩ := hCompiles now
  refine ⟨filter, hCompile, hCity, dropToken, hMem, hBlocks, ?_⟩
  have hAt : WholeWordAt "city drop²".toList "city".toList ' ' "drop".toList "²".toList := by
    have hLetters : "drop".toList.all isWordCharacter = true := by decide +kernel
    refine ⟨by decide, by decide, by decide, List.all_eq_true.mp hLetters, ?_⟩
    intro c behind hRest
    cases hRest
    decide +kernel
  exact (blocked_token_of_city hCompiler hCompile hCity).2 _ _ _ hAt dropToken hMem hBlocks

/-- A captured city can be a blocked word. -/
theorem not_city_unblocked :
    ¬ ∀ (settings : CompilerSettings) (compiler : Compiler) (query : String) (now : Instant)
      (filter : Filter) (word : String), Compiler.ofSettings settings = .ok compiler →
        compiler.compile query now = .ok filter →
        filter.get? .city = some (.containsPattern word) →
          ∀ token ∈ tokenize word, compiler.gate.blocks token = false := by
  intro hAll
  obtain ⟨compiler, hCompiler, ⟨hMem, hBlocks⟩, hCompiles⟩ := compile_superscript
  obtain ⟨filter, hCompile, hCity⟩ := hCompiles (Instant.midnight ⟨2024, 1, 1, by decide⟩)
  have hPasses := hAll {} compiler _ _ filter _ hCompiler hCompile hCity dropToken hMem
  rw [hBlocks] at hPasses
  exact absurd hPasses (by decide)

end StaffSearch.Query
