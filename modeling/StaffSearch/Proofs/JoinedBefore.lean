import StaffSearch.Proofs.CaptureSites
import StaffSearch.Proofs.JoinDateOrder
import StaffSearch.Proofs.NumberQueries
import StaffSearch.Proofs.SkillRuns
import StaffSearch.Proofs.WiderFilters
import StaffSearch.Proofs.WrittenNumbers

/-!
# Who joined so many years ago

The query "joined before 3 years" constrains the join date and nothing else
(`compile_joinedBefore`).  Its years are an anchor that looks back first, and the numeral stands
right in front of it (`bindOne_backward`).  No stem of the query belongs to a built-in term or to a
blocked one, and without a letter "c" there is no city to capture.

The day is the one so many years ago, and these days are in order: for more years it is earlier,
and as time goes by it moves on.  So is what is found, since a day further on admits more.
-/

namespace StaffSearch.Query

open StaffSearch.Text

/-! ## Binding the numeral in front -/

/-- An anchor looks back at the place in front of it first. -/
theorem exists_placesBefore_succ (binder : Binder) (place : Nat) :
    ∃ farther, binder.placesBefore (place + 1) = place :: farther := by
  have hWindow := binder.window_pos
  have hCount : place + 1 - (place + 1 - binder.window.toNat) =
      place - (place + 1 - binder.window.toNat) + 1 := by omega
  have hLast : place + 1 - binder.window.toNat +
      1 * (place - (place + 1 - binder.window.toNat)) = place := by omega
  rw [Binder.placesBefore, hCount, List.range'_concat, hLast, List.reverse_append,
    List.reverse_singleton, List.singleton_append]
  exact ⟨_, rfl⟩

/-- **An anchor that looks back takes the numeral in front of it**, if that is free. -/
theorem bindOne_backward {binder : Binder} {anchors : List (Nat × Anchor)} {bindings : Bindings}
    {front after : List Token} {numeral word : Token} {anchor : Anchor} {value : Nat}
    (hBack : anchor.looksForward = false) (hFree : bindings.get? anchor = none)
    (hValue : numeral.numeral? = some value)
    (hAnchors : ∀ other ∈ anchors, other.1 ≠ front.length)
    (hTaken : bindings.takes front.length = false) :
    binder.bindOne (front ++ numeral :: word :: after) anchors bindings (front.length + 1) anchor =
      bindings.set anchor { anchor := front.length + 1, numeral := front.length, value } := by
  have hUnbound : ¬ (bindings.get? anchor).isSome = true := by
    rw [hFree]
    exact Bool.false_ne_true
  have hNoAnchor : (anchors.any fun other => other.1 == front.length) = false := by
    rw [List.any_eq_false]
    intro other hMem hSame
    exact hAnchors other hMem (beq_iff_eq.mp hSame)
  have hNumeral := numeralAt?_append front numeral (word :: after)
  rw [hValue] at hNumeral
  obtain ⟨farther, hPlaces⟩ := exists_placesBefore_succ binder front.length
  rw [Binder.bindOne, if_neg hUnbound]
  dsimp only
  rw [Binder.sides, if_neg (by rw [hBack]; decide), hPlaces, List.findSome?_cons,
    freeNumeral?_cons_found hNoAnchor hTaken hNumeral]

/-! ## The query and its tokens -/

/-- The query for employees who joined before the day so many years ago, the years being written in
some way. -/
def joinedBefore (years : String) : String := "joined before " ++ years ++ " years"

/-- The query consists of four tokens: two words, the number, and the years. -/
structure ConsistsOf (spelling : Spelling) (joined before numeral years : Token) : Prop where
  all : tokenize (joinedBefore spelling.text) = [joined, before, numeral, years]
  joined_text : joined.text = "joined"
  before_text : before.text = "before"
  numeral_text : numeral.text = String.ofList spelling.digits
  years_text : years.text = "years"

theorem exists_spelling_toString (years : Nat) :
    ∃ spelling : Spelling, spelling.text = toString years ∧ spelling.value = years :=
  NumberStyle.plain.exists_spelling years

section Reading

variable (spelling : Spelling)

/-- The stems of the query besides its number. -/
def joinStems : List String := ["join", "befor", "year"]

theorem wordsOf_queryWords :
    wordsOf "joined" = ["joined"] ∧ wordsOf "before" = ["before"] ∧ wordsOf "years" = ["years"] := by
  decide +kernel

theorem stem_queryWords :
    stem "joined" = "join" ∧ stem "before" = "befor" ∧ stem "years" = "year" := by
  decide +kernel

theorem wordsOf_joinedBefore : wordsOf (joinedBefore spelling.text) =
    ["joined", "before", String.ofList spelling.digits, "years"] := by
  obtain ⟨hJoined, hBefore, hYears⟩ := wordsOf_queryWords
  have hSplit : joinedBefore spelling.text =
      ("joined" ++ " " ++ ("before" ++ " " ++ (spelling.text ++ " " ++ "years"))) := by
    have hFront : "joined before " = "joined" ++ " " ++ ("before" ++ " ") := by decide
    have hBehind : " years" = " " ++ "years" := by decide
    rw [joinedBefore, hFront, hBehind]
    simp only [String.append_assoc]
  rw [hSplit, wordsOf_append_space, wordsOf_append_space, wordsOf_append_space, hJoined, hBefore,
    hYears, wordsOf_spelling]
  rfl

theorem stem_mem_of_mem_tokenize {token : Token}
    (h : token ∈ tokenize (joinedBefore spelling.text)) :
    token.stem ∈ joinStems ∨ token.stem.toList.any isAsciiDigit = true := by
  obtain ⟨hJoined, hBefore, hYears⟩ := stem_queryWords
  have hText : token.text ∈ wordsOf (joinedBefore spelling.text) := List.mem_map_of_mem h
  rw [wordsOf_joinedBefore] at hText
  rw [stem_of_mem_tokenize h]
  simp only [List.mem_cons, List.not_mem_nil, or_false] at hText
  rcases hText with hText | hText | hText | hText
  · rw [hText, hJoined]
    simp [joinStems]
  · rw [hText, hBefore]
    simp [joinStems]
  · rw [hText, stem_spelling]
    exact Or.inr (any_digit_spelling spelling)
  · rw [hText, hYears]
    simp [joinStems]

theorem exists_tokens_joinedBefore :
    ∃ joined before numeral years, ConsistsOf spelling joined before numeral years := by
  have hWords := wordsOf_joinedBefore spelling
  obtain ⟨joined, rest, hAll, hJoined, hRest⟩ := List.map_eq_cons_iff.mp hWords
  obtain ⟨before, rest, rfl, hBefore, hRest⟩ := List.map_eq_cons_iff.mp hRest
  obtain ⟨numeral, rest, rfl, hNumeral, hRest⟩ := List.map_eq_cons_iff.mp hRest
  obtain ⟨years, rest, rfl, hYears, hRest⟩ := List.map_eq_cons_iff.mp hRest
  obtain rfl := List.map_eq_nil_iff.mp hRest
  exact ⟨joined, before, numeral, years, hAll, hJoined, hBefore, hNumeral, hYears⟩

theorem asksForJoinDate_joinedBefore :
    asksForJoinDate (tokenize (joinedBefore spelling.text)) = true := by
  obtain ⟨joined, before, numeral, years, hAll, hJoined, -, -, hYears⟩ :=
    exists_tokens_joinedBefore spelling
  have hMem : years ∈ tokenize (joinedBefore spelling.text) := by
    rw [hAll]
    simp
  have hStem : years.stem = "year" := by
    rw [stem_of_mem_tokenize hMem, hYears]
    exact stem_queryWords.2.2
  have hText : containsText joinWords [joined, before, numeral, years] = true := by
    rw [containsText, List.any_cons, hJoined]
    rfl
  have hYear : containsStem "year" [joined, before, numeral, years] = true := by
    simp [containsStem, hStem]
  rw [hAll, asksForJoinDate, hText, hYear]
  rfl

/-- **The years take the number in front of them**, and nothing else takes it. -/
theorem bind_joinedBefore (binder : Binder) (hFits : spelling.value < Word.count 63) :
    binder.bind (tokenize (joinedBefore spelling.text)) [.salary, .age, .years] =
      Bindings.none.set .years { anchor := 3, numeral := 2, value := spelling.value } := by
  obtain ⟨joined, before, numeral, years, hAll, hJoined, hBefore, hNumeral, hYears⟩ :=
    exists_tokens_joinedBefore spelling
  have hStems : ∀ token ∈ [joined, before, numeral, years], token.stem = stem token.text := by
    rw [← hAll]
    exact fun token hMem => stem_of_mem_tokenize hMem
  have hQuiet : ∀ token ∈ [joined, before, numeral],
      Anchor.ofStem? [.salary, .age, .years] token.stem = none := by
    intro token hMem
    have hJoinedQuiet : IsQuiet "joined" := by decide +kernel
    have hBeforeQuiet : IsQuiet "before" := by decide +kernel
    rw [hStems token (List.mem_append_left [years] hMem)]
    simp only [List.mem_cons, List.not_mem_nil, or_false] at hMem
    rcases hMem with rfl | rfl | rfl
    · rw [hJoined]
      exact ofStem?_of_isQuiet hJoinedQuiet _
    · rw [hBefore]
      exact ofStem?_of_isQuiet hBeforeQuiet _
    · rw [hNumeral]
      exact ofStem?_of_isQuiet (isQuiet_spelling spelling) _
  have hAnchor : Anchor.ofStem? [.salary, .age, .years] years.stem = some .years := by
    rw [hStems years (by simp), hYears, stem_queryWords.2.2]
    decide +kernel
  have hPlaces : anchorPlaces [.salary, .age, .years] [joined, before, numeral, years] =
      [(3, .years)] := by
    have hFront := anchorPlacesFrom_quiet [joined, before, numeral] hQuiet [years] 0
    rw [anchorPlacesFrom_anchor hAnchor] at hFront
    exact hFront
  have hValue : numeral.numeral? = some spelling.value := by
    rw [Token.numeral?, hNumeral, String.toList_ofList, numeralOf?_spelling, if_pos hFits]
  have hOne : binder.bindOne ([joined, before] ++ numeral :: years :: []) [(3, .years)]
      Bindings.none 3 .years =
        Bindings.none.set .years { anchor := 3, numeral := 2, value := spelling.value } :=
    bindOne_backward rfl rfl hValue (by simp) rfl
  rw [hAll, Binder.bind]
  dsimp only
  rw [hPlaces]
  exact hOne

/-! ## What else the query might say -/

/-- No built-in term has a stem in common with the query. -/
theorem absent_joinedBefore (category : Category) :
    (Lexicon.builtIn.terms category).filter
      (·.isPresentIn (tokenize (joinedBefore spelling.text))) = [] := by
  have hForms : ∀ term ∈ Lexicon.builtIn.terms category, ∀ form ∈ term.forms, ∀ stem ∈ form,
      stem ∉ joinStems ∧ stem.toList.any isAsciiDigit = false := by
    cases category with
    | skill =>
        rw [terms_builtIn_skill]
        decide +kernel
    | state | department | education => decide +kernel
  rw [List.filter_eq_nil_iff]
  intro term hTerm hPresent
  obtain ⟨form, hForm, hSome, hInfix⟩ := Term.isPresentIn_iff.mp hPresent
  obtain ⟨stem, rest, rfl⟩ := List.exists_cons_of_ne_nil hSome
  obtain ⟨token, hToken, hStem⟩ := List.mem_map.mp (hInfix.subset List.mem_cons_self)
  have hApart := hForms term hTerm _ hForm stem List.mem_cons_self
  rw [← hStem] at hApart
  rcases stem_mem_of_mem_tokenize spelling hToken with hWord | hDigit
  · exact hApart.1 hWord
  · rw [hApart.2] at hDigit
    exact absurd hDigit (by decide)

/-- No token of the query is blocked by default. -/
theorem unblocked_joinedBefore {compiler : Compiler}
    (hCompiler : Compiler.ofSettings {} = .ok compiler) :
    ∀ token ∈ tokenize (joinedBefore spelling.text), token.stem ∉ compiler.gate.blocked := by
  have hApart : ∀ stem ∈ compiler.gate.blocked,
      stem ∉ joinStems ∧ stem.toList.any isAsciiDigit = false := by
    rw [Compiler.blocked_of_ofSettings_default hCompiler]
    decide +kernel
  intro token hToken hBlocked
  rcases stem_mem_of_mem_tokenize spelling hToken with hWord | hDigit
  · exact (hApart _ hBlocked).1 hWord
  · rw [(hApart _ hBlocked).2] at hDigit
    exact absurd hDigit (by decide)

/-- A number is written in digits and commas. -/
theorem mem_text_spelling {c : Char} (h : c ∈ spelling.text.toList) :
    isAsciiDigit c = true ∨ c = ',' := by
  rw [Spelling.text, String.toList_ofList, List.mem_append, List.mem_flatMap] at h
  rcases h with hHead | ⟨group, hGroup, hMem⟩
  · exact Or.inl (spelling.head_digits c hHead)
  · rcases List.mem_cons.mp hMem with rfl | hDigit
    · exact Or.inr rfl
    · exact Or.inl ((spelling.groups_digits group hGroup).2 c hDigit)

/-- There is no letter "c" in the query. -/
theorem sameLetter_joinedBefore :
    ∀ c ∈ (joinedBefore spelling.text).toList, sameLetter 'c' c = false := by
  have hDigits : ∀ c, isAsciiDigit c = true → sameLetter 'c' c = false := by
    have hCodes : ∀ n < 58, 48 ≤ n → sameLetter 'c' (Char.ofNat n) = false := by decide +kernel
    intro c hc
    have hRange := isAsciiDigit_iff.mp hc
    have hCode := hCodes c.toNat (by omega) (by omega)
    rwa [Char.ofNat_toNat] at hCode
  have hAbsent : ∀ text : List Char, text.any (sameLetter 'c') = false →
      ∀ c ∈ text, sameLetter 'c' c = false := by
    intro text hNone c hc
    exact Bool.eq_false_iff.mpr (List.any_eq_false.mp hNone c hc)
  have hFront := hAbsent "joined before ".toList (by decide +kernel)
  have hBehind := hAbsent " years".toList (by decide +kernel)
  have hComma : sameLetter 'c' ',' = false := by decide +kernel
  intro c hMem
  rw [joinedBefore, String.toList_append, String.toList_append, List.mem_append,
    List.mem_append] at hMem
  rcases hMem with (hMem | hMem) | hMem
  · exact hFront c hMem
  · rcases mem_text_spelling spelling hMem with hDigit | rfl
    · exact hDigits c hDigit
    · exact hComma
  · exact hBehind c hMem

/-- **Nothing is captured** where the first letter of the trigger does not occur. -/
theorem capture?_joinedBefore : capture? "city" (joinedBefore spelling.text) = none := by
  have hNone : firstWord? ['c', 'i', 't', 'y'] none (joinedBefore spelling.text).toList = none := by
    have hTrigger : IsTrigger ['c', 'i', 't', 'y'] := ⟨by decide, List.all_eq_true.mp rfl⟩
    apply (firstWord?_eq_none_iff_no_site hTrigger).mpr
    intro before behind hSite
    obtain ⟨word, hSame, hSplit⟩ := hSite.spelled
    obtain ⟨c, rest, hc, -, rfl⟩ := List.forall₂_cons_left_iff.mp hSame
    have hMem : c ∈ (joinedBefore spelling.text).toList := by
      rw [hSplit]
      simp
    rw [sameLetter_joinedBefore spelling c hMem] at hc
    exact absurd hc (by decide)
  have hCity : "city".toList = ['c', 'i', 't', 'y'] := by decide
  rw [capture?, hCity, hNone]

end Reading

/-! ## The filter -/

/-- The filter for employees who joined before a moment. -/
def joinedBeforeFilter (moment : Instant) : Filter :=
  Filter.empty.set .joinDate (.lessThan (.date moment))

section Extracting

variable {spelling : Spelling} {context : Context}

/-- Nothing is read off the query for any other field. -/
theorem constraint?_joinedBefore_of_ne (hRaw : context.raw = joinedBefore spelling.text)
    (hTokens : context.tokens = tokenize (joinedBefore spelling.text))
    (hSalary : context.bindings.get? .salary = none) (hAge : context.bindings.get? .age = none)
    {extractor : Extractor} (hMem : extractor ∈ Compiler.standardExtractors Lexicon.builtIn)
    (hField : extractor.field ≠ .joinDate) : extractor.constraint? context = none := by
  rw [Compiler.standardExtractors, List.mem_append, List.mem_map] at hMem
  rcases hMem with ⟨category, -, rfl⟩ | hMem
  · rw [Extractor.ofLexicon, Extractor.constraint?, hTokens, absent_joinedBefore]
    cases category <;> rfl
  · simp only [List.mem_cons, List.not_mem_nil, or_false] at hMem
    rcases hMem with rfl | rfl | rfl | rfl
    · rw [Extractor.city, Extractor.constraint?, hRaw, capture?_joinedBefore, Option.map_none]
    · rw [Extractor.salary, Extractor.constraint?, hSalary, Option.map_none]
    · rw [Extractor.age, Extractor.constraint?, hAge, Option.map_none]
    · exact absurd rfl hField

/-- The join date is compared with the day that the years lead back to. -/
theorem constraint?_joinedBefore {binding : Binding} {moment : Instant}
    (hTokens : context.tokens = tokenize (joinedBefore spelling.text))
    (hYears : context.bindings.get? .years = some binding)
    (hMoment : yearsBefore? context.now (Int64.ofNat binding.value) = some moment) :
    Extractor.joinDate.constraint? context = some (.lessThan (.date moment)) := by
  rw [Extractor.constraint?, hTokens, asksForJoinDate_joinedBefore, if_pos rfl, hYears,
    Option.bind_some, hMoment, Option.map_some]

end Extracting

theorem tokenize_joinedBefore_ne_nil (spelling : Spelling) :
    tokenize (joinedBefore spelling.text) ≠ [] := by
  obtain ⟨joined, before, numeral, years, hAll, -⟩ := exists_tokens_joinedBefore spelling
  rw [hAll]
  exact List.cons_ne_nil _ _

/-- The number of the query is bound to the years. -/
theorem bindings_joinedBefore (compiler : Compiler) {spelling : Spelling}
    (hFits : spelling.value < Word.count 63) (now : Instant) :
    (compiler.contextOf (joinedBefore spelling.text) now).bindings =
      Bindings.none.set .years { anchor := 3, numeral := 2, value := spelling.value } := by
  rw [Compiler.contextOf, Compiler.activeAnchors, asksForJoinDate_joinedBefore]
  exact bind_joinedBefore spelling _ hFits

/-- **The query constrains the join date** and nothing else. -/
theorem compile_joinedBefore {compiler : Compiler}
    (hCompiler : Compiler.ofSettings {} = .ok compiler) (spelling : Spelling)
    {now moment : Instant} (hFits : spelling.value < Word.count 63)
    (hMoment : yearsBefore? now (Int64.ofNat spelling.value) = some moment) :
    compiler.compile (joinedBefore spelling.text) now = .ok (joinedBeforeFilter moment) := by
  obtain ⟨filter, hCompile, hFound, hFree⟩ := Compiler.compile_of_unblocked hCompiler now
    (tokenize_joinedBefore_ne_nil spelling) (unblocked_joinedBefore spelling hCompiler)
  have hLexicon : Compiler.lexiconOf ({} : CompilerSettings).extraTerms = Lexicon.builtIn := rfl
  have hBindings := bindings_joinedBefore compiler hFits now
  have hYears : (compiler.contextOf (joinedBefore spelling.text) now).bindings.get? .years =
      some { anchor := 3, numeral := 2, value := spelling.value } := by
    simp [hBindings]
  have hOther : ∀ anchor, anchor ≠ .years →
      (compiler.contextOf (joinedBefore spelling.text) now).bindings.get? anchor = none := by
    intro anchor hAnchor
    simp [hBindings, hAnchor]
  rw [hLexicon] at hFound hFree
  have hFilter : filter = joinedBeforeFilter moment := by
    rw [Filter.ext_iff_get]
    intro field
    by_cases hField : field = .joinDate
    · rw [hField, joinedBeforeFilter, Filter.get?_set_self,
        ← constraint?_joinedBefore rfl hYears hMoment]
      exact hFound .joinDate (by simp [Compiler.standardExtractors])
    · rw [joinedBeforeFilter, Filter.get?_set_of_ne _ hField]
      by_cases hOwned : field ∈ (Compiler.standardExtractors Lexicon.builtIn).map Extractor.field
      · obtain ⟨extractor, hMem, rfl⟩ := List.mem_map.mp hOwned
        rw [hFound extractor hMem]
        exact constraint?_joinedBefore_of_ne rfl rfl (hOther _ (by decide)) (hOther _ (by decide))
          hMem hField
      · exact hFree field hOwned
  rw [hCompile, hFilter]

theorem compile_joinedBefore_toString {compiler : Compiler}
    (hCompiler : Compiler.ofSettings {} = .ok compiler) {years : Nat} {now moment : Instant}
    (hFits : years < Word.count 63)
    (hMoment : yearsBefore? now (Int64.ofNat years) = some moment) :
    compiler.compile (joinedBefore (toString years)) now = .ok (joinedBeforeFilter moment) := by
  obtain ⟨spelling, hText, rfl⟩ := exists_spelling_toString years
  rw [← hText]
  exact compile_joinedBefore hCompiler spelling hFits hMoment

theorem isBlankText_joinedBefore (years : Nat) :
    isBlankText (joinedBefore (toString years)) = false := by
  obtain ⟨spelling, hText, -⟩ := exists_spelling_toString years
  rw [← hText]
  exact Compiler.isBlankText_eq_false (tokenize_joinedBefore_ne_nil spelling)

/-- There is such a day as long as its year belongs to the calendar. -/
theorem exists_yearsBefore {now : Instant} {years : Nat}
    (hYear : earliestYear ≤ now.date.year - years) :
    years < Word.count 63 ∧ ∃ moment, yearsBefore? now (Int64.ofNat years) = some moment ∧
      IsYearsBefore now years moment := by
  have hCount : Word.count 63 = 9223372036854775808 := by decide
  have hNow := now.date.year_bounds
  have hFits : years < Word.count 63 := by
    rw [earliestYear] at hYear
    omega
  have hValue : (Int64.ofNat years).toInt = years := Int64.toInt_ofNat_of_lt hFits
  have hSome : (yearsBefore? now (Int64.ofNat years)).isSome = true := by
    rw [isSome_yearsBefore?_iff, hValue]
    exact ⟨Int.natCast_nonneg years, hYear⟩
  obtain ⟨moment, hMoment⟩ := Option.isSome_iff_exists.mp hSome
  have hThen := (yearsBefore?_eq_some_iff.mp hMoment).2
  rw [hValue] at hThen
  exact ⟨hFits, moment, hMoment, hThen⟩

/-! ## What is found -/

/-- A later day admits more. -/
theorem admits_joinedBeforeFilter_mono {a b : Date} (h : (a.compare b).isLE = true)
    {employee : Employee}
    (hAdmits : (joinedBeforeFilter (Instant.midnight a)).admits employee = true) :
    (joinedBeforeFilter (Instant.midnight b)).admits employee = true := by
  have hHolds : ∀ date : Date,
      (joinedBeforeFilter (Instant.midnight date)).admits employee = true ↔
        employee.joinDate.date.compare date = .lt := by
    intro date
    rw [joinedBeforeFilter, Filter.admits_set_empty, ← Instant.compare_midnight_eq_lt_iff]
    show (some (employee.joinDate.compare (Instant.midnight date))).any (·.isLT) = true ↔ _
    rw [Option.any_some, Ordering.isLT_iff_eq_lt]
  rw [hHolds, Date.compare_eq_lt_iff] at hAdmits ⊢
  rw [Date.isLE_compare_iff] at h
  omega

/--
**Relative join dates are in order.**  As time goes by, the day so many years ago does not move
back; and for more years it is an earlier one, and none of them is later than now.  So with default
settings the query "joined before M years" stands for the join dates before the day M years ago, and
what it finds in any store is found for fewer years too, then and at any later time.
-/
theorem joinedBefore_ordered :
    (∀ (now later a b : Instant) (years : Int64), (now.compare later).isLE = true →
      yearsBefore? now years = some a → yearsBefore? later years = some b →
        (a.compare b).isLE = true) ∧
    (∀ (now a b : Instant) (few many : Int64), few < many →
      yearsBefore? now many = some a → yearsBefore? now few = some b →
        a.compare b = .lt ∧ (b.compare now).isLE = true) ∧
    ∃ compiler, Compiler.ofSettings {} = .ok compiler ∧
      ∀ (few many : Nat) (now later : Instant), few ≤ many →
        (now.compare later).isLE = true → earliestYear ≤ now.date.year - many →
          ∃ a b, yearsBefore? now (Int64.ofNat many) = some a ∧
            yearsBefore? later (Int64.ofNat few) = some b ∧
            compiler.compile (joinedBefore (toString many)) now = .ok (joinedBeforeFilter a) ∧
            compiler.compile (joinedBefore (toString few)) later = .ok (joinedBeforeFilter b) ∧
            (∀ employee, (joinedBeforeFilter a).admits employee = true →
              (joinedBeforeFilter b).admits employee = true) ∧
            ∀ store found,
              Service.search ⟨compiler, store⟩ (some (joinedBefore (toString many))) now =
                  .ok found →
                ∃ wider, Service.search ⟨compiler, store⟩ (some (joinedBefore (toString few)))
                  later = .ok wider ∧ found.Sublist wider := by
  refine ⟨fun now later a b years => yearsBefore?_isLE,
    fun now a b few many => yearsBefore?_lt, ?_⟩
  obtain ⟨compiler, hCompiler⟩ := Compiler.exists_ofSettings {} (by decide)
  refine ⟨compiler, hCompiler, ?_⟩
  intro few many now later hFew hTimes hYear
  have hLaterYear : earliestYear ≤ later.date.year - few := by
    have hDates := Date.isLE_compare_iff.mp (Instant.isLE_date hTimes)
    omega
  obtain ⟨hManyFits, a, ha, hMany⟩ := exists_yearsBefore hYear
  obtain ⟨hFewFits, b, hb, hFewer⟩ := exists_yearsBefore hLaterYear
  have hOrder := hMany.isLE hTimes (Int.ofNat_le.mpr hFew) hFewer
  have hNarrow := compile_joinedBefore_toString hCompiler hManyFits ha
  have hWide := compile_joinedBefore_toString hCompiler hFewFits hb
  have hMore : ∀ employee, (joinedBeforeFilter a).admits employee = true →
      (joinedBeforeFilter b).admits employee = true := by
    intro employee hAdmits
    rw [hMany.midnight, hFewer.midnight, Instant.compare_midnight] at hOrder
    rw [hMany.midnight] at hAdmits
    rw [hFewer.midnight]
    exact admits_joinedBeforeFilter_mono hOrder hAdmits
  refine ⟨a, b, ha, hb, hNarrow, hWide, hMore, ?_⟩
  intro store found hFound
  exact Service.search_sublist (isBlankText_joinedBefore many) (isBlankText_joinedBefore few)
    hNarrow hWide (Filter.isEmpty_set _ _ _) (Filter.isEmpty_set _ _ _) hMore hFound

end StaffSearch.Query
