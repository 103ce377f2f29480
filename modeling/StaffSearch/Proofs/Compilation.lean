import StaffSearch.Proofs.Binding
import StaffSearch.Proofs.Capture
import StaffSearch.Proofs.Tokens
import StaffSearch.Query.Compiler

/-!
# What compiling a query yields

Compiling passes three places where it can stop (a blank text, a text without tokens, the gate) and
then collects what the extractors find into a draft, which can refuse a field that is taken.  This
file shows that the draft never refuses when the extractors own different fields, and that what
remains is three outcomes: nothing to search for, a blocked token, or a filter.

`Reading` says what a filter can look like that was read off a query.  Each extractor contributes
one of its clauses, and the run of the extractors (`run_of_nodup`) puts them together: a field that
has an owner holds what its owner has found, every other field stays free.
-/

namespace StaffSearch.Query

open StaffSearch.Text

/-! ## Collecting constraints -/

theorem insert_of_free {draft : Draft} {field : Field} (hFree : draft.get? field = none)
    (stage : String) (constraint : Constraint) :
    draft.insert stage field constraint =
      .ok ⟨fun f => if f = field then some (constraint, stage) else draft.get? f⟩ :=
  Draft.insert_eq_ok_iff.mpr ⟨hFree, rfl⟩

/-- Adding what one extractor finds sets its field and no other. -/
theorem addAll_extract {draft : Draft} {extractor : Extractor} (context : Context)
    (hFree : draft.get? extractor.field = none) :
    ∃ next, Compiler.addAll draft extractor.name (extractor.extract context) = .ok next ∧
      next.build.get? extractor.field = extractor.constraint? context ∧
      ∀ field, field ≠ extractor.field → next.get? field = draft.get? field := by
  rw [Extractor.extract]
  cases hFound : extractor.constraint? context with
  | none =>
      refine ⟨draft, rfl, ?_, fun _ _ => rfl⟩
      simp only [Draft.build, hFree, Option.map_none]
  | some constraint =>
      refine ⟨⟨fun f => if f = extractor.field then some (constraint, extractor.name)
        else draft.get? f⟩, ?_, ?_, ?_⟩
      · simp only [Option.map_some, Option.toList_some, Compiler.addAll, insert_of_free hFree]
      · simp only [Draft.build, if_true, Option.map_some]
      · intro field hField
        simp only [if_neg hField]

/--
**The run of the extractors**: when they own different fields, all of them free, no constraint is
refused; afterwards each of the fields holds what its owner has found, and the others are as they
were.
-/
theorem run_of_nodup (context : Context) (extractors : List Extractor) :
    ∀ draft : Draft, (extractors.map Extractor.field).Nodup →
      (∀ extractor ∈ extractors, draft.get? extractor.field = none) →
      ∃ next, Compiler.run context draft extractors = .ok next ∧
        (∀ extractor ∈ extractors,
          next.build.get? extractor.field = extractor.constraint? context) ∧
        (∀ field, field ∉ extractors.map Extractor.field →
          next.get? field = draft.get? field) := by
  induction extractors with
  | nil =>
      intro draft _ _
      refine ⟨draft, rfl, ?_, fun _ _ => rfl⟩
      intro extractor hMem
      exact absurd hMem List.not_mem_nil
  | cons first rest ih =>
      intro draft hNodup hFree
      rw [List.map_cons, List.nodup_cons] at hNodup
      obtain ⟨middle, hAdd, hOwn, hOthers⟩ :=
        addAll_extract context (hFree first (by simp))
      have hDistinct : ∀ extractor ∈ rest, extractor.field ≠ first.field := by
        intro extractor hMem hSame
        exact hNodup.1 (hSame ▸ List.mem_map_of_mem hMem)
      have hStillFree : ∀ extractor ∈ rest, middle.get? extractor.field = none := by
        intro extractor hMem
        rw [hOthers _ (hDistinct extractor hMem)]
        exact hFree extractor (by simp [hMem])
      obtain ⟨next, hRun, hFound, hKept⟩ := ih middle hNodup.2 hStillFree
      refine ⟨next, ?_, ?_, ?_⟩
      · simp only [Compiler.run, hAdd, hRun]
      · intro extractor hMem
        rcases List.mem_cons.mp hMem with rfl | hMem
        · rw [← hOwn]
          simp only [Draft.build, hKept _ hNodup.1]
        · exact hFound extractor hMem
      · intro field hField
        rw [List.map_cons, List.mem_cons, not_or] at hField
        rw [hKept field hField.2, hOthers field hField.1]

/-! ## Accepted settings -/

namespace Compiler

theorem fields_standardExtractors (lexicon : Lexicon) :
    (standardExtractors lexicon).map Extractor.field =
      [.state, .department, .skills, .education, .city, .salary, .age, .joinDate] := rfl

theorem nodup_fields_standardExtractors (lexicon : Lexicon) :
    ((standardExtractors lexicon).map Extractor.field).Nodup := by
  rw [fields_standardExtractors]
  decide

/-- Settings are accepted when their window is not zero, and then this is their compiler. -/
theorem ofSettings_eq_ok_iff {settings : CompilerSettings} {compiler : Compiler} :
    ofSettings settings = .ok compiler ↔
      settings.window ≠ 0 ∧
        compiler =
          { gate := Gate.ofTerms settings.blockedTerms
            binder := Binder.ofWindow settings.window
            extractors := standardExtractors (lexiconOf settings.extraTerms) } := by
  have hClash : findClash? [] (standardExtractors (lexiconOf settings.extraTerms)) = none := rfl
  rw [ofSettings]
  by_cases hWindow : settings.window = 0
  · rw [if_pos hWindow]
    constructor
    · intro h
      exact absurd h (by simp)
    · intro h
      exact absurd hWindow h.1
  · rw [if_neg hWindow, assemble_eq_ok hClash]
    constructor
    · intro h
      exact ⟨hWindow, (Except.ok.inj h).symm⟩
    · intro h
      rw [h.2]

theorem exists_ofSettings (settings : CompilerSettings) (hWindow : settings.window ≠ 0) :
    ∃ compiler, ofSettings settings = .ok compiler :=
  ⟨_, ofSettings_eq_ok_iff.mpr ⟨hWindow, rfl⟩⟩

section Parts

variable {settings : CompilerSettings} {compiler : Compiler}

theorem gate_eq_of_ofSettings (h : ofSettings settings = .ok compiler) :
    compiler.gate = Gate.ofTerms settings.blockedTerms := by
  rw [(ofSettings_eq_ok_iff.mp h).2]

theorem extractors_eq_of_ofSettings (h : ofSettings settings = .ok compiler) :
    compiler.extractors = standardExtractors (lexiconOf settings.extraTerms) := by
  rw [(ofSettings_eq_ok_iff.mp h).2]

/-- The stems that are blocked by default. -/
theorem blocked_of_ofSettings_default (h : ofSettings {} = .ok compiler) :
    compiler.gate.blocked =
      ["password", "passwd", "ssn", "secret", "credential", "drop", "delet", "truncat", "exec",
        "execut", "script", "eval"] := by
  rw [gate_eq_of_ofSettings h]
  decide +kernel

end Parts

/-! ## The stages of a compilation -/

/-- What the extractors of a compiler get to read about a query. -/
def contextOf (compiler : Compiler) (query : String) (now : Instant) : Context :=
  { raw := query
    tokens := tokenize query
    now
    bindings := compiler.binder.bind (tokenize query) (activeAnchors (tokenize query)) }

theorem isBlankText_eq_false {query : String} (h : tokenize query ≠ []) :
    isBlankText query = false := by
  rw [Bool.eq_false_iff]
  intro hBlank
  apply h
  rw [tokenize_eq_nil_iff]
  intro c hc
  exact isAlphanumeric_eq_false_of_isBlank (List.all_eq_true.mp hBlank c hc)

/-- Without a token there is nothing to search for. -/
theorem compile_of_no_token (compiler : Compiler) {query : String} (now : Instant)
    (h : tokenize query = []) : compiler.compile query now = .error .queryRequired := by
  unfold compile
  split
  · rfl
  · simp only [normalize, h]

/-- With a token, the gate decides, and then the extractors are run. -/
theorem compile_of_token (compiler : Compiler) {query : String} (now : Instant)
    (h : tokenize query ≠ []) :
    compiler.compile query now =
      match compiler.gate.check (tokenize query) with
      | .error cause => .error cause
      | .ok () =>
        match run (compiler.contextOf query now) Draft.empty compiler.extractors with
        | .error cause => .error cause
        | .ok draft => .ok draft.build := by
  have hNormalize : normalize query = .ok (tokenize query) := by
    unfold normalize
    split
    · next hNil => exact absurd hNil h
    · rfl
  rw [compile, isBlankText_eq_false h, hNormalize]
  rfl

end Compiler

/-! ## The gate -/

theorem Gate.blocks_iff {gate : Gate} {token : Token} :
    gate.blocks token = true ↔ token.stem ∈ gate.blocked := by
  rw [Gate.blocks, List.contains_iff_mem]

/-- `text` is the text of the first token whose stem is blocked. -/
def FirstBlocked (gate : Gate) (tokens : List Token) (text : String) : Prop :=
  ∃ before token after, tokens = before ++ token :: after ∧
    (∀ earlier ∈ before, earlier.stem ∉ gate.blocked) ∧
      token.stem ∈ gate.blocked ∧ token.text = text

theorem Gate.check_of_blocked {gate : Gate} {tokens : List Token}
    (h : ∃ token ∈ tokens, token.stem ∈ gate.blocked) :
    ∃ text, gate.check tokens = .error (.rejected text) ∧ FirstBlocked gate tokens text := by
  obtain ⟨token, hMem, hBlocked⟩ := h
  cases hFind : tokens.find? gate.blocks with
  | none =>
      have hPasses := List.find?_eq_none.mp hFind token hMem
      exact absurd (Gate.blocks_iff.mpr hBlocked) hPasses
  | some first =>
      obtain ⟨hFirst, before, after, hSplit, hBefore⟩ := List.find?_eq_some_iff_append.mp hFind
      refine ⟨first.text, ?_, before, first, after, hSplit, ?_, Gate.blocks_iff.mp hFirst, rfl⟩
      · simp only [Gate.check, hFind]
      · intro earlier hEarlier hStem
        have hPasses := hBefore earlier hEarlier
        rw [Gate.blocks_iff.mpr hStem] at hPasses
        exact absurd hPasses (by decide)

theorem Gate.check_of_unblocked {gate : Gate} {tokens : List Token}
    (h : ∀ token ∈ tokens, token.stem ∉ gate.blocked) : gate.check tokens = .ok () := by
  rw [Gate.check_eq_ok_iff]
  intro token hMem
  rw [Bool.eq_false_iff]
  intro hBlocks
  exact h token hMem (Gate.blocks_iff.mp hBlocks)

theorem Compiler.compile_of_blocked (compiler : Compiler) {query : String} (now : Instant)
    (h : ∃ token ∈ tokenize query, token.stem ∈ compiler.gate.blocked) :
    ∃ text, compiler.compile query now = .error (.rejected text) ∧
      FirstBlocked compiler.gate (tokenize query) text := by
  obtain ⟨text, hCheck, hFirst⟩ := Gate.check_of_blocked h
  obtain ⟨token, hMem, -⟩ := h
  refine ⟨text, ?_, hFirst⟩
  rw [compiler.compile_of_token now (List.ne_nil_of_mem hMem), hCheck]

/-! ## What a filter read off a query looks like -/

/-- What can be said about the filter that stands for `query`, relative dates referring to `now`:
which fields it can constrain, and how each of them is constrained. -/
structure Reading (lexicon : Lexicon) (query : String) (now : Instant) (filter : Filter) :
    Prop where
  /-- Only the fields that have an extractor are constrained. -/
  fields : ∀ field, filter.get? field ≠ none →
    field ∈ [Field.state, .department, .skills, .education, .city, .salary, .age, .joinDate]
  /-- Of a category that allows one term only, the first term that is present is the pattern. -/
  terms : ∀ category ∈ [Category.state, .department, .education],
    filter.get? category.field =
      ((lexicon.terms category).find? (·.isPresentIn (tokenize query))).map
        fun term => .containsPattern term.value
  /-- Skills are constrained exactly when one is present. -/
  skills_none : filter.get? .skills = none ↔
    ∀ term ∈ lexicon.terms .skill, term.isPresentIn (tokenize query) = false
  /-- The set of skills holds exactly those that are present. -/
  skills_some : ∀ constraint, filter.get? .skills = some constraint →
    ∃ set, constraint = .oneOf set ∧
      ∀ value, value ∈ set.elements ↔
        ∃ term ∈ lexicon.terms .skill,
          term.isPresentIn (tokenize query) = true ∧ term.value = value
  /-- The city is a non-empty contiguous part of the query. -/
  city : ∀ constraint, filter.get? .city = some constraint →
    ∃ word, constraint = .containsPattern word ∧ word ≠ "" ∧ word.toList <:+: query.toList
  /-- Salary and age are compared with numbers that are not negative, both in the same way. -/
  numbers : ∃ comparison ∈ [Constraint.equals, .atLeast, .atMost],
    ∀ field ∈ [Field.salary, .age], ∀ constraint, filter.get? field = some constraint →
      ∃ value : Int64, 0 ≤ value.toInt ∧ constraint = comparison (.number value)
  /-- The join date lies before the beginning of a day some years ago. -/
  joinDate : ∀ constraint, filter.get? .joinDate = some constraint →
    ∃ (years : Int64) (date : Date), 0 ≤ years.toInt ∧
      yearsBefore? now years = some (Instant.midnight date) ∧
        constraint = .lessThan (.date (Instant.midnight date))

theorem termConstraint?_single {category : Category} (h : category.allowsSeveral = false)
    (terms : List Term) (tokens : List Token) :
    Extractor.termConstraint? category (terms.filter (·.isPresentIn tokens)) =
      (terms.find? (·.isPresentIn tokens)).map fun term => .containsPattern term.value := by
  rw [Extractor.termConstraint?, h, List.head?_filter]
  rfl

theorem termConstraint?_eq_none_iff (terms : List Term) (tokens : List Token) :
    Extractor.termConstraint? .skill (terms.filter (·.isPresentIn tokens)) = none ↔
      ∀ term ∈ terms, term.isPresentIn tokens = false := by
  rw [Extractor.termConstraint?, if_pos (show Category.skill.allowsSeveral = true from rfl)]
  constructor
  · intro h term hMem
    split at h
    · next hEmpty =>
        have hNone := List.filter_eq_nil_iff.mp (List.isEmpty_iff.mp hEmpty) term hMem
        simpa using hNone
    · exact absurd h (by simp)
  · intro h
    rw [if_pos]
    rw [List.isEmpty_iff, List.filter_eq_nil_iff]
    intro term hMem
    rw [h term hMem]
    decide

theorem mem_of_termConstraint?_eq_some {terms : List Term} {tokens : List Token}
    {constraint : Constraint}
    (h : Extractor.termConstraint? .skill (terms.filter (·.isPresentIn tokens)) =
      some constraint) :
    ∃ set, constraint = .oneOf set ∧
      ∀ value, value ∈ set.elements ↔
        ∃ term ∈ terms, term.isPresentIn tokens = true ∧ term.value = value := by
  rw [Extractor.termConstraint?, if_pos (show Category.skill.allowsSeveral = true from rfl)] at h
  split at h
  · exact absurd h (by simp)
  · refine ⟨_, (Option.some.inj h).symm, ?_⟩
    intro value
    rw [TextSet.mem_ofList, List.mem_map]
    simp only [List.mem_filter, and_assoc]

theorem Direction.constraint_eq (direction : Direction) :
    ∃ comparison ∈ [Constraint.equals, .atLeast, .atMost],
      ∀ value, direction.constraint value = comparison (.number (Int64.ofNat value)) := by
  cases direction with
  | exactly => exact ⟨.equals, by simp, fun _ => rfl⟩
  | atLeast => exact ⟨.atLeast, by simp, fun _ => rfl⟩
  | atMost => exact ⟨.atMost, by simp, fun _ => rfl⟩

theorem toInt_ofNat_nonneg {value : Nat} (h : value < Word.count 63) :
    0 ≤ (Int64.ofNat value).toInt := by
  rw [Int64.toInt_ofNat_of_lt h]
  omega

theorem yearsBefore?_eq_midnight {now moment : Instant} {years : Int64}
    (h : yearsBefore? now years = some moment) : ∃ date, moment = Instant.midnight date := by
  unfold yearsBefore? at h
  split at h
  · exact absurd h (by simp)
  · split at h
    · obtain ⟨date, -, hMoment⟩ := Option.map_eq_some_iff.mp h
      exact ⟨date, hMoment.symm⟩
    · exact absurd h (by simp)

/-! ## What each extractor contributes -/

section Contributions

variable {compiler : Compiler} {query : String} {now : Instant} {constraint : Constraint}

theorem constraint?_city
    (h : Extractor.city.constraint? (compiler.contextOf query now) = some constraint) :
    ∃ word, constraint = .containsPattern word ∧ word ≠ "" ∧ word.toList <:+: query.toList := by
  obtain ⟨word, hWord, rfl⟩ := Option.map_eq_some_iff.mp h
  have hStands := standsAsWord_of_capture? hWord
  refine ⟨word, rfl, ?_, hStands.infix⟩
  intro hEmpty
  apply hStands.ne_nil
  rw [hEmpty]
  rfl

/-- Every numeric extractor compares in the direction that the whole query gives. -/
theorem constraint?_numeric {field : Field} {anchor : Anchor}
    (h : (Extractor.numeric field anchor).constraint? (compiler.contextOf query now) =
      some constraint) :
    ∃ number < Word.count 63, constraint = (directionOf (tokenize query)).constraint number := by
  obtain ⟨binding, hBinding, rfl⟩ := Option.map_eq_some_iff.mp h
  exact ⟨binding.value, lt_of_bind hBinding, rfl⟩

theorem constraint?_joinDate
    (h : Extractor.joinDate.constraint? (compiler.contextOf query now) = some constraint) :
    ∃ (years : Int64) (date : Date), 0 ≤ years.toInt ∧
      yearsBefore? now years = some (Instant.midnight date) ∧
        constraint = .lessThan (.date (Instant.midnight date)) := by
  unfold Extractor.constraint? at h
  dsimp only at h
  split at h
  · obtain ⟨moment, hMoment, rfl⟩ := Option.map_eq_some_iff.mp h
    obtain ⟨binding, hBinding, hYears⟩ := Option.bind_eq_some_iff.mp hMoment
    obtain ⟨date, rfl⟩ := yearsBefore?_eq_midnight hYears
    exact ⟨_, date, toInt_ofNat_nonneg (lt_of_bind hBinding), hYears, rfl⟩
  · exact absurd h (by simp)

end Contributions

theorem ofLexicon_mem_standardExtractors (lexicon : Lexicon) (category : Category) :
    Extractor.ofLexicon lexicon category ∈ Compiler.standardExtractors lexicon := by
  apply List.mem_append_left
  apply List.mem_map_of_mem
  cases category <;> decide

/-- A filter whose fields hold what the standard extractors find is a reading of the query. -/
theorem reading_of_extractors {compiler : Compiler} {lexicon : Lexicon} {query : String}
    {now : Instant} {filter : Filter}
    (hFound : ∀ extractor ∈ Compiler.standardExtractors lexicon,
      filter.get? extractor.field = extractor.constraint? (compiler.contextOf query now))
    (hFree : ∀ field, field ∉ (Compiler.standardExtractors lexicon).map Extractor.field →
      filter.get? field = none) :
    Reading lexicon query now filter := by
  have hTerms : ∀ category, filter.get? category.field =
      Extractor.termConstraint? category
        ((lexicon.terms category).filter (·.isPresentIn (tokenize query))) := fun category =>
    hFound _ (ofLexicon_mem_standardExtractors lexicon category)
  have hCity := hFound .city (by simp [Compiler.standardExtractors])
  have hSalary := hFound .salary (by simp [Compiler.standardExtractors])
  have hAge := hFound .age (by simp [Compiler.standardExtractors])
  have hJoinDate := hFound .joinDate (by simp [Compiler.standardExtractors])
  refine ⟨?_, ?_, ?_, ?_, ?_, ?_, ?_⟩
  · intro field hField
    by_cases hOwned : field ∈ (Compiler.standardExtractors lexicon).map Extractor.field
    · exact hOwned
    · exact absurd (hFree field hOwned) hField
  · intro category hSingle
    rw [hTerms, termConstraint?_single]
    simp only [List.mem_cons, List.not_mem_nil, or_false] at hSingle
    rcases hSingle with rfl | rfl | rfl <;> rfl
  · rw [← termConstraint?_eq_none_iff, ← hTerms]
    rfl
  · intro constraint hSkills
    exact mem_of_termConstraint?_eq_some ((hTerms .skill).symm.trans hSkills)
  · intro constraint hConstraint
    exact constraint?_city (hCity.symm.trans hConstraint)
  · obtain ⟨comparison, hComparison, hEq⟩ := (directionOf (tokenize query)).constraint_eq
    refine ⟨comparison, hComparison, ?_⟩
    intro field hField constraint hConstraint
    have hNumber : ∃ number < Word.count 63,
        constraint = (directionOf (tokenize query)).constraint number := by
      simp only [List.mem_cons, List.not_mem_nil, or_false] at hField
      rcases hField with rfl | rfl
      · exact constraint?_numeric (hSalary.symm.trans hConstraint)
      · exact constraint?_numeric (hAge.symm.trans hConstraint)
    obtain ⟨number, hLt, rfl⟩ := hNumber
    exact ⟨Int64.ofNat number, toInt_ofNat_nonneg hLt, hEq number⟩
  · intro constraint hConstraint
    exact constraint?_joinDate (hJoinDate.symm.trans hConstraint)

/-! ## The three outcomes -/

/-- Where the gate lets a query pass, every field holds what its extractor finds, and the fields
without an extractor stay free. -/
theorem Compiler.compile_of_nodup (compiler : Compiler)
    (hNodup : (compiler.extractors.map Extractor.field).Nodup) {query : String} (now : Instant)
    (hToken : tokenize query ≠ []) (hCheck : compiler.gate.check (tokenize query) = .ok ()) :
    ∃ filter, compiler.compile query now = .ok filter ∧
      (∀ extractor ∈ compiler.extractors,
        filter.get? extractor.field = extractor.constraint? (compiler.contextOf query now)) ∧
      (∀ field, field ∉ compiler.extractors.map Extractor.field → filter.get? field = none) := by
  obtain ⟨draft, hRun, hFound, hKept⟩ :=
    run_of_nodup (compiler.contextOf query now) compiler.extractors Draft.empty hNodup
      fun _ _ => rfl
  refine ⟨draft.build, ?_, hFound, ?_⟩
  · rw [compiler.compile_of_token now hToken, hCheck]
    simp only [hRun]
  · intro field hField
    simp only [Draft.build, hKept field hField, Draft.empty, Option.map_none]

/-- Where no token is blocked, every field holds what its extractor finds. -/
theorem Compiler.compile_of_unblocked {settings : CompilerSettings} {compiler : Compiler}
    (hCompiler : Compiler.ofSettings settings = .ok compiler) {query : String} (now : Instant)
    (hToken : tokenize query ≠ [])
    (hPasses : ∀ token ∈ tokenize query, token.stem ∉ compiler.gate.blocked) :
    ∃ filter, compiler.compile query now = .ok filter ∧
      (∀ extractor ∈ standardExtractors (lexiconOf settings.extraTerms),
        filter.get? extractor.field = extractor.constraint? (compiler.contextOf query now)) ∧
      (∀ field, field ∉ (standardExtractors (lexiconOf settings.extraTerms)).map Extractor.field →
        filter.get? field = none) := by
  rw [← extractors_eq_of_ofSettings hCompiler]
  apply compiler.compile_of_nodup _ now hToken (Gate.check_of_unblocked hPasses)
  rw [extractors_eq_of_ofSettings hCompiler]
  exact nodup_fields_standardExtractors _

/-- What is known of a query that compiled: no token of it is blocked, every field holds what its
extractor finds, and the fields without an extractor are free. -/
theorem Compiler.of_compile_eq_ok {settings : CompilerSettings} {compiler : Compiler}
    (hCompiler : Compiler.ofSettings settings = .ok compiler) {query : String} {now : Instant}
    {filter : Filter} (hCompile : compiler.compile query now = .ok filter) :
    (∀ token ∈ tokenize query, token.stem ∉ compiler.gate.blocked) ∧
      (∀ extractor ∈ standardExtractors (lexiconOf settings.extraTerms),
        filter.get? extractor.field = extractor.constraint? (compiler.contextOf query now)) ∧
      (∀ field, field ∉ (standardExtractors (lexiconOf settings.extraTerms)).map Extractor.field →
        filter.get? field = none) := by
  have hToken : tokenize query ≠ [] := by
    intro hNone
    rw [compiler.compile_of_no_token now hNone] at hCompile
    exact absurd hCompile (by simp)
  have hPasses : ∀ token ∈ tokenize query, token.stem ∉ compiler.gate.blocked := by
    intro token hMem hStem
    obtain ⟨text, hRejected, -⟩ := compiler.compile_of_blocked now ⟨token, hMem, hStem⟩
    rw [hRejected] at hCompile
    exact absurd hCompile (by simp)
  obtain ⟨found, hOk, hFound, hFree⟩ := Compiler.compile_of_unblocked hCompiler now hToken hPasses
  rw [hOk] at hCompile
  cases hCompile
  exact ⟨hPasses, hFound, hFree⟩

/-- A query is rejected exactly when one of its tokens is blocked. -/
theorem Compiler.exists_rejected_iff {settings : CompilerSettings} {compiler : Compiler}
    (hCompiler : Compiler.ofSettings settings = .ok compiler) (query : String) (now : Instant) :
    (∃ text, compiler.compile query now = .error (.rejected text)) ↔
      ∃ token ∈ tokenize query, token.stem ∈ compiler.gate.blocked := by
  constructor
  · rintro ⟨text, hRejected⟩
    by_cases hToken : tokenize query = []
    · rw [compiler.compile_of_no_token now hToken] at hRejected
      exact absurd hRejected (by simp [SearchError.queryRequired])
    · apply Classical.byContradiction
      intro hNone
      obtain ⟨filter, hOk, -⟩ := Compiler.compile_of_unblocked hCompiler now hToken
        fun token hMem hStem => hNone ⟨token, hMem, hStem⟩
      rw [hOk] at hRejected
      exact absurd hRejected (by simp)
  · intro hBlocked
    obtain ⟨text, hRejected, -⟩ := compiler.compile_of_blocked now hBlocked
    exact ⟨text, hRejected⟩

/--
**The three outcomes of a compilation**, by a compiler with any accepted settings.  A query without
a letter or number is nothing to search for.  Any other query is refused exactly when one of its
tokens has a blocked stem, and the refusal shows the text of the first such token.  A query that is
not refused compiles, to a filter that is a reading of it.
-/
theorem compile_outcomes {settings : CompilerSettings} {compiler : Compiler}
    (hCompiler : Compiler.ofSettings settings = .ok compiler) (query : String) (now : Instant) :
    (compiler.compile query now = .error .queryRequired ↔
      ∀ c ∈ query.toList, isAlphanumeric c = false) ∧
    ((∃ c ∈ query.toList, isAlphanumeric c = true) →
      ((∃ text, compiler.compile query now = .error (.rejected text)) ↔
        ∃ token ∈ tokenize query, token.stem ∈ compiler.gate.blocked) ∧
      (∀ text, compiler.compile query now = .error (.rejected text) →
        FirstBlocked compiler.gate (tokenize query) text) ∧
      ((∀ token ∈ tokenize query, token.stem ∉ compiler.gate.blocked) →
        ∃ filter, compiler.compile query now = .ok filter ∧
          Reading (Compiler.lexiconOf settings.extraTerms) query now filter)) := by
  by_cases hToken : tokenize query = []
  · have hNone := (tokenize_eq_nil_iff query).mp hToken
    refine ⟨⟨fun _ => hNone, fun _ => compiler.compile_of_no_token now hToken⟩, ?_⟩
    rintro ⟨c, hMem, hc⟩
    rw [hNone c hMem] at hc
    exact absurd hc (by decide)
  · have hSome : ¬ ∀ c ∈ query.toList, isAlphanumeric c = false := fun h =>
      hToken ((tokenize_eq_nil_iff query).mpr h)
    by_cases hBlocked : ∃ token ∈ tokenize query, token.stem ∈ compiler.gate.blocked
    · obtain ⟨text, hCompile, hFirst⟩ := compiler.compile_of_blocked now hBlocked
      rw [hCompile]
      refine ⟨⟨fun h => absurd h (by simp [SearchError.queryRequired]), fun h => absurd h hSome⟩,
        fun _ => ⟨⟨fun _ => hBlocked, fun _ => ⟨text, rfl⟩⟩, ?_, ?_⟩⟩
      · intro other hOther
        cases hOther
        exact hFirst
      · intro hPasses
        obtain ⟨token, hMem, hStem⟩ := hBlocked
        exact absurd hStem (hPasses token hMem)
    · have hPasses : ∀ token ∈ tokenize query, token.stem ∉ compiler.gate.blocked :=
        fun token hMem hStem => hBlocked ⟨token, hMem, hStem⟩
      obtain ⟨filter, hCompile, hFound, hFree⟩ :=
        Compiler.compile_of_unblocked hCompiler now hToken hPasses
      rw [hCompile]
      refine ⟨⟨fun h => absurd h (by simp), fun h => absurd h hSome⟩,
        fun _ => ⟨⟨fun h => absurd h (by simp), fun h => absurd h hBlocked⟩, ?_, ?_⟩⟩
      · intro text h
        exact absurd h (by simp)
      · intro _
        exact ⟨filter, rfl, reading_of_extractors hFound hFree⟩

/-- All three outcomes occur with the standard settings. -/
theorem compile_outcomes_standard :
    ∃ compiler, Compiler.ofSettings {} = .ok compiler ∧
      ∀ now, compiler.compile "?!" now = .error .queryRequired ∧
        (∃ text, compiler.compile "Dropped, city Paris" now = .error (.rejected text)) ∧
        ∃ filter, compiler.compile "IT, SQL, city Paris, age below 40" now = .ok filter ∧
          Reading (Compiler.lexiconOf []) "IT, SQL, city Paris, age below 40" now filter := by
  obtain ⟨compiler, hCompiler⟩ := Compiler.exists_ofSettings {} (by decide)
  refine ⟨compiler, hCompiler, fun now => ⟨?_, ?_, ?_⟩⟩
  · apply (compile_outcomes hCompiler "?!" now).1.mpr
    have hNone : "?!".toList.any isAlphanumeric = false := by decide +kernel
    intro c hMem
    rw [Bool.eq_false_iff]
    exact List.any_eq_false.mp hNone c hMem
  · apply ((compile_outcomes hCompiler "Dropped, city Paris" now).2
      ⟨'D', by decide, by decide +kernel⟩).1.mpr
    rw [Compiler.blocked_of_ofSettings_default hCompiler]
    decide +kernel
  · apply ((compile_outcomes hCompiler "IT, SQL, city Paris, age below 40" now).2
      ⟨'I', by decide, by decide +kernel⟩).2.2
    rw [Compiler.blocked_of_ofSettings_default hCompiler]
    decide +kernel

end StaffSearch.Query
