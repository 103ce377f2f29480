import Mathlib.Data.List.Nodup
import Mathlib.Logic.Function.Basic
import StaffSearch.Proofs.Vocabularies

/-!
# Runs of tokens that spell skills

A term is present in a query when a run of tokens has the stems of one of its spellings.  Every term
is sought in the whole query and no token is used up, so two skills may be found by the same token:
a query for `node.js` names `javascript` as well, by its second token alone.

This file says how far runs can be assigned to the skills of a filter so that different skills are
told by different tokens.  Runs of two terms overlap only where a spelling of one of them, moved
along, agrees with a spelling of the other (`Term.Rivals`).  Where no term has two rivals, the runs
can be chosen so that two of them overlap only if there is no other choice (`Entangled`).  The
built-in skills are such a vocabulary: the rivals there are `javascript` and `node.js`.
-/

namespace StaffSearch.Query

open StaffSearch.Text

/-! ## Runs -/

/-- A run of tokens: those from number `first` on, up to number `stop`, which is not one of them. -/
structure Run where
  /-- The number of its first token. -/
  first : Nat
  /-- The number of the token behind it. -/
  stop : Nat
  deriving DecidableEq, Repr

/-- The stems of the tokens of a run. -/
def Run.stems (run : Run) (tokens : List Token) : List String :=
  ((tokens.take run.stop).drop run.first).map (·.stem)

/-- Some token is in both runs. -/
def Run.Overlaps (run other : Run) : Prop :=
  run.first < other.stop ∧ other.first < run.stop

/-- The run has the stems of one of the term's spellings. -/
structure Run.Spells (run : Run) (tokens : List Token) (term : Term) : Prop where
  /-- There is a token in it. -/
  nonempty : run.first < run.stop
  /-- It lies among the tokens. -/
  inside : run.stop ≤ tokens.length
  /-- Its stems are those of a spelling. -/
  form : run.stems tokens ∈ term.forms

instance (run other : Run) : Decidable (run.Overlaps other) :=
  inferInstanceAs (Decidable (_ ∧ _))

instance (run : Run) (tokens : List Token) (term : Term) : Decidable (run.Spells tokens term) :=
  decidable_of_iff
    (run.first < run.stop ∧ run.stop ≤ tokens.length ∧ run.stems tokens ∈ term.forms)
    ⟨fun h => ⟨h.1, h.2.1, h.2.2⟩, fun h => ⟨h.nonempty, h.inside, h.form⟩⟩

/-- The runs of one token or more among the first `count` tokens. -/
def Run.all (count : Nat) : List Run :=
  (List.range (count + 1)).flatMap fun stop => (List.range stop).map fun first => ⟨first, stop⟩

theorem Run.Spells.mem_all {run : Run} {tokens : List Token} {term : Term}
    (h : run.Spells tokens term) : run ∈ Run.all tokens.length := by
  apply List.mem_flatMap.mpr
  refine ⟨run.stop, List.mem_range.mpr (Nat.lt_succ_of_le h.inside), ?_⟩
  exact List.mem_map.mpr ⟨run.first, List.mem_range.mpr h.nonempty, rfl⟩

theorem Run.Overlaps.symm {run other : Run} (h : run.Overlaps other) : other.Overlaps run :=
  ⟨h.2, h.1⟩

theorem Run.length_stems {run : Run} {tokens : List Token} (hInside : run.stop ≤ tokens.length) :
    (run.stems tokens).length = run.stop - run.first := by
  rw [Run.stems, List.length_map, List.length_drop, List.length_take]
  omega

/-- **A term is present** when some run spells it. -/
theorem Term.isPresentIn_iff_exists_run {term : Term} {tokens : List Token} :
    term.isPresentIn tokens = true ↔ ∃ run : Run, run.Spells tokens term := by
  rw [Term.isPresentIn_iff]
  constructor
  · rintro ⟨form, hMem, hSome, before, after, hStems⟩
    have hPos := List.length_pos_iff.mpr hSome
    have hLength := congrArg List.length hStems
    rw [List.length_append, List.length_append, List.length_map] at hLength
    have hRun : Run.stems ⟨before.length, (before ++ form).length⟩ tokens = form := by
      rw [Run.stems, List.map_drop, List.map_take, ← hStems, List.take_left, List.drop_left]
    refine ⟨⟨before.length, (before ++ form).length⟩, ?_, ?_, ?_⟩
    · show before.length < (before ++ form).length
      rw [List.length_append]
      omega
    · show (before ++ form).length ≤ tokens.length
      rw [List.length_append]
      omega
    · rw [hRun]
      exact hMem
  · intro ⟨run, hSpells⟩
    refine ⟨run.stems tokens, hSpells.form, ?_, ?_⟩
    · apply List.ne_nil_of_length_pos
      have hPos := hSpells.nonempty
      rw [Run.length_stems hSpells.inside]
      omega
    · exact ((List.drop_suffix _ _).isInfix.trans (List.take_prefix _ _).isInfix).map _

/-! ## Rivals -/

/-- The second sequence, put on some place of the first one, agrees with it as far as both reach. -/
def Meets (form other : List String) : Prop :=
  ∃ shift < form.length, form.drop shift <+: other ∨ other <+: form.drop shift

/-- A spelling of one term and a spelling of the other agree where they overlap in some way: they
are the same, or one is in the other, or one begins as the other ends. -/
def Term.Rivals (term other : Term) : Prop :=
  ∃ form ∈ term.forms, ∃ opposing ∈ other.forms, Meets form opposing ∨ Meets opposing form

instance (form other : List String) : Decidable (Meets form other) :=
  inferInstanceAs (Decidable (∃ _ < _, _))

instance (term other : Term) : Decidable (term.Rivals other) :=
  inferInstanceAs (Decidable (∃ _ ∈ _, ∃ _ ∈ _, _))

theorem Term.Rivals.symm {term other : Term} (h : term.Rivals other) : other.Rivals term := by
  obtain ⟨form, hForm, opposing, hOpposing, hMeets⟩ := h
  exact ⟨opposing, hOpposing, form, hForm, hMeets.symm⟩

/-- The stems of overlapping runs agree where the runs overlap. -/
theorem Run.meets_of_overlaps {run other : Run} {tokens : List Token}
    (hInside : run.stop ≤ tokens.length) (hOrder : run.first ≤ other.first)
    (hOverlaps : run.Overlaps other) : Meets (run.stems tokens) (other.stems tokens) := by
  have hStop := hOverlaps.2
  refine ⟨other.first - run.first, ?_, ?_⟩
  · rw [Run.length_stems hInside]
    omega
  · have hPlace : run.first + (other.first - run.first) = other.first := by omega
    -- both are beginnings of what stands from the first common token on
    have hFront : (run.stems tokens).drop (other.first - run.first) <+:
        (tokens.drop other.first).map (·.stem) := by
      rw [Run.stems, ← List.map_drop, List.drop_drop, hPlace, List.drop_take]
      exact (List.take_prefix _ _).map _
    have hOther : other.stems tokens <+: (tokens.drop other.first).map (·.stem) := by
      rw [Run.stems, List.drop_take]
      exact (List.take_prefix _ _).map _
    exact List.prefix_or_prefix_of_prefix hFront hOther

/-- **Terms with overlapping runs are rivals.** -/
theorem Term.rivals_of_overlaps {run other : Run} {tokens : List Token} {term rival : Term}
    (hRun : run.Spells tokens term) (hOther : other.Spells tokens rival)
    (hOverlaps : run.Overlaps other) : term.Rivals rival := by
  refine ⟨run.stems tokens, hRun.form, other.stems tokens, hOther.form, ?_⟩
  cases Nat.le_total run.first other.first with
  | inl hOrder => exact Or.inl (Run.meets_of_overlaps hRun.inside hOrder hOverlaps)
  | inr hOrder => exact Or.inr (Run.meets_of_overlaps hOther.inside hOrder hOverlaps.symm)

/-! ## Choosing runs -/

/-- No two runs for the terms lie apart. -/
def Entangled (tokens : List Token) (term other : Term) : Prop :=
  ∀ run another : Run, run.Spells tokens term → another.Spells tokens other →
    run.Overlaps another

/-- No term has two rivals among the others. -/
def RivalsInPairs (terms : List Term) : Prop :=
  ∀ term ∈ terms, ∀ one ∈ terms, ∀ other ∈ terms, one ≠ term → other ≠ term →
    term.Rivals one → term.Rivals other → one = other

instance (terms : List Term) : Decidable (RivalsInPairs terms) :=
  inferInstanceAs (Decidable (∀ _ ∈ _, _))

theorem Entangled.symm {tokens : List Token} {term other : Term}
    (h : Entangled tokens term other) : Entangled tokens other term :=
  fun run another hRun hAnother => (h another run hAnother hRun).symm

instance (tokens : List Token) (term other : Term) : Decidable (Entangled tokens term other) :=
  decidable_of_iff
    (∀ run ∈ Run.all tokens.length, ∀ another ∈ Run.all tokens.length,
      run.Spells tokens term → another.Spells tokens other → run.Overlaps another)
    ⟨fun h run another hRun hOther => h run hRun.mem_all another hOther.mem_all hRun hOther,
      fun h run _ another _ => h run another⟩

theorem RivalsInPairs.mono {terms more : List Term} (h : RivalsInPairs more)
    (hTerms : terms ⊆ more) : RivalsInPairs terms :=
  fun term hTerm one hOne other hOther =>
    h term (hTerms hTerm) one (hTerms hOne) other (hTerms hOther)

/-- Every term has a run that spells it, and the runs of two terms overlap only if all their runs
do. -/
structure SpellsApart (tokens : List Token) (terms : List Term) (run : Term → Run) : Prop where
  /-- The run of a term spells it. -/
  spells : ∀ term ∈ terms, (run term).Spells tokens term
  /-- Runs overlap only where they have to. -/
  entangled : ∀ term ∈ terms, ∀ other ∈ terms, term ≠ other →
    (run term).Overlaps (run other) → Entangled tokens term other

section Choosing

variable {tokens : List Token} {terms : List Term} {run : Term → Run}

theorem SpellsApart.mono {more : List Term} (h : SpellsApart tokens more run)
    (hTerms : terms ⊆ more) : SpellsApart tokens terms run :=
  ⟨fun term hTerm => h.spells term (hTerms hTerm),
    fun term hTerm other hOther => h.entangled term (hTerms hTerm) other (hTerms hOther)⟩

/-- A term can be given a run that overlaps the others only where it has to. -/
theorem SpellsApart.update {term : Term} {own : Run} (h : SpellsApart tokens terms run)
    (hOwn : own.Spells tokens term)
    (hOthers : ∀ other ∈ terms, other ≠ term → own.Overlaps (run other) →
      Entangled tokens term other) :
    SpellsApart tokens (term :: terms) (Function.update run term own) := by
  have hSelf : Function.update run term own term = own := Function.update_self ..
  have hElse : ∀ other ≠ term, Function.update run term own other = run other :=
    fun other hNe => Function.update_of_ne hNe ..
  have hMem : ∀ other ∈ term :: terms, other ≠ term → other ∈ terms :=
    fun other hMem hNe => (List.mem_cons.mp hMem).resolve_left hNe
  constructor
  · intro other hOther
    by_cases hSame : other = term
    · rw [hSame, hSelf]
      exact hOwn
    · rw [hElse other hSame]
      exact h.spells other (hMem other hOther hSame)
  · intro one hOne other hOther hNe hOverlaps
    by_cases hOneSame : one = term
    · have hOtherNe : other ≠ term := fun hSame => hNe (hOneSame.trans hSame.symm)
      rw [hOneSame, hSelf, hElse other hOtherNe] at hOverlaps
      rw [hOneSame]
      exact hOthers other (hMem other hOther hOtherNe) hOtherNe hOverlaps
    · by_cases hOtherSame : other = term
      · rw [hOtherSame, hSelf, hElse one hOneSame] at hOverlaps
        rw [hOtherSame]
        exact (hOthers one (hMem one hOne hOneSame) hOneSame hOverlaps.symm).symm
      · rw [hElse one hOneSame, hElse other hOtherSame] at hOverlaps
        exact h.entangled one (hMem one hOne hOneSame) other (hMem other hOther hOtherSame) hNe
          hOverlaps

/-- A term and its only rival can be given runs that lie apart: none of the others has a run that
overlaps one of the two. -/
theorem SpellsApart.update_pair {term rival : Term} {own another : Run}
    (h : SpellsApart tokens terms run) (hNew : term ∉ terms) (hMem : rival ∈ terms)
    (hPairs : RivalsInPairs (term :: terms)) (hRivals : term.Rivals rival)
    (hOwn : own.Spells tokens term) (hAnother : another.Spells tokens rival)
    (hApart : ¬ own.Overlaps another) :
    SpellsApart tokens (term :: terms)
      (Function.update (Function.update run rival another) term own) := by
  have hHere : term ∈ term :: terms := List.mem_cons_self
  have hThere : ∀ other ∈ terms, other ∈ term :: terms := fun _ => List.mem_cons_of_mem term
  have hNe : ∀ other ∈ terms, other ≠ term := fun other hOther hSame => hNew (hSame ▸ hOther)
  have hRival : SpellsApart tokens (rival :: terms) (Function.update run rival another) := by
    refine h.update hAnother ?_
    intro other hOther hOtherNe hOverlaps
    have hOtherRivals : rival.Rivals other :=
      Term.rivals_of_overlaps hAnother (h.spells other hOther) hOverlaps
    have hSame : other = term := hPairs rival (hThere rival hMem) other (hThere other hOther) term
      hHere hOtherNe (hNe rival hMem).symm hOtherRivals hRivals.symm
    exact absurd hSame (hNe other hOther)
  have hOthers : SpellsApart tokens terms (Function.update run rival another) :=
    hRival.mono (List.subset_cons_self rival terms)
  refine hOthers.update hOwn ?_
  intro other hOther _ hOverlaps
  have hOtherRivals : term.Rivals other :=
    Term.rivals_of_overlaps hOwn (hOthers.spells other hOther) hOverlaps
  have hSame : other = rival := hPairs term hHere other (hThere other hOther) rival
    (hThere rival hMem) (hNe other hOther) (hNe rival hMem) hOtherRivals hRivals
  rw [hSame, Function.update_self] at hOverlaps
  exact absurd hOverlaps hApart

/-- **Where no term has two rivals,** the runs can be chosen so that they overlap only where they
have to. -/
theorem exists_spellsApart : ∀ {terms : List Term}, terms.Nodup → RivalsInPairs terms →
    (∀ term ∈ terms, ∃ run : Run, run.Spells tokens term) →
      ∃ run : Term → Run, SpellsApart tokens terms run := by
  intro terms
  induction terms with
  | nil =>
      intro _ _ _
      exact ⟨fun _ => ⟨0, 0⟩, by simp, by simp⟩
  | cons term rest ih =>
      intro hNodup hPairs hPresent
      have hRest : rest ⊆ term :: rest := List.subset_cons_self term rest
      obtain ⟨hNew, hNodupRest⟩ := List.nodup_cons.mp hNodup
      obtain ⟨run, hRun⟩ := ih hNodupRest (hPairs.mono hRest)
        fun other hMem => hPresent other (hRest hMem)
      by_cases hForced : ∀ other ∈ rest, term.Rivals other → Entangled tokens term other
      · obtain ⟨own, hOwn⟩ := hPresent term List.mem_cons_self
        refine ⟨Function.update run term own, hRun.update hOwn ?_⟩
        intro other hMem _ hOverlaps
        exact hForced other hMem (Term.rivals_of_overlaps hOwn (hRun.spells other hMem) hOverlaps)
      · -- the rival, which has a run already, gets a new one together with the term
        simp only [not_forall, Entangled] at hForced
        obtain ⟨rival, hMem, hRivals, own, another, hOwn, hAnother, hApart⟩ := hForced
        exact ⟨_, hRun.update_pair hNew hMem hPairs hRivals hOwn hAnother hApart⟩

/-- Terms that are present can be given runs that overlap only if the terms are rivals, and only
where they have to if no term has two rivals. -/
theorem exists_runs (hNodup : terms.Nodup)
    (hPresent : ∀ term ∈ terms, ∃ run : Run, run.Spells tokens term) :
    ∃ run : Term → Run, (∀ term ∈ terms, (run term).Spells tokens term) ∧
      (∀ term ∈ terms, ∀ other ∈ terms, term ≠ other →
        (run term).Overlaps (run other) → term.Rivals other) ∧
      (RivalsInPairs terms → SpellsApart tokens terms run) := by
  have hRivals : ∀ run : Term → Run, (∀ term ∈ terms, (run term).Spells tokens term) →
      ∀ term ∈ terms, ∀ other ∈ terms, term ≠ other →
        (run term).Overlaps (run other) → term.Rivals other :=
    fun run hRun term hTerm other hOther _ =>
      Term.rivals_of_overlaps (hRun term hTerm) (hRun other hOther)
  by_cases hPairs : RivalsInPairs terms
  · obtain ⟨run, hRun⟩ := exists_spellsApart hNodup hPairs hPresent
    exact ⟨run, hRun.spells, hRivals run hRun.spells, fun _ => hRun⟩
  · have hSome : ∀ term, ∃ run : Run, term ∈ terms → run.Spells tokens term := by
      intro term
      by_cases hMem : term ∈ terms
      · obtain ⟨run, hRun⟩ := hPresent term hMem
        exact ⟨run, fun _ => hRun⟩
      · exact ⟨⟨0, 0⟩, fun hThere => absurd hThere hMem⟩
    obtain ⟨run, hRun⟩ := Classical.skolem.mp hSome
    exact ⟨run, hRun, hRivals run hRun, fun hThere => absurd hThere hPairs⟩

end Choosing

/-! ## The built-in skills -/

theorem terms_builtIn_skill :
    Lexicon.builtIn.terms .skill =
      [⟨"javascript", [["javascript"], ["js"]]⟩, ⟨"python", [["python"]]⟩, ⟨"react", [["react"]]⟩,
        ⟨"node.js", [["node", "js"], ["nodej"]]⟩, ⟨"sql", [["sql"]]⟩, ⟨"java", [["java"]]⟩,
        ⟨"typescript", [["typescript"]]⟩, ⟨"docker", [["docker"]]⟩] := by
  decide +kernel

/-- The only rivals among the built-in skills are `javascript`, which is also spelled `js`, and
`node.js`. -/
theorem rivals_builtIn_skill : ∀ term ∈ Lexicon.builtIn.terms .skill,
    ∀ other ∈ Lexicon.builtIn.terms .skill, term ≠ other → term.Rivals other →
      (term.value = "javascript" ∧ other.value = "node.js") ∨
        (term.value = "node.js" ∧ other.value = "javascript") := by
  rw [terms_builtIn_skill]
  decide +kernel

theorem rivalsInPairs_builtIn_skill : RivalsInPairs (Lexicon.builtIn.terms .skill) := by
  rw [terms_builtIn_skill]
  decide +kernel

/-! ## The skills of a filter -/

/-- The terms in the vocabulary of skills whose values are in a set. -/
def CompilerSettings.skillsIn (settings : CompilerSettings) (set : TextSet) : List Term :=
  ((Compiler.lexiconOf settings.extraTerms).terms .skill).filter fun term =>
    set.elements.contains term.value

section Skills

variable {settings : CompilerSettings} {set : TextSet}

theorem mem_skillsIn_iff {term : Term} :
    term ∈ settings.skillsIn set ↔
      term ∈ (Compiler.lexiconOf settings.extraTerms).terms .skill ∧
        term.value ∈ set.elements := by
  rw [CompilerSettings.skillsIn, List.mem_filter, List.contains_iff_mem]

theorem nodup_skillsIn : (settings.skillsIn set).Nodup :=
  List.Nodup.filter _ (.of_map _ (Compiler.nodup_values_lexiconOf settings.extraTerms .skill))

/-- Without further skills in the settings, the skills of a set are built in. -/
theorem skillsIn_subset_builtIn (hSkills : settings.termsOf .skill = []) :
    settings.skillsIn set ⊆ Lexicon.builtIn.terms .skill := by
  intro term hMem
  have hTerm := (mem_skillsIn_iff.mp hMem).1
  rw [Compiler.terms_lexiconOf, hSkills] at hTerm
  exact hTerm

variable {compiler : Compiler} {query : String} {now : Instant} {filter : Filter}

/-- The values of the set are those of its terms, and every one of these is spelled by a run. -/
theorem skillsIn_of_compile (hCompiler : Compiler.ofSettings settings = .ok compiler)
    (hFilter : compiler.compile query now = .ok filter)
    (hSet : filter.get? .skills = some (.oneOf set)) :
    (∀ value ∈ set.elements, ∃ term ∈ settings.skillsIn set, term.value = value) ∧
      ∀ term ∈ settings.skillsIn set, ∃ run : Run, run.Spells (tokenize query) term := by
  obtain ⟨-, hOwned, hFree⟩ := Compiler.of_compile_eq_ok hCompiler hFilter
  obtain ⟨found, hFound, hValues⟩ := (reading_of_extractors hOwned hFree).skills_some _ hSet
  cases hFound
  constructor
  · intro value hValue
    obtain ⟨term, hTerm, -, hSame⟩ := (hValues value).mp hValue
    exact ⟨term, mem_skillsIn_iff.mpr ⟨hTerm, hSame.symm ▸ hValue⟩, hSame⟩
  · intro term hMem
    obtain ⟨hTerm, hValue⟩ := mem_skillsIn_iff.mp hMem
    obtain ⟨present, hPresent, hHere, hSame⟩ := (hValues term.value).mp hValue
    have hTerms : present = term := List.inj_on_of_nodup_map
      (Compiler.nodup_values_lexiconOf settings.extraTerms .skill) hPresent hTerm hSame
    rw [← hTerms]
    exact Term.isPresentIn_iff_exists_run.mp hHere

/--
**Different skills are told by different tokens as far as their spellings allow.**  Every skill that
a filter names has a run of tokens that spells it, and the runs of two skills overlap only if their
spellings do.  Where no skill of the filter has two rivals, they overlap only if all runs of the two
skills do; and without further skills in the settings that is so, the only rivals being `javascript`
and `node.js`.
-/
theorem skills_spelled_apart (hCompiler : Compiler.ofSettings settings = .ok compiler)
    (hFilter : compiler.compile query now = .ok filter)
    (hSet : filter.get? .skills = some (.oneOf set)) :
    (∀ value ∈ set.elements, ∃ term ∈ settings.skillsIn set, term.value = value) ∧
    (∃ run : Term → Run,
      (∀ term ∈ settings.skillsIn set, (run term).Spells (tokenize query) term) ∧
      (∀ term ∈ settings.skillsIn set, ∀ other ∈ settings.skillsIn set, term ≠ other →
        (run term).Overlaps (run other) → term.Rivals other) ∧
      (RivalsInPairs (settings.skillsIn set) →
        SpellsApart (tokenize query) (settings.skillsIn set) run)) ∧
    (settings.termsOf .skill = [] → RivalsInPairs (settings.skillsIn set) ∧
      ∀ term ∈ settings.skillsIn set, ∀ other ∈ settings.skillsIn set, term ≠ other →
        term.Rivals other → (term.value = "javascript" ∧ other.value = "node.js") ∨
          (term.value = "node.js" ∧ other.value = "javascript")) := by
  obtain ⟨hValues, hPresent⟩ := skillsIn_of_compile hCompiler hFilter hSet
  refine ⟨hValues, exists_runs nodup_skillsIn hPresent, ?_⟩
  intro hSkills
  have hBuiltIn : settings.skillsIn set ⊆ Lexicon.builtIn.terms .skill :=
    skillsIn_subset_builtIn hSkills
  refine ⟨rivalsInPairs_builtIn_skill.mono hBuiltIn, ?_⟩
  intro term hTerm other hOther
  exact rivals_builtIn_skill term (hBuiltIn hTerm) other (hBuiltIn hOther)

end Skills

/-- The built-in skills that are named by a query for `js` and for `node.js`. -/
theorem skillsIn_javascript_node :
    CompilerSettings.skillsIn {} (TextSet.ofList ["javascript", "node.js"]) =
      [⟨"javascript", [["javascript"], ["js"]]⟩, ⟨"node.js", [["node", "js"], ["nodej"]]⟩] := by
  have hTerms : (Compiler.lexiconOf []).terms .skill = _ := terms_builtIn_skill
  rw [CompilerSettings.skillsIn, hTerms]
  decide +kernel

/-- Without further settings, a query that is not blocked names the built-in skills that are
present. -/
theorem skills_of_unblocked {compiler : Compiler} (hCompiler : Compiler.ofSettings {} = .ok compiler)
    {query : String} (now : Instant) (hToken : tokenize query ≠ [])
    (hPasses : ∀ token ∈ tokenize query, token.stem ∉ compiler.gate.blocked) :
    ∃ filter, compiler.compile query now = .ok filter ∧
      filter.get? .skills = Extractor.termConstraint? .skill
        ((Lexicon.builtIn.terms .skill).filter (·.isPresentIn (tokenize query))) := by
  obtain ⟨filter, hFilter, hFound, -⟩ := Compiler.compile_of_unblocked hCompiler now hToken hPasses
  exact ⟨filter, hFilter, hFound _ (ofLexicon_mem_standardExtractors _ .skill)⟩

/-- Two skills that lie apart are told by runs that do. -/
theorem skills_spelled_apart_two_skills :
    ∃ compiler, Compiler.ofSettings {} = .ok compiler ∧
      ∀ now, ∃ filter set, compiler.compile "js or node.js" now = .ok filter ∧
        filter.get? .skills = some (.oneOf set) ∧ set.elements = ["javascript", "node.js"] ∧
        ∃ run : Term → Run,
          SpellsApart (tokenize "js or node.js") (CompilerSettings.skillsIn {} set) run ∧
          ∀ term ∈ CompilerSettings.skillsIn {} set, ∀ other ∈ CompilerSettings.skillsIn {} set,
            term ≠ other → ¬ (run term).Overlaps (run other) := by
  obtain ⟨compiler, hCompiler⟩ := Compiler.exists_ofSettings {} (by decide)
  refine ⟨compiler, hCompiler, fun now => ?_⟩
  have hTokens : tokenize "js or node.js" =
      [⟨"js", "js", 0, 2⟩, ⟨"or", "or", 3, 5⟩, ⟨"node", "node", 6, 10⟩, ⟨"js", "js", 11, 13⟩] := by
    decide +kernel
  have hPasses : ∀ token ∈ tokenize "js or node.js", token.stem ∉ compiler.gate.blocked := by
    rw [hTokens, Compiler.blocked_of_ofSettings_default hCompiler]
    decide +kernel
  obtain ⟨filter, hFilter, hSkills⟩ :=
    skills_of_unblocked hCompiler now (by rw [hTokens]; decide) hPasses
  have hSet : filter.get? .skills = some (.oneOf (TextSet.ofList ["javascript", "node.js"])) := by
    rw [hSkills, hTokens, terms_builtIn_skill]
    decide +kernel
  obtain ⟨-, ⟨run, -, -, hApart⟩, hBuiltIn⟩ := skills_spelled_apart hCompiler hFilter hSet
  have hRun := hApart (hBuiltIn rfl).1
  have hFree : ∀ term ∈ CompilerSettings.skillsIn {} (TextSet.ofList ["javascript", "node.js"]),
      ∀ other ∈ CompilerSettings.skillsIn {} (TextSet.ofList ["javascript", "node.js"]),
        term ≠ other → ¬ Entangled (tokenize "js or node.js") term other := by
    rw [skillsIn_javascript_node, hTokens]
    decide +kernel
  refine ⟨filter, _, hFilter, hSet, by decide +kernel, run, hRun, ?_⟩
  intro term hTerm other hOther hNe hOverlaps
  exact hFree term hTerm other hOther hNe (hRun.entangled term hTerm other hOther hNe hOverlaps)

/-- Some skills cannot be told by different tokens: in `node.js`, the second token alone spells
`javascript`, and `node.js` takes both. -/
theorem not_skills_spelled_disjoint :
    ¬ ∀ (settings : CompilerSettings) (compiler : Compiler) (query : String) (now : Instant)
        (filter : Filter) (set : TextSet),
      Compiler.ofSettings settings = .ok compiler → compiler.compile query now = .ok filter →
      filter.get? .skills = some (.oneOf set) →
        ∃ run : Term → Run,
          (∀ term ∈ settings.skillsIn set, (run term).Spells (tokenize query) term) ∧
          ∀ term ∈ settings.skillsIn set, ∀ other ∈ settings.skillsIn set,
            term ≠ other → ¬ (run term).Overlaps (run other) := by
  intro h
  obtain ⟨compiler, hCompiler⟩ := Compiler.exists_ofSettings {} (by decide)
  have hTokens : tokenize "node.js" = [⟨"node", "node", 0, 4⟩, ⟨"js", "js", 5, 7⟩] := by
    decide +kernel
  have hPasses : ∀ token ∈ tokenize "node.js", token.stem ∉ compiler.gate.blocked := by
    rw [hTokens, Compiler.blocked_of_ofSettings_default hCompiler]
    decide +kernel
  obtain ⟨filter, hFilter, hSkills⟩ :=
    skills_of_unblocked hCompiler Instant.epoch (by rw [hTokens]; decide) hPasses
  have hSet : filter.get? .skills = some (.oneOf (TextSet.ofList ["javascript", "node.js"])) := by
    rw [hSkills, hTokens, terms_builtIn_skill]
    decide +kernel
  obtain ⟨run, hSpells, hApart⟩ := h {} compiler "node.js" _ filter _ hCompiler hFilter hSet
  rw [skillsIn_javascript_node, hTokens] at hSpells
  rw [skillsIn_javascript_node] at hApart
  have hEntangled : Entangled [⟨"node", "node", 0, 4⟩, ⟨"js", "js", 5, 7⟩]
      ⟨"javascript", [["javascript"], ["js"]]⟩ ⟨"node.js", [["node", "js"], ["nodej"]]⟩ := by
    decide +kernel
  exact hApart _ (by simp) _ (by simp) (by decide)
    (hEntangled _ _ (hSpells _ (by simp)) (hSpells _ (by simp)))

end StaffSearch.Query
