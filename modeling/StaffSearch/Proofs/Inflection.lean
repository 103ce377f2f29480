import StaffSearch.Proofs.Letters
import StaffSearch.Query.Stem

/-!
# Inflected verbs and their stems

Six rules are tried in a fixed order, again and again, so an ending can be taken for another one: an
`es` for a plural, the `e` of an `ed` for a silent one.  This file says for each regular ending of a
verb which rule gets it and what that rule leaves, and concludes that all forms of a verb meet at
one stem (`RegularForm.stemList_eq`).

A rule needs its ending, so most rules are excluded by the last letter of the word.  The order of
the rules matters twice: behind `ss`, where `es` is an ending of its own, and for a final `s`, which
the plurals in `ies` and `sses` get first.

What a rule can have left of a word, whichever it was, is one of five things
(`strips_of_stripOnce?`).
-/

namespace StaffSearch.Query

open StaffSearch.Text

/-! ## Endings -/

theorem suffix_of_snoc_suffix {front text : List Char} {x y : Char}
    (h : front ++ [x] <:+ text ++ [y]) : front <:+ text := by
  rw [← List.reverse_prefix, List.reverse_concat, List.reverse_concat,
    List.cons_prefix_cons] at h
  exact List.reverse_prefix.mp h.2

/-- Neither of two endings ends with the other, so no word has both. -/
def Apart (ending other : List Char) : Prop := ¬ ending <:+ other ∧ ¬ other <:+ ending

instance (ending other : List Char) : Decidable (Apart ending other) :=
  inferInstanceAs (Decidable (¬ ending <:+ other ∧ ¬ other <:+ ending))

theorem Apart.not_suffix_append {ending other : List Char} (h : Apart ending other)
    (text : List Char) : ¬ ending <:+ text ++ other := by
  intro hEnds
  rcases List.suffix_or_suffix_of_suffix hEnds (List.suffix_append text other) with hIn | hIn
  · exact h.1 hIn
  · exact h.2 hIn

theorem endsWith_append {ending : List Char} (hEnding : ending ≠ []) (property : Char → Bool)
    (text : List Char) : endsWith property (text ++ ending) = endsWith property ending := by
  rw [endsWith, endsWith, List.getLast?_append, List.getLast?_eq_some_getLast hEnding,
    Option.some_or]

/-- A text does not have an ending whose last letter is of another kind. -/
theorem not_suffix_of_endsWith {property : Char → Bool} {ending text : List Char}
    (hText : endsWith property text = true) (hNonempty : ending ≠ [])
    (hEnding : endsWith property ending = false) : ¬ ending <:+ text := by
  rintro ⟨front, rfl⟩
  rw [endsWith_append hNonempty, hEnding] at hText
  exact absurd hText (by decide)

@[simp] theorem beforeEnd?_append (base ending : List Char) :
    beforeEnd? ending (base ++ ending) = some base :=
  (beforeEnd?_eq_some_iff ending _ base).mpr rfl

theorem beforeEnd?_eq_none {ending word : List Char} (h : ¬ ending <:+ word) :
    beforeEnd? ending word = none := by
  rw [Option.eq_none_iff_forall_ne_some]
  intro base hBase
  apply h
  rw [(beforeEnd?_eq_some_iff ending word base).mp hBase]
  exact List.suffix_append base ending

theorem pluralOfY_eq_none {word : List Char} (h : ¬ ['i', 'e', 's'] <:+ word) :
    pluralOfY word = none := by
  rw [pluralOfY, beforeEnd?_eq_none h]

theorem pluralOfSs_eq_none {word : List Char} (h : ¬ ['s', 's', 'e', 's'] <:+ word) :
    pluralOfSs word = none := by
  rw [pluralOfSs, beforeEnd?_eq_none h]
  rfl

theorem verbEnding_eq_none {ending word : List Char} (h : ¬ ending <:+ word) :
    verbEnding ending word = none := by
  rw [verbEnding, beforeEnd?_eq_none h]

theorem finalS_eq_none {word : List Char} (h : ¬ ['s'] <:+ word) : finalS word = none := by
  rw [finalS, beforeEnd?_eq_none h]

/-! ## Doubled letters -/

/-- A base is left as it is, or it ends in a doubled letter, one of which is dropped. -/
theorem undouble_cases (base : List Char) :
    undouble base = base ∨
      ∃ front c, base = front ++ [c, c] ∧ staysDoubled c = false ∧ undouble base = front ++ [c] ∧
        shortestStem ≤ (undouble base).length := by
  unfold undouble
  split
  · next last beforeLast rest hReverse =>
      have hBase : base = rest.reverse ++ [beforeLast, last] := by
        rw [← List.reverse_reverse base, hReverse]
        simp
      split
      · next hDoubled =>
          simp only [Bool.and_eq_true, decide_eq_true_eq, beq_iff_eq, Bool.not_eq_true'] at hDoubled
          obtain ⟨⟨hLong, rfl⟩, hDrops⟩ := hDoubled
          right
          refine ⟨rest.reverse, last, hBase, hDrops, ?_, ?_⟩
          · rw [hBase]
            simp
          · rw [List.length_dropLast]
            omega
      · exact Or.inl rfl
  · exact Or.inl rfl

theorem undouble_eq_self {base : List Char}
    (h : ∀ front c, base = front ++ [c, c] → staysDoubled c = true) : undouble base = base := by
  rcases undouble_cases base with hSame | ⟨front, c, hBase, hDrops, -⟩
  · exact hSame
  · rw [h front c hBase] at hDrops
    exact absurd hDrops (by decide)

theorem undouble_doubled {front : List Char} {x : Char} (hLong : 2 ≤ front.length)
    (hDrops : staysDoubled x = false) : undouble (front ++ [x] ++ [x]) = front ++ [x] := by
  have hReverse : (front ++ [x] ++ [x]).reverse = x :: x :: front.reverse := by simp
  have hLength : shortestStem < (front ++ [x] ++ [x]).length := by
    simp only [shortestStem, List.length_append, List.length_singleton]
    omega
  unfold undouble
  rw [hReverse]
  show (if _ then _ else _) = _
  rw [if_pos, List.dropLast_concat]
  rw [decide_eq_true hLength, hDrops, beq_self_eq_true]
  rfl

/-! ## Which rule applies -/

/-- The rule that gets the word, when those in front of it leave it alone. -/
theorem stripOnce?_of_rule (before : List SuffixRule) {after : List SuffixRule}
    {rule : SuffixRule} (hRules : suffixRules = before ++ rule :: after) {word next : List Char}
    (hWord : isStemmable word = true) (hBefore : ∀ earlier ∈ before, earlier word = none)
    (hRule : rule word = some next) : stripOnce? word = some next := by
  rw [stripOnce?, if_pos hWord, List.findSome?_eq_some_iff]
  exact ⟨before, rule, after, hRules, hRule, hBefore⟩

/-- A plural in `sses` loses its `es`. -/
theorem stripOnce?_pluralOfSs {base : List Char}
    (hWord : isStemmable (base ++ ['s', 's', 'e', 's']) = true) :
    stripOnce? (base ++ ['s', 's', 'e', 's']) = some (base ++ ['s', 's']) := by
  have hApart : Apart ['i', 'e', 's'] ['s', 's', 'e', 's'] := by decide
  have hY := pluralOfY_eq_none (hApart.not_suffix_append base)
  apply stripOnce?_of_rule [pluralOfY] rfl hWord
  · simpa using hY
  · rw [pluralOfSs, beforeEnd?_append]
    rfl

/-- A final `s` falls off a word that is no plural of another kind. -/
theorem stripOnce?_finalS {base : List Char} (hWord : isStemmable (base ++ ['s']) = true)
    (hIe : ¬ ['i', 'e'] <:+ base) (hSse : ¬ ['s', 's', 'e'] <:+ base)
    (hKeeps : endsWith ['s', 'u', 'i'].contains base = false) :
    stripOnce? (base ++ ['s']) = some base := by
  have hY : pluralOfY (base ++ ['s']) = none := by
    apply pluralOfY_eq_none
    intro h
    exact hIe (suffix_of_snoc_suffix (show ['i', 'e'] ++ ['s'] <:+ base ++ ['s'] from h))
  have hSs : pluralOfSs (base ++ ['s']) = none := by
    apply pluralOfSs_eq_none
    intro h
    exact hSse (suffix_of_snoc_suffix (show ['s', 's', 'e'] ++ ['s'] <:+ base ++ ['s'] from h))
  have hIng : verbEnding ['i', 'n', 'g'] (base ++ ['s']) = none :=
    verbEnding_eq_none (Apart.not_suffix_append (by decide) base)
  have hEd : verbEnding ['e', 'd'] (base ++ ['s']) = none :=
    verbEnding_eq_none (Apart.not_suffix_append (by decide) base)
  apply stripOnce?_of_rule [pluralOfY, pluralOfSs, verbEnding ['i', 'n', 'g'],
    verbEnding ['e', 'd']] rfl hWord
  · simp [hY, hSs, hIng, hEd]
  · simp only [finalS, beforeEnd?_append, hKeeps]
    rfl

/-- A final `e` falls off behind a consonant. -/
theorem stripOnce?_finalE {base : List Char} (hWord : isStemmable (base ++ ['e']) = true)
    (hLong : 4 ≤ base.length) (hLast : endsWith (fun c => !isVowel c) base = true) :
    stripOnce? (base ++ ['e']) = some base := by
  have hY : pluralOfY (base ++ ['e']) = none :=
    pluralOfY_eq_none (Apart.not_suffix_append (by decide) base)
  have hSs : pluralOfSs (base ++ ['e']) = none :=
    pluralOfSs_eq_none (Apart.not_suffix_append (by decide) base)
  have hIng : verbEnding ['i', 'n', 'g'] (base ++ ['e']) = none :=
    verbEnding_eq_none (Apart.not_suffix_append (by decide) base)
  have hEd : verbEnding ['e', 'd'] (base ++ ['e']) = none :=
    verbEnding_eq_none (Apart.not_suffix_append (by decide) base)
  have hS : finalS (base ++ ['e']) = none :=
    finalS_eq_none (Apart.not_suffix_append (by decide) base)
  apply stripOnce?_of_rule [pluralOfY, pluralOfSs, verbEnding ['i', 'n', 'g'],
    verbEnding ['e', 'd'], finalS] rfl hWord
  · simp [hY, hSs, hIng, hEd, hS]
  · have hLength : shortestBeforeFinalE ≤ (base ++ ['e']).length := by
      simp only [shortestBeforeFinalE, List.length_append, List.length_singleton]
      omega
    simp only [finalE, beforeEnd?_append, decide_eq_true hLength, hLast, Bool.and_self, if_true]

/-- The two endings that only verbs have. -/
def verbEndings : List (List Char) := [['e', 'd'], ['i', 'n', 'g']]

/-- A verb ending falls off, and a doubled consonant in front of it becomes single. -/
theorem stripOnce?_verbEnding {base ending : List Char} (hEnding : ending ∈ verbEndings)
    (hWord : isStemmable (base ++ ending) = true) (hLong : 3 ≤ base.length)
    (hVowel : base.any isVowel = true) :
    stripOnce? (base ++ ending) = some (undouble base) := by
  have hRule : verbEnding ending (base ++ ending) = some (undouble base) := by
    have hLength : shortestStem ≤ base.length := hLong
    simp only [verbEnding, beforeEnd?_append, decide_eq_true hLength, hVowel, Bool.and_self,
      if_true]
  have hApart : ∀ other ∈ verbEndings,
      Apart ['i', 'e', 's'] other ∧ Apart ['s', 's', 'e', 's'] other := by decide
  have hY := pluralOfY_eq_none ((hApart ending hEnding).1.not_suffix_append base)
  have hSs := pluralOfSs_eq_none ((hApart ending hEnding).2.not_suffix_append base)
  simp only [verbEndings, List.mem_cons, List.not_mem_nil, or_false] at hEnding
  rcases hEnding with rfl | rfl
  · have hIng : verbEnding ['i', 'n', 'g'] (base ++ ['e', 'd']) = none :=
      verbEnding_eq_none (Apart.not_suffix_append (by decide) base)
    apply stripOnce?_of_rule [pluralOfY, pluralOfSs, verbEnding ['i', 'n', 'g']] rfl hWord _ hRule
    simp [hY, hSs, hIng]
  · apply stripOnce?_of_rule [pluralOfY, pluralOfSs] rfl hWord _ hRule
    simp [hY, hSs]

/-! ## What a round does -/

/-- What a round can make of a word. -/
inductive Strips : List Char → List Char → Prop
  /-- A plural goes back to its `y`. -/
  | pluralOfY {front : List Char} : 2 ≤ front.length →
      Strips (front ++ ['i', 'e', 's']) (front ++ ['y'])
  /-- A plural keeps its `ss`. -/
  | pluralOfSs {front : List Char} : Strips (front ++ ['s', 's', 'e', 's']) (front ++ ['s', 's'])
  /-- A verb loses its ending and the doubling in front of it. -/
  | verbEnding {front ending : List Char} : ending ∈ verbEndings → 3 ≤ front.length →
      front.any isVowel = true → Strips (front ++ ending) (undouble front)
  /-- A final `s` falls off. -/
  | finalS {front : List Char} : endsWith ['s', 'u', 'i'].contains front = false →
      Strips (front ++ ['s']) front
  /-- A final `e` falls off. -/
  | finalE {front : List Char} : 4 ≤ front.length →
      endsWith (fun c => !isVowel c) front = true → Strips (front ++ ['e']) front

theorem strips_of_verbEnding {ending word next : List Char} (hEnding : ending ∈ verbEndings)
    (h : verbEnding ending word = some next) : Strips word next := by
  unfold verbEnding at h
  split at h
  · next front hFront =>
      split at h
      · next hKept =>
          cases h
          obtain ⟨hLong, hVowel⟩ := Bool.and_eq_true_iff.mp hKept
          rw [(beforeEnd?_eq_some_iff _ _ _).mp hFront]
          exact .verbEnding hEnding (of_decide_eq_true hLong) hVowel
      · cases h
  · cases h

theorem strips_of_pluralOfY {word next : List Char} (h : pluralOfY word = some next) :
    Strips word next := by
  unfold pluralOfY at h
  split at h
  · next front hFront =>
      split at h
      · next hLong =>
          cases h
          rw [(beforeEnd?_eq_some_iff _ _ _).mp hFront]
          exact .pluralOfY hLong
      · cases h
  · cases h

theorem strips_of_pluralOfSs {word next : List Char} (h : pluralOfSs word = some next) :
    Strips word next := by
  obtain ⟨front, hFront, rfl⟩ := Option.map_eq_some_iff.mp h
  rw [(beforeEnd?_eq_some_iff _ _ _).mp hFront]
  exact .pluralOfSs

theorem strips_of_finalS {word next : List Char} (h : finalS word = some next) :
    Strips word next := by
  unfold finalS at h
  split at h
  · next front hFront =>
      split at h
      · cases h
      · next hFalls =>
          cases h
          rw [(beforeEnd?_eq_some_iff _ _ _).mp hFront]
          exact .finalS (Bool.eq_false_iff.mpr hFalls)
  · cases h

theorem strips_of_finalE {word next : List Char} (h : finalE word = some next) :
    Strips word next := by
  unfold finalE at h
  split at h
  · next front hFront =>
      split at h
      · next hFalls =>
          cases h
          obtain ⟨hLong, hLast⟩ := Bool.and_eq_true_iff.mp hFalls
          have hWord := (beforeEnd?_eq_some_iff _ _ _).mp hFront
          have hLength : 5 ≤ word.length := of_decide_eq_true hLong
          rw [hWord, List.length_append, List.length_singleton] at hLength
          rw [hWord]
          exact .finalE (by omega) hLast
      · cases h
  · cases h

theorem strips_of_mem_suffixRules {rule : SuffixRule} (hRule : rule ∈ suffixRules)
    {word next : List Char} (h : rule word = some next) : Strips word next := by
  simp only [suffixRules, List.mem_cons, List.not_mem_nil, or_false] at hRule
  rcases hRule with rfl | rfl | rfl | rfl | rfl | rfl
  · exact strips_of_pluralOfY h
  · exact strips_of_pluralOfSs h
  · exact strips_of_verbEnding (by decide) h
  · exact strips_of_verbEnding (by decide) h
  · exact strips_of_finalS h
  · exact strips_of_finalE h

theorem isStemmable_iff {word : List Char} :
    isStemmable word = true ↔
      shortestStemmable ≤ word.length ∧ ∀ c ∈ word, isAsciiLetter c = true := by
  rw [isStemmable, Bool.and_eq_true, decide_eq_true_eq, List.all_eq_true]

/-- **A round** starts with a word that is long enough, and does one of five things to it. -/
theorem strips_of_stripOnce? {word next : List Char} (h : stripOnce? word = some next) :
    isStemmable word = true ∧ Strips word next := by
  unfold stripOnce? at h
  split at h
  · next hWord =>
      obtain ⟨rule, hRule, hNext⟩ := List.exists_of_findSome?_eq_some h
      exact ⟨hWord, strips_of_mem_suffixRules hRule hNext⟩
  · cases h

/-! ## Stems are not empty -/

theorem ne_nil_of_stripOnce? {word next : List Char} (h : stripOnce? word = some next) :
    next ≠ [] := by
  obtain ⟨hWord, hStrips⟩ := strips_of_stripOnce? h
  have hLong : 4 ≤ word.length := (isStemmable_iff.mp hWord).1
  cases hStrips with
  | pluralOfY => simp
  | pluralOfSs => simp
  | @verbEnding front _ _ hEnough =>
      rcases undouble_cases front with hSame | ⟨_, _, -, -, hDropped, -⟩
      · rw [hSame]
        exact List.ne_nil_of_length_pos (by omega)
      · rw [hDropped]
        simp
  -- a single letter of at least four is taken
  | finalS =>
      rw [List.length_append, List.length_singleton] at hLong
      exact List.ne_nil_of_length_pos (by omega)
  | finalE hEnough => exact List.ne_nil_of_length_pos (by omega)

/-- Every word keeps a letter. -/
theorem stemList_ne_nil {word : List Char} (h : word ≠ []) : stemList word ≠ [] := by
  fun_induction stemList word with
  | case1 word next hNext ih => exact ih (ne_nil_of_stripOnce? hNext)
  | case2 word _ => exact h

/-! ## Regular forms -/

/-- The beginning of a verb, up to the place where its endings start. -/
structure VerbBase (shortest : Nat) (base : List Char) : Prop where
  /-- It has at least `shortest` letters. -/
  long : shortest ≤ base.length
  /-- All of them are small letters. -/
  letters : base.all isSmallLetter = true
  /-- One of them is a vowel. -/
  vowel : base.any isVowel = true

/-- What a verb with a silent `e` has in front of it, such as `delet`. -/
structure SilentBase (base : List Char) : Prop extends VerbBase 4 base where
  /-- The last letter is no vowel. -/
  consonant : endsWith (fun c => !isVowel c) base = true
  /-- It is doubled only if it is one of those that stay doubled. -/
  single : ∀ front c, base = front ++ [c, c] → c ∈ ['l', 's', 'z']

/-- A verb `front ++ [x]` without a silent `e`, such as `drop`. -/
structure FullBase (front : List Char) (x : Char) : Prop extends VerbBase 3 (front ++ [x]) where
  /-- The last letter is no vowel. -/
  consonant : isVowel x = false
  /-- It is none of those that stay doubled. -/
  sharp : x ∉ ['l', 's', 'z']
  /-- It is not doubled. -/
  single : ∀ other, front ≠ other ++ [x]

/-- `form` is the verb `term` or one of its regular inflections. -/
inductive RegularForm : List Char → List Char → Prop
  /-- The silent `e` gives way to the ending: delete, deletes, deleted, deleting. -/
  | silentE {base ending : List Char} : SilentBase base →
      ending ∈ ['e'] :: ['e', 's'] :: verbEndings → RegularForm (base ++ ['e']) (base ++ ending)
  /-- The ending is appended: script, scripts, scripted, scripting. -/
  | appended {front ending : List Char} {x : Char} : FullBase front x →
      ending ∈ [] :: ['s'] :: verbEndings → RegularForm (front ++ [x]) (front ++ [x] ++ ending)
  /-- The last letter is doubled in front of the ending: dropped, dropping. -/
  | doubled {front ending : List Char} {x : Char} : FullBase front x →
      ending ∈ verbEndings → RegularForm (front ++ [x]) (front ++ [x] ++ [x] ++ ending)

theorem isStemmable_of_small {word : List Char} (hLong : 4 ≤ word.length)
    (hSmall : word.all isSmallLetter = true) : isStemmable word = true := by
  refine isStemmable_iff.mpr ⟨hLong, ?_⟩
  intro c hMem
  exact isAsciiLetter_of_small (List.all_eq_true.mp hSmall c hMem)

theorem VerbBase.letters_append {shortest : Nat} {base : List Char} (h : VerbBase shortest base)
    {ending : List Char} (hEnding : ending.all isSmallLetter = true) :
    (base ++ ending).all isSmallLetter = true := by
  rw [List.all_append, h.letters, hEnding]
  rfl

theorem VerbBase.isStemmable_append {shortest : Nat} {base : List Char}
    (h : VerbBase shortest base) (hLong : 3 ≤ shortest) {ending : List Char}
    (hNonempty : ending ≠ []) (hEnding : ending.all isSmallLetter = true) :
    isStemmable (base ++ ending) = true := by
  apply isStemmable_of_small _ (h.letters_append hEnding)
  have hBase := h.long
  have hPos := List.length_pos_iff.mpr hNonempty
  rw [List.length_append]
  omega

theorem letters_of_verbEnding {ending : List Char} (h : ending ∈ verbEndings) :
    ending ≠ [] ∧ ending.all isSmallLetter = true := by
  have hAll : ∀ other ∈ verbEndings, other ≠ [] ∧ other.all isSmallLetter = true := by decide
  exact hAll ending h

theorem VerbBase.stemList_verbEnding {shortest : Nat} {base : List Char}
    (h : VerbBase shortest base) (hLong : 3 ≤ shortest) {ending : List Char}
    (hEnding : ending ∈ verbEndings) :
    stemList (base ++ ending) = stemList (undouble base) := by
  obtain ⟨hNonempty, hLetters⟩ := letters_of_verbEnding hEnding
  apply stemList_of_some
  exact stripOnce?_verbEnding hEnding (h.isStemmable_append hLong hNonempty hLetters)
    (Nat.le_trans hLong h.long) h.vowel

/-! ## Verbs with a silent `e` -/

section SilentE

variable {base : List Char}

theorem SilentBase.stemList_e (h : SilentBase base) : stemList (base ++ ['e']) = stemList base := by
  apply stemList_of_some
  apply stripOnce?_finalE _ h.long h.consonant
  exact h.isStemmable_append (by decide) (by decide) (by decide)

theorem SilentBase.stemList_es (h : SilentBase base) :
    stemList (base ++ ['e', 's']) = stemList base := by
  by_cases hSs : ['s', 's'] <:+ base
  · obtain ⟨front, rfl⟩ := hSs
    have hWord : isStemmable (front ++ ['s', 's'] ++ ['e', 's']) = true :=
      h.isStemmable_append (by decide) (by decide) (by decide)
    rw [List.append_assoc] at hWord ⊢
    exact stemList_of_some (stripOnce?_pluralOfSs hWord)
  · have hIe : ¬ ['i', 'e'] <:+ base ++ ['e'] := by
      intro hEnds
      have hVowel := suffix_of_snoc_suffix (show ['i'] ++ ['e'] <:+ base ++ ['e'] from hEnds)
      exact not_suffix_of_endsWith h.consonant (by decide) (by decide) hVowel
    have hSse : ¬ ['s', 's', 'e'] <:+ base ++ ['e'] := by
      intro hEnds
      exact hSs (suffix_of_snoc_suffix (show ['s', 's'] ++ ['e'] <:+ base ++ ['e'] from hEnds))
    have hKeeps : endsWith ['s', 'u', 'i'].contains (base ++ ['e']) = false := by
      rw [endsWith_append (by decide)]
      decide
    have hWord : isStemmable (base ++ ['e'] ++ ['s']) = true := by
      rw [List.append_assoc]
      exact h.isStemmable_append (by decide) (by decide) (by decide)
    rw [← h.stemList_e, ← stemList_of_some (stripOnce?_finalS hWord hIe hSse hKeeps),
      List.append_assoc]
    rfl

theorem SilentBase.undouble_eq (h : SilentBase base) : undouble base = base := by
  apply undouble_eq_self
  intro front c hBase
  have hMem := h.single front c hBase
  rw [staysDoubled, List.contains_iff_mem.mpr hMem, Bool.or_true]

end SilentE

/-! ## Verbs without a silent `e` -/

section Full

variable {front : List Char} {x : Char}

theorem FullBase.staysDoubled_eq (h : FullBase front x) : staysDoubled x = false := by
  have hSharp : ['l', 's', 'z'].contains x = false := by
    rw [Bool.eq_false_iff]
    intro hMem
    exact h.sharp (List.contains_iff_mem.mp hMem)
  rw [staysDoubled, h.consonant, hSharp]
  rfl

theorem FullBase.undouble_eq (h : FullBase front x) : undouble (front ++ [x]) = front ++ [x] := by
  apply undouble_eq_self
  intro other c hBase
  have hSplit : front ++ [x] = other ++ [c] ++ [c] := by
    rw [hBase, List.append_assoc]
    rfl
  obtain ⟨hFront, hLast⟩ := List.append_inj' hSplit rfl
  cases hLast
  exact absurd hFront (h.single other)

theorem FullBase.undouble_doubled_eq (h : FullBase front x) :
    undouble (front ++ [x] ++ [x]) = front ++ [x] := by
  apply undouble_doubled _ h.staysDoubled_eq
  have hLong := h.long
  rw [List.length_append, List.length_singleton] at hLong
  omega

theorem FullBase.stemList_s (h : FullBase front x) :
    stemList (front ++ [x] ++ ['s']) = stemList (front ++ [x]) := by
  have hEnds : ∀ property : Char → Bool, endsWith property (front ++ [x]) = property x := by
    intro property
    rw [endsWith_append (by simp)]
    rfl
  have hConsonant : endsWith (fun c => !isVowel c) (front ++ [x]) = true := by
    rw [hEnds, h.consonant]
    rfl
  apply stemList_of_some
  apply stripOnce?_finalS (h.isStemmable_append (by decide) (by decide) (by decide))
  · exact not_suffix_of_endsWith hConsonant (by decide) (by decide)
  · exact not_suffix_of_endsWith hConsonant (by decide) (by decide)
  · rw [hEnds, Bool.eq_false_iff]
    intro hMem
    simp only [List.contains_iff_mem, List.mem_cons, List.not_mem_nil, or_false] at hMem
    rcases hMem with rfl | rfl | rfl
    · exact h.sharp (by decide)
    · exact absurd h.consonant (by decide)
    · exact absurd h.consonant (by decide)

/-- A doubled last letter leaves a verb base. -/
theorem FullBase.verbBase_doubled (h : FullBase front x) : VerbBase 3 (front ++ [x] ++ [x]) := by
  refine ⟨?_, ?_, ?_⟩
  · have hLong := h.long
    rw [List.length_append]
    omega
  · apply h.letters_append
    have hLast := List.all_eq_true.mp h.letters x (by simp)
    rw [List.all_cons, hLast]
    rfl
  · rw [List.any_append, h.vowel, Bool.true_or]

end Full

/-- **The forms of a verb meet at one stem.** -/
theorem RegularForm.stemList_eq {term form : List Char} (h : RegularForm term form) :
    stemList form = stemList term := by
  cases h with
  | silentE hBase hEnding =>
      rw [hBase.stemList_e]
      rcases List.mem_cons.mp hEnding with rfl | hEnding
      · exact hBase.stemList_e
      rcases List.mem_cons.mp hEnding with rfl | hEnding
      · exact hBase.stemList_es
      · rw [hBase.stemList_verbEnding (by decide) hEnding, hBase.undouble_eq]
  | appended hBase hEnding =>
      rcases List.mem_cons.mp hEnding with rfl | hEnding
      · rw [List.append_nil]
      rcases List.mem_cons.mp hEnding with rfl | hEnding
      · exact hBase.stemList_s
      · rw [hBase.stemList_verbEnding (by decide) hEnding, hBase.undouble_eq]
  | doubled hBase hEnding =>
      rw [hBase.verbBase_doubled.stemList_verbEnding (by decide) hEnding,
        hBase.undouble_doubled_eq]

/-- A verb and its forms consist of small letters, of which there is one. -/
theorem RegularForm.letters {term form : List Char} (h : RegularForm term form) :
    (term.all isSmallLetter = true ∧ term ≠ []) ∧
      form.all isSmallLetter = true ∧ form ≠ [] := by
  cases h with
  | silentE hBase hEnding =>
      have hSmall : ∀ ending ∈ ['e'] :: ['e', 's'] :: verbEndings,
          ending ≠ [] ∧ ending.all isSmallLetter = true := by decide
      exact ⟨⟨hBase.letters_append (by decide), by simp⟩,
        hBase.letters_append (hSmall _ hEnding).2, by simp [(hSmall _ hEnding).1]⟩
  | appended hBase hEnding =>
      have hSmall : ∀ ending ∈ [] :: ['s'] :: verbEndings,
          ending.all isSmallLetter = true := by decide
      exact ⟨⟨hBase.letters, by simp⟩, hBase.letters_append (hSmall _ hEnding), by simp⟩
  | doubled hBase hEnding =>
      exact ⟨⟨hBase.letters, by simp⟩,
        hBase.verbBase_doubled.letters_append (letters_of_verbEnding hEnding).2, by simp⟩

end StaffSearch.Query
