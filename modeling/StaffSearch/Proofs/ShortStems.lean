import StaffSearch.Proofs.BlockedTerms
import StaffSearch.Proofs.StemRounds

/-!
# Stems that are too short

What an ending leaves behind should have `shortestStem` letters.  Every rule sees to that but one:
a plural in `sses` loses its `es` however little stands in front, so that two letters are left of
`sses` itself (`Strips.long_or_sses`).

So a word gets too short a stem when its rounds lead to `sses`.  These words can be told without
going through the rounds: they are `sses` with endings behind it (`IsOvercut`), since no ending of
theirs can be taken for another one and none is cut off together with more than a doubling.  All
other words keep the letters that they should (`shortestStem_le_stem_iff`).
-/

namespace StaffSearch.Query

open StaffSearch.Text

/-! ## A single round -/

theorem shortestStem_le_undouble {base : List Char} (hLong : shortestStem ≤ base.length) :
    shortestStem ≤ (undouble base).length := by
  rcases undouble_cases base with hSame | ⟨_, _, -, -, -, hDropped⟩
  · rw [hSame]
    exact hLong
  · exact hDropped

/-- **A round leaves enough**, except of one word. -/
theorem Strips.long_or_sses {word next : List Char} (h : Strips word next)
    (hWord : shortestStemmable ≤ word.length) :
    shortestStem ≤ next.length ∨ word = ['s', 's', 'e', 's'] := by
  unfold shortestStemmable at hWord
  cases h with
  | pluralOfY hEnough =>
      left
      rw [List.length_append, List.length_singleton, shortestStem]
      omega
  | @pluralOfSs front =>
      cases front with
      | nil => exact Or.inr rfl
      | cons c front =>
          left
          simp only [List.cons_append, List.length_cons, List.length_append, shortestStem]
          omega
  | verbEnding _ hEnough => exact Or.inl (shortestStem_le_undouble hEnough)
  | finalS =>
      left
      rw [List.length_append, List.length_singleton] at hWord
      rw [shortestStem]
      omega
  | finalE hEnough =>
      left
      rw [shortestStem]
      omega

/-! ## Words that lose too much -/

/-- The word is `sses`, or one that loses too much with an ending behind it. -/
inductive IsOvercut : List Char → Prop
  /-- The word of which two letters are left. -/
  | sses : IsOvercut ['s', 's', 'e', 's']
  /-- The ending of a verb. -/
  | verbEnding {word ending : List Char} : IsOvercut word → ending ∈ verbEndings →
      IsOvercut (word ++ ending)
  /-- The ending of a verb behind a doubled letter. -/
  | doubled {front ending : List Char} {c : Char} : IsOvercut (front ++ [c]) →
      staysDoubled c = false → ending ∈ verbEndings → IsOvercut (front ++ [c] ++ [c] ++ ending)
  /-- An `s` that falls off. -/
  | finalS {word : List Char} : IsOvercut word →
      endsWith ['s', 'u', 'i'].contains word = false → IsOvercut (word ++ ['s'])
  /-- An `e` that falls off. -/
  | finalE {word : List Char} : IsOvercut word → endsWith (fun c => !isVowel c) word = true →
      IsOvercut (word ++ ['e'])

namespace IsOvercut

variable {word : List Char}

theorem begins_with_sses (h : IsOvercut word) : ['s', 's', 'e', 's'] <+: word := by
  induction h with
  | sses => exact List.prefix_refl _
  | verbEnding _ _ ih => exact ih.trans (List.prefix_append ..)
  | doubled _ _ _ ih => exact (ih.trans (List.prefix_append ..)).trans (List.prefix_append ..)
  | finalS _ _ ih => exact ih.trans (List.prefix_append ..)
  | finalE _ _ ih => exact ih.trans (List.prefix_append ..)

theorem long (h : IsOvercut word) : 4 ≤ word.length := h.begins_with_sses.length_le

theorem vowel (h : IsOvercut word) : word.any isVowel = true := by
  rw [List.any_eq_true]
  exact ⟨'e', h.begins_with_sses.subset (by decide), by decide⟩

theorem small (h : IsOvercut word) : word.all isSmallLetter = true := by
  induction h with
  | sses => decide
  | verbEnding _ hEnding ih =>
      rw [List.all_append, ih, (letters_of_verbEnding hEnding).2]
      rfl
  | doubled _ _ hEnding ih =>
      have hLast := ih
      rw [List.all_append, Bool.and_eq_true] at hLast
      rw [List.all_append, List.all_append, ih, hLast.2, (letters_of_verbEnding hEnding).2]
      rfl
  | finalS _ _ ih =>
      rw [List.all_append, ih]
      decide
  | finalE _ _ ih =>
      rw [List.all_append, ih]
      decide

theorem isStemmable (h : IsOvercut word) : isStemmable word = true :=
  isStemmable_of_small h.long h.small

/-- Only few letters can be the last two. -/
theorem last_two (h : IsOvercut word) :
    ∃ front x y, word = front ++ [x, y] ∧
      (y = 's' ∧ ['s', 'u', 'i'].contains x = false ∨ y = 'e' ∧ isVowel x = false ∨
        x = 'n' ∧ y = 'g' ∨ x = 'e' ∧ y = 'd') := by
  have hVerb : ∀ {front ending : List Char}, ending ∈ verbEndings →
      ∃ before x y, front ++ ending = before ++ [x, y] ∧
        (x = 'n' ∧ y = 'g' ∨ x = 'e' ∧ y = 'd') := by
    intro front ending hEnding
    simp only [verbEndings, List.mem_cons, List.not_mem_nil, or_false] at hEnding
    rcases hEnding with rfl | rfl
    · exact ⟨front, 'e', 'd', rfl, Or.inr ⟨rfl, rfl⟩⟩
    · exact ⟨front ++ ['i'], 'n', 'g', by simp, Or.inl ⟨rfl, rfl⟩⟩
  induction h with
  | sses => exact ⟨['s', 's'], 'e', 's', rfl, Or.inl ⟨rfl, by decide⟩⟩
  | verbEnding _ hEnding =>
      obtain ⟨before, x, y, hWord, hLetters⟩ := hVerb hEnding
      exact ⟨before, x, y, hWord, Or.inr (Or.inr hLetters)⟩
  | doubled _ _ hEnding =>
      obtain ⟨before, x, y, hWord, hLetters⟩ := hVerb hEnding
      exact ⟨before, x, y, hWord, Or.inr (Or.inr hLetters)⟩
  | finalS _ hKeeps ih =>
      obtain ⟨front, x, y, rfl, -⟩ := ih
      rw [endsWith_append (by simp)] at hKeeps
      exact ⟨front ++ [x], y, 's', by simp, Or.inl ⟨rfl, hKeeps⟩⟩
  | finalE _ hLast ih =>
      obtain ⟨front, x, y, rfl, -⟩ := ih
      rw [endsWith_append (by simp)] at hLast
      have hConsonant : isVowel y = false := by simpa [endsWith] using hLast
      exact ⟨front ++ [x], y, 'e', by simp, Or.inr (Or.inl ⟨rfl, hConsonant⟩)⟩

/-- Such a word does not end in a doubled letter. -/
theorem ne_doubled (h : IsOvercut word) (front : List Char) (c : Char) :
    word ≠ front ++ [c, c] := by
  rintro rfl
  obtain ⟨other, x, y, hWord, hLetters⟩ := h.last_two
  cases List.append_inj_right' hWord rfl
  rcases hLetters with ⟨rfl, hKeeps⟩ | ⟨rfl, hLast⟩ | ⟨rfl, hLast⟩ | ⟨rfl, hLast⟩
  · exact absurd hKeeps (by decide)
  · exact absurd hLast (by decide)
  · exact absurd hLast (by decide)
  · exact absurd hLast (by decide)

theorem undouble_eq (h : IsOvercut word) : undouble word = word :=
  undouble_eq_self fun front c hWord => absurd hWord (h.ne_doubled front c)

/-- An `s` behind such a word makes no plural in `ies`. -/
theorem not_ie (h : IsOvercut word) : ¬ ['i', 'e'] <:+ word := by
  rintro ⟨front, rfl⟩
  obtain ⟨other, x, y, hWord, hLetters⟩ := h.last_two
  cases List.append_inj_right' hWord rfl
  revert hLetters
  decide

/-- It makes no plural in `sses` either. -/
theorem not_sse (h : IsOvercut word) : ¬ ['s', 's', 'e'] <:+ word := by
  cases h with
  | sses => decide
  | verbEnding _ hEnding =>
      have hApart : ∀ other ∈ verbEndings, Apart ['s', 's', 'e'] other := by decide
      exact (hApart _ hEnding).not_suffix_append _
  | doubled _ _ hEnding =>
      have hApart : ∀ other ∈ verbEndings, Apart ['s', 's', 'e'] other := by decide
      exact (hApart _ hEnding).not_suffix_append _
  | finalS => exact Apart.not_suffix_append (by decide) _
  | finalE hWord =>
      intro hEnds
      obtain ⟨front, hFront⟩ :=
        suffix_of_snoc_suffix (show ['s', 's'] ++ ['e'] <:+ _ ++ ['e'] from hEnds)
      exact hWord.ne_doubled front 's' hFront.symm

/-! ## Their rounds -/

/-- A round takes the last ending off, or it leaves two letters. -/
theorem exists_stripOnce? (h : IsOvercut word) :
    ∃ next, stripOnce? word = some next ∧ (IsOvercut next ∨ next = ['s', 's']) := by
  have hWord := h.isStemmable
  cases h with
  | sses => exact ⟨['s', 's'], by decide, Or.inr rfl⟩
  | verbEnding hFront hEnding =>
      have hStrip := stripOnce?_verbEnding hEnding hWord (Nat.le_of_succ_le hFront.long) hFront.vowel
      rw [hFront.undouble_eq] at hStrip
      exact ⟨_, hStrip, Or.inl hFront⟩
  | @doubled front ending c hFront hDrops hEnding =>
      have hLong := hFront.long
      rw [List.length_append, List.length_singleton] at hLong
      have hStrip := stripOnce?_verbEnding hEnding hWord
        (by simp only [List.length_append, List.length_singleton]; omega)
        (by rw [List.any_append, hFront.vowel]; rfl)
      rw [undouble_doubled (by omega) hDrops] at hStrip
      exact ⟨_, hStrip, Or.inl hFront⟩
  | finalS hFront hKeeps =>
      exact ⟨_, stripOnce?_finalS hWord hFront.not_ie hFront.not_sse hKeeps, Or.inl hFront⟩
  | finalE hFront hLast =>
      exact ⟨_, stripOnce?_finalE hWord hFront.long hLast, Or.inl hFront⟩

end IsOvercut

/-- A word that a round makes one of these was one of them. -/
theorem Strips.isOvercut {word next : List Char} (h : Strips word next) (hNext : IsOvercut next) :
    IsOvercut word := by
  cases h with
  | @pluralOfY front =>
      obtain ⟨_, hStrip, -⟩ := hNext.exists_stripOnce?
      rw [stripOnce?_y front] at hStrip
      cases hStrip
  | @pluralOfSs front => exact absurd rfl (hNext.ne_doubled front 's')
  | @verbEnding front ending hEnding =>
      rcases undouble_cases front with hSame | ⟨before, c, hFront, hDrops, hDropped, -⟩
      · rw [hSame] at hNext
        exact hNext.verbEnding hEnding
      · rw [hDropped] at hNext
        have hDoubled := hNext.doubled hDrops hEnding
        rw [hFront]
        simpa using hDoubled
  | finalS hKeeps => exact hNext.finalS hKeeps
  | finalE _ hLast => exact hNext.finalE hLast

/-- Two letters are left of such a word. -/
theorem stemList_of_isOvercut {word : List Char} (h : IsOvercut word) :
    stemList word = ['s', 's'] := by
  -- what a round leaves is of the same kind, up to the last round
  obtain ⟨other, hOther, hLeft⟩ := h.exists_stripOnce?
  fun_induction stemList word generalizing other with
  | case1 word next hNext ih =>
      rw [hNext] at hOther
      cases hOther
      rcases hLeft with hOvercut | rfl
      · obtain ⟨last, hLast, hEnd⟩ := hOvercut.exists_stripOnce?
        exact ih hOvercut last hLast hEnd
      · exact stemList_of_none (by decide)
  | case2 word hNone =>
      rw [hNone] at hOther
      cases hOther

theorem shortestStem_le_stemList {word : List Char} (hLong : shortestStem ≤ word.length)
    (h : ¬ IsOvercut word) : shortestStem ≤ (stemList word).length := by
  fun_induction stemList word with
  | case1 word next hNext ih =>
      obtain ⟨hWord, hStrips⟩ := strips_of_stripOnce? hNext
      apply ih
      · rcases hStrips.long_or_sses (isStemmable_iff.mp hWord).1 with hEnough | rfl
        · exact hEnough
        · exact absurd .sses h
      · intro hOvercut
        exact h (hStrips.isOvercut hOvercut)
  | case2 word _ => exact hLong

theorem shortestStem_le_stemList_iff (word : List Char) :
    shortestStem ≤ (stemList word).length ↔ shortestStem ≤ word.length ∧ ¬ IsOvercut word := by
  constructor
  · intro hStem
    refine ⟨Nat.le_trans hStem (length_stemList_le word), ?_⟩
    intro hOvercut
    rw [stemList_of_isOvercut hOvercut] at hStem
    exact absurd hStem (by decide)
  · rintro ⟨hLong, h⟩
    exact shortestStem_le_stemList hLong h

/-! ## Bytes -/

theorem letters_stemList {word : List Char} (h : ∀ c ∈ word, isAsciiLetter c = true) :
    ∀ c ∈ stemList word, isAsciiLetter c = true := by
  intro c hMem
  rcases isLeftOf_stemList word with hCut | ⟨front, hPlural, hStem⟩
  · exact h c (hCut.subset hMem)
  · rw [hStem, List.mem_append, List.mem_singleton] at hMem
    rcases hMem with hFront | rfl
    · exact h c (hPlural.subset (List.mem_append_left _ hFront))
    · decide

/--
**Which stems are long enough.**  The stem of a word has the bytes that an ending is to leave if and
only if the word itself has them and is not one of those that lose too much.
-/
theorem shortestStem_le_stem_iff (word : String) :
    shortestStem ≤ (stem word).utf8ByteSize ↔
      shortestStem ≤ word.utf8ByteSize ∧ ¬ IsOvercut word.toList := by
  by_cases hWord : isStemmable word.toList = true
  · have hLetters := (isStemmable_iff.mp hWord).2
    rw [← byteLength_toList, ← byteLength_toList, toList_stem, byteLength_of_letters hLetters,
      byteLength_of_letters (letters_stemList hLetters)]
    exact shortestStem_le_stemList_iff word.toList
  · have hNot : ¬ IsOvercut word.toList := fun hOvercut => hWord hOvercut.isStemmable
    rw [stem_of_not_stemmable (Bool.eq_false_iff.mpr hWord), and_iff_left hNot]

/-- Two bytes are left of a word that has four. -/
theorem sses_has_short_stem :
    shortestStem ≤ "sses".utf8ByteSize ∧ stem "sses" = "ss" ∧
      (stem "sses").utf8ByteSize < shortestStem := by
  have hStem : stem "sses" = "ss" := by
    have hList : "sses".toList = ['s', 's', 'e', 's'] := by decide
    rw [stem, hList, stemList_of_isOvercut .sses]
  rw [hStem]
  decide

end StaffSearch.Query
