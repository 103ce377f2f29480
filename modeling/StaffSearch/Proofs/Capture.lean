import StaffSearch.Proofs.Letters
import StaffSearch.Query.Capture

/-!
# Where a captured word stands

A captured word is cut out of the query itself, and what is known about it is what is known about
that place: it is a whole word, and the character in front of it is the end of a link, that is a
blank, a colon or an equals sign.  The three ways to a word and the search for the leftmost site all
lead to such a place (`standsAsWord_of_capture?`).
-/

namespace StaffSearch.Query

open StaffSearch.Text

/-! ## Whole words -/

/-- A character that the link between a trigger and its word can end with. -/
def endsLink (c : Char) : Bool := isBlank c || c == ':' || c == '='

/-- `word` is a whole word of `text`, with `front` and the end of a link before it and `rest`
behind it. -/
structure WholeWordAt (text front : List Char) (edge : Char) (word rest : List Char) : Prop where
  /-- The text is made of these pieces. -/
  split : text = front ++ edge :: (word ++ rest)
  /-- The character in front of the word can end a link. -/
  edge : endsLink edge = true
  /-- The word has a character. -/
  nonempty : word ≠ []
  /-- It consists of word characters. -/
  letters : ∀ c ∈ word, isWordCharacter c = true
  /-- No word character follows. -/
  stops : ∀ c behind, rest = c :: behind → isWordCharacter c = false

/-- `word` is a whole word somewhere in `text`, behind the end of a link. -/
def StandsAsWord (word text : List Char) : Prop :=
  ∃ front edge rest, WholeWordAt text front edge word rest

theorem StandsAsWord.append {word text : List Char} (h : StandsAsWord word text)
    (before : List Char) : StandsAsWord word (before ++ text) := by
  obtain ⟨front, edge, rest, hAt⟩ := h
  refine ⟨before ++ front, edge, rest, ?_, hAt.edge, hAt.nonempty, hAt.letters, hAt.stops⟩
  rw [hAt.split, List.append_assoc]

theorem StandsAsWord.of_suffix {word text tail : List Char} (h : StandsAsWord word tail)
    (hTail : tail <:+ text) : StandsAsWord word text := by
  obtain ⟨before, rfl⟩ := hTail
  exact h.append before

/-- A captured word is a contiguous part of the text. -/
theorem StandsAsWord.infix {word text : List Char} (h : StandsAsWord word text) :
    word <:+: text := by
  obtain ⟨front, edge, rest, hAt⟩ := h
  refine ⟨front ++ [edge], rest, ?_⟩
  rw [hAt.split]
  simp

theorem StandsAsWord.ne_nil {word text : List Char} (h : StandsAsWord word text) : word ≠ [] := by
  obtain ⟨front, edge, rest, hAt⟩ := h
  exact hAt.nonempty

/-! ## From links to words -/

theorem standsAsWord_of_leadingWord? {edge : Char} (hEdge : endsLink edge = true)
    {text word : List Char} (h : leadingWord? text = some word) :
    StandsAsWord word (edge :: text) := by
  have hWord : text.takeWhile isWordCharacter = word ∧ word ≠ [] := by
    unfold leadingWord? at h
    split at h
    · exact absurd h (by simp)
    · next hTaken =>
        cases h
        exact ⟨rfl, hTaken⟩
  refine ⟨[], edge, text.dropWhile isWordCharacter, ?_, hEdge, hWord.2, ?_, ?_⟩
  · rw [← hWord.1, List.takeWhile_append_dropWhile, List.nil_append]
  · intro c hc
    rw [← hWord.1] at hc
    exact List.all_eq_true.mp List.all_takeWhile c hc
  · intro c behind hRest
    have hHead := List.head?_dropWhile_not isWordCharacter text
    rw [hRest] at hHead
    simpa using hHead

/-- Blanks in front of a word do no harm: the last of them ends the link. -/
theorem standsAsWord_of_trimStart {text word : List Char} :
    ∀ {edge : Char}, endsLink edge = true → leadingWord? (trimStart text) = some word →
      StandsAsWord word (edge :: text) := by
  induction text with
  | nil =>
      intro edge hEdge h
      exact standsAsWord_of_leadingWord? hEdge h
  | cons c rest ih =>
      intro edge hEdge h
      by_cases hBlank : isBlank c = true
      · rw [trimStart, List.dropWhile_cons_of_pos hBlank] at h
        have hStep : StandsAsWord word (c :: rest) := by
          apply ih
          · rw [endsLink, hBlank]
            rfl
          · exact h
        exact hStep.append [edge]
      · rw [trimStart, List.dropWhile_cons_of_neg hBlank] at h
        exact standsAsWord_of_leadingWord? hEdge h

/-- What is left behind blanks, and the blank that the text starts with. -/
theorem afterBlanks?_eq_some {text rest : List Char} (h : afterBlanks? text = some rest) :
    ∃ c behind, text = c :: behind ∧ isBlank c = true ∧ rest = trimStart behind := by
  cases text with
  | nil => exact absurd h (by simp [afterBlanks?])
  | cons c behind =>
      rw [afterBlanks?] at h
      by_cases hBlank : isBlank c = true
      · rw [if_pos hBlank] at h
        exact ⟨c, behind, rfl, hBlank, (Option.some.inj h).symm⟩
      · rw [if_neg hBlank] at h
        exact absurd h (by simp)

theorem standsAsWord_of_afterBlanks? {text word : List Char}
    (h : (afterBlanks? text).bind leadingWord? = some word) : StandsAsWord word text := by
  obtain ⟨trimmed, hTrimmed, hWord⟩ := Option.bind_eq_some_iff.mp h
  obtain ⟨c, behind, rfl, hBlank, rfl⟩ := afterBlanks?_eq_some hTrimmed
  apply standsAsWord_of_trimStart _ hWord
  rw [endsLink, hBlank]
  rfl

/-! ## The three ways -/

theorem standsAsWord_of_wordAfterSign? {text word : List Char}
    (h : wordAfterSign? text = some word) : StandsAsWord word text := by
  unfold wordAfterSign? at h
  split at h
  · next c rest hTrim =>
      split at h
      · next hSign =>
          have hEdge : endsLink c = true := by
            rcases hSign with rfl | rfl <;> decide
          apply (standsAsWord_of_trimStart hEdge h).of_suffix
          rw [← hTrim]
          exact List.dropWhile_suffix isBlank
      · exact absurd h (by simp)
  · exact absurd h (by simp)

theorem suffix_of_afterLink? {text rest : List Char} (h : afterLink? text = some rest) :
    rest <:+ text := by
  unfold afterLink? at h
  split at h
  · next a b behind =>
      have hRest : rest = behind := by
        split at h
        · exact (Option.some.inj h).symm
        · split at h
          · exact (Option.some.inj h).symm
          · exact absurd h (by simp)
      rw [hRest]
      exact ⟨[a, b], rfl⟩
  · exact absurd h (by simp)

theorem standsAsWord_of_wordAfterLink? {text word : List Char}
    (h : wordAfterLink? text = some word) : StandsAsWord word text := by
  obtain ⟨behindLink, hLink, hWord⟩ := Option.bind_eq_some_iff.mp h
  obtain ⟨link, hBlanks, hBehind⟩ := Option.bind_eq_some_iff.mp hLink
  obtain ⟨c, behind, rfl, -, rfl⟩ := afterBlanks?_eq_some hBlanks
  apply (standsAsWord_of_afterBlanks? hWord).of_suffix
  exact (suffix_of_afterLink? hBehind).trans
    ((List.dropWhile_suffix isBlank).trans (List.suffix_cons c behind))

theorem standsAsWord_of_followingWord? {text word : List Char}
    (h : followingWord? text = some word) : StandsAsWord word text := by
  unfold followingWord? at h
  rcases Option.or_eq_some_iff.mp h with hEarly | ⟨-, hLate⟩
  · rcases Option.or_eq_some_iff.mp hEarly with hSign | ⟨-, hLink⟩
    · exact standsAsWord_of_wordAfterSign? hSign
    · exact standsAsWord_of_wordAfterLink? hLink
  · exact standsAsWord_of_afterBlanks? hLate

/-! ## Sites -/

theorem suffix_of_afterTrigger? (trigger : List Char) :
    ∀ {before last : Option Char} {text rest : List Char},
      afterTrigger? before trigger text = some (last, rest) → rest <:+ text := by
  induction trigger with
  | nil =>
      intro before last text rest h
      cases h
      exact List.suffix_refl _
  | cons t trigger ih =>
      intro before last text rest h
      cases text with
      | nil => exact absurd h (by simp [afterTrigger?])
      | cons c text =>
          unfold afterTrigger? at h
          split at h
          · exact (ih h).trans (List.suffix_cons c text)
          · exact absurd h (by simp)

theorem standsAsWord_of_wordAtSite? {trigger text word : List Char} {before : Option Char}
    (h : wordAtSite? trigger before text = some word) : StandsAsWord word text := by
  unfold wordAtSite? at h
  split at h
  · split at h
    · next last rest hTrigger =>
        split at h
        · apply (standsAsWord_of_followingWord? h).of_suffix
          exact suffix_of_afterTrigger? trigger hTrigger
        · exact absurd h (by simp)
    · exact absurd h (by simp)
  · exact absurd h (by simp)

theorem standsAsWord_of_firstWord? {trigger word : List Char} (text : List Char) :
    ∀ {before : Option Char}, firstWord? trigger before text = some word →
      StandsAsWord word text := by
  induction text with
  | nil =>
      intro before h
      unfold firstWord? at h
      split at h
      · next hSite =>
          cases h
          exact standsAsWord_of_wordAtSite? hSite
      · exact absurd h (by simp)
      · next hCons => exact absurd hCons (by simp)
  | cons c rest ih =>
      intro before h
      unfold firstWord? at h
      split at h
      · next hSite =>
          cases h
          exact standsAsWord_of_wordAtSite? hSite
      · next hNil => exact absurd hNil (by simp)
      · next hCons =>
          cases hCons
          exact (ih h).append [c]

/-- **A captured word is a whole word of the text**, behind the end of a link. -/
theorem standsAsWord_of_capture? {trigger text word : String}
    (h : capture? trigger text = some word) : StandsAsWord word.toList text.toList := by
  unfold capture? at h
  split at h
  · exact absurd h (by simp)
  · next run hFirst =>
      split at h
      · exact absurd h (by simp)
      · cases h
        rw [String.toList_ofList]
        exact standsAsWord_of_firstWord? text.toList hFirst

end StaffSearch.Query
