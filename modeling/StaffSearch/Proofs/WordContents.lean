import StaffSearch.Proofs.Lowercasing
import StaffSearch.Proofs.SpacedWords

/-!
# How many tokens, and what is in them

Two measures of a text can be followed through the scan without knowing where its tokens begin.

* The characters of its tokens, taken together, are the lowercase forms of its letters and numbers
  (`flatMap_text_tokenize`).  Stemming takes ASCII letters away and adds none but those, so other
  characters can still be counted in the stems (`count_flatMap_stems`).
* The number of its tokens is the result of a scan that remembers one thing about the token under
  way: whether it has digits only (`length_scan`).  The more that excludes, the more tokens there
  are, and lowercasing the text first leaves no fewer of them (`length_stems_le`).
-/

namespace StaffSearch.Query

open StaffSearch.Text

/-! ## Characters of tokens -/

theorem flatMap_text_scan (text : List Char) :
    ∀ (position : Nat) (token : Option OpenToken),
      (scan position token text).flatMap (·.text.toList) =
        token.elim [] (·.text) ++ runText (text.filter isAlphanumeric) := by
  have hClose : ∀ (position : Nat) (token : Option OpenToken),
      (OpenToken.close position token).flatMap (·.text.toList) = token.elim [] (·.text) := by
    intro position token
    cases token with
    | none => rfl
    | some token => simp [OpenToken.close, Token.of]
  induction text with
  | nil =>
      intro position token
      rw [scan_nil, hClose]
      simp [runText]
  | cons c rest ih =>
      intro position token
      rw [scan_cons]
      by_cases hc : isAlphanumeric c = true
      · rw [if_pos hc, ih, List.filter_cons_of_pos hc, runText_cons]
        cases token with
        | none => rfl
        | some token => simp [OpenToken.push]
      · rw [if_neg hc, List.filter_cons_of_neg hc]
        split
        · exact ih _ token
        · rw [List.flatMap_append, hClose, ih]
          rfl

/-- **The characters of the tokens** are the lowercase forms of the letters and numbers. -/
theorem flatMap_text_tokenize (text : String) :
    (tokenize text).flatMap (·.text.toList) = runText (text.toList.filter isAlphanumeric) :=
  flatMap_text_scan text.toList 0 none

/-! ## Characters of stems -/

section Rules

variable {word next : List Char} {c : Char}

theorem mem_of_beforeEnd? {ending base : List Char} (h : beforeEnd? ending word = some base)
    (hc : c ∈ base) : c ∈ word := by
  rw [(beforeEnd?_eq_some_iff ending word base).mp h]
  exact List.mem_append_left ending hc

theorem mem_of_mem_undouble {base : List Char} (hc : c ∈ undouble base) : c ∈ base := by
  unfold undouble at hc
  split at hc
  · split at hc
    · exact List.dropLast_subset base hc
    · exact hc
  · exact hc

theorem mem_or_letter_of_pluralOfY (h : pluralOfY word = some next) (hc : c ∈ next) :
    c ∈ word ∨ isAsciiLetter c = true := by
  unfold pluralOfY at h
  split at h
  · next base hBase =>
      split at h
      · cases h
        rcases List.mem_append.mp hc with hFront | hY
        · exact Or.inl (mem_of_beforeEnd? hBase hFront)
        · rw [List.mem_singleton.mp hY]
          exact Or.inr (by decide)
      · exact absurd h (by simp)
  · exact absurd h (by simp)

theorem mem_or_letter_of_pluralOfSs (h : pluralOfSs word = some next) (hc : c ∈ next) :
    c ∈ word ∨ isAsciiLetter c = true := by
  obtain ⟨base, hBase, rfl⟩ := Option.map_eq_some_iff.mp h
  rcases List.mem_append.mp hc with hFront | hSs
  · exact Or.inl (mem_of_beforeEnd? hBase hFront)
  · have hS : c = 's' := by simpa using hSs
    rw [hS]
    exact Or.inr (by decide)

theorem mem_of_verbEnding {ending : List Char} (h : verbEnding ending word = some next)
    (hc : c ∈ next) : c ∈ word := by
  unfold verbEnding at h
  split at h
  · next base hBase =>
      split at h
      · cases h
        exact mem_of_beforeEnd? hBase (mem_of_mem_undouble hc)
      · exact absurd h (by simp)
  · exact absurd h (by simp)

theorem mem_of_finalS (h : finalS word = some next) (hc : c ∈ next) : c ∈ word := by
  unfold finalS at h
  split at h
  · next base hBase =>
      split at h
      · exact absurd h (by simp)
      · cases h
        exact mem_of_beforeEnd? hBase hc
  · exact absurd h (by simp)

theorem mem_of_finalE (h : finalE word = some next) (hc : c ∈ next) : c ∈ word := by
  unfold finalE at h
  split at h
  · next base hBase =>
      split at h
      · cases h
        exact mem_of_beforeEnd? hBase hc
      · exact absurd h (by simp)
  · exact absurd h (by simp)

/-- What a rule leaves has the characters of the word and ASCII letters. -/
theorem mem_or_letter_of_rule {rule : SuffixRule} (hRule : rule ∈ suffixRules)
    (h : rule word = some next) (hc : c ∈ next) : c ∈ word ∨ isAsciiLetter c = true := by
  simp only [suffixRules, List.mem_cons, List.not_mem_nil, or_false] at hRule
  rcases hRule with rfl | rfl | rfl | rfl | rfl | rfl
  · exact mem_or_letter_of_pluralOfY h hc
  · exact mem_or_letter_of_pluralOfSs h hc
  · exact Or.inl (mem_of_verbEnding h hc)
  · exact Or.inl (mem_of_verbEnding h hc)
  · exact Or.inl (mem_of_finalS h hc)
  · exact Or.inl (mem_of_finalE h hc)

end Rules

theorem mem_or_letter_of_stemList {word : List Char} {c : Char} (hc : c ∈ stemList word) :
    c ∈ word ∨ isAsciiLetter c = true := by
  fun_induction stemList word with
  | case1 word next hStrip ih =>
      rcases ih hc with hNext | hLetter
      · unfold stripOnce? at hStrip
        split at hStrip
        · obtain ⟨rule, hRule, hApplies⟩ := List.exists_of_findSome?_eq_some hStrip
          exact mem_or_letter_of_rule hRule hApplies hNext
        · exact absurd hStrip (by simp)
      · exact Or.inr hLetter
  | case2 word hStrip => exact Or.inl hc

/-- A word with a character other than an ASCII letter is left alone. -/
theorem stemList_eq_self {word : List Char} {c : Char} (hMem : c ∈ word)
    (hc : isAsciiLetter c = false) : stemList word = word := by
  apply stemList_of_none
  rw [stripOnce?, if_neg]
  intro hStemmable
  rw [isStemmable, Bool.and_eq_true] at hStemmable
  rw [List.all_eq_true.mp hStemmable.2 c hMem] at hc
  exact absurd hc (by decide)

/-- A character that is not ASCII occurs in a stem as often as in the word. -/
theorem count_stem {c : Char} (hc : 128 ≤ c.toNat) (word : String) :
    (stem word).toList.count c = word.toList.count c := by
  rw [stem, String.toList_ofList]
  by_cases hMem : c ∈ word.toList
  · have hLetter : isAsciiLetter c = false := by
      rw [Bool.eq_false_iff]
      intro hLetter
      have hAscii := toNat_lt_of_isAsciiLetter hLetter
      omega
    rw [stemList_eq_self hMem hLetter]
  · have hStem : c ∉ stemList word.toList := by
      intro hIn
      rcases mem_or_letter_of_stemList hIn with hWord | hLetter
      · exact hMem hWord
      · have hAscii := toNat_lt_of_isAsciiLetter hLetter
        omega
    rw [List.count_eq_zero_of_not_mem hStem, List.count_eq_zero_of_not_mem hMem]

/-- **Characters that are not ASCII can be counted in the stems.** -/
theorem count_flatMap_stems {c : Char} (hc : 128 ≤ c.toNat) (text : String) :
    ((stems text).flatMap String.toList).count c =
      (runText (text.toList.filter isAlphanumeric)).count c := by
  rw [← flatMap_text_tokenize, List.count_flatMap, List.count_flatMap, stems, List.map_map]
  congr 1
  apply List.map_congr_left
  intro token hMem
  show token.stem.toList.count c = token.text.toList.count c
  rw [stem_of_mem_tokenize hMem, count_stem hc]

/-! ## The number of tokens -/

theorem startsDigitGroup_iff (text : List Char) :
    startsDigitGroup text = true ↔ (text.takeWhile isAsciiDigit).length = 3 := by
  match text with
  | [] => simp [startsDigitGroup]
  | [a] => cases ha : isAsciiDigit a <;> simp [startsDigitGroup, ha]
  | [a, b] =>
      cases ha : isAsciiDigit a <;> cases hb : isAsciiDigit b <;> simp [startsDigitGroup, ha, hb]
  | [a, b, c] =>
      cases ha : isAsciiDigit a <;> cases hb : isAsciiDigit b <;> cases hc : isAsciiDigit c <;>
        simp [startsDigitGroup, ha, hb, hc]
  | a :: b :: c :: d :: rest =>
      cases ha : isAsciiDigit a <;> cases hb : isAsciiDigit b <;> cases hc : isAsciiDigit c <;>
        cases hd : isAsciiDigit d <;> simp [startsDigitGroup, ha, hb, hc, hd]

/-- The number of tokens of a text.  The first argument is about the token under way: whether it
has digits only. -/
def tokenCount : Option Bool → List Char → Nat
  | none, [] => 0
  | some _, [] => 1
  | digits?, c :: rest =>
    if isAlphanumeric c then tokenCount (some (digits?.getD true && isAsciiDigit c)) rest
    else if c = ',' ∧ digits? = some true ∧ startsDigitGroup rest = true then
      tokenCount digits? rest
    else digits?.toList.length + tokenCount none rest

theorem all_isAsciiDigit_lowerChar (c : Char) :
    (lowerChar c).all isAsciiDigit = isAsciiDigit c := by
  by_cases hc : c = 'İ'
  · subst hc
    decide
  · rw [lowerChar_of_ne_dotted hc, List.all_cons, List.all_nil, Bool.and_true,
      (sameKind_lowerLetter c).digit]

/-- **The scan makes as many tokens**, the token under way included. -/
theorem length_scan (text : List Char) :
    ∀ (position : Nat) (token : Option OpenToken),
      (scan position token text).length =
        tokenCount (token.map (·.text.all isAsciiDigit)) text := by
  induction text with
  | nil =>
      intro position token
      cases token <;> rfl
  | cons c rest ih =>
      intro position token
      have hPush : (OpenToken.push position c token).text.all isAsciiDigit =
          ((token.map (·.text.all isAsciiDigit)).getD true && isAsciiDigit c) := by
        cases token with
        | none => simp [OpenToken.push, all_isAsciiDigit_lowerChar]
        | some token => simp [OpenToken.push, all_isAsciiDigit_lowerChar]
      have hOn : OpenToken.continuesAt rest token = true ↔
          token.map (·.text.all isAsciiDigit) = some true ∧ startsDigitGroup rest = true := by
        cases token with
        | none => simp [OpenToken.continuesAt]
        | some token => simp [OpenToken.continuesAt]
      rw [scan_cons, tokenCount]
      simp only [hOn]
      split
      · rw [ih, Option.map_some, hPush]
      · split
        · exact ih _ token
        · rw [List.length_append, ih]
          cases token <;> rfl

/-- With digits only under way there are no fewer tokens than with nothing under way, with other
characters no fewer than that, and the difference is one token at most. -/
theorem tokenCount_chain (text : List Char) :
    tokenCount none text ≤ tokenCount (some true) text ∧
      tokenCount (some true) text ≤ tokenCount (some false) text ∧
        tokenCount (some false) text ≤ tokenCount none text + 1 := by
  induction text with
  | nil => decide
  | cons c rest ih =>
      by_cases hc : isAlphanumeric c = true
      · simp only [tokenCount, if_pos hc, Option.getD_none, Option.getD_some, Bool.true_and,
          Bool.false_and]
        cases isAsciiDigit c <;> omega
      · have hNone : tokenCount none (c :: rest) = tokenCount none rest := by
          simp [tokenCount, hc]
        have hOther : tokenCount (some false) (c :: rest) = 1 + tokenCount none rest := by
          simp [tokenCount, hc]
        have hDigits : tokenCount (some true) (c :: rest) = tokenCount (some true) rest ∨
            tokenCount (some true) (c :: rest) = 1 + tokenCount none rest := by
          simp only [tokenCount, if_neg hc]
          split
          · exact Or.inl rfl
          · exact Or.inr rfl
        omega

/-! ## The number of tokens of a lowercase form -/

theorem takeWhile_isAsciiDigit_lowerAfter (text : List Char) :
    ∀ before, (lowerAfter before text).takeWhile isAsciiDigit = text.takeWhile isAsciiDigit := by
  induction text with
  | nil =>
      intro before
      rfl
  | cons c rest ih =>
      intro before
      by_cases hc : c = 'İ'
      · subst hc
        rfl
      · have hKind := sameKind_lowerWithin before c rest
        rw [lowerAfter_cons hc]
        by_cases hDigit : isAsciiDigit c = true
        · have hSame : lowerWithin before c rest = c := by
            have hSigma : c ≠ 'Σ' := by
              rintro rfl
              exact absurd hDigit (by decide)
            rw [lowerWithin_of_ne hSigma]
            rcases lowerLetter_cases c with hSelf | hSmall
            · exact hSelf
            · rw [isAsciiDigit_eq_false_of_isAlphabetic hSmall.capital] at hDigit
              exact absurd hDigit (by decide)
          rw [hSame, List.takeWhile_cons_of_pos hDigit, List.takeWhile_cons_of_pos hDigit, ih]
        · have hOther : ¬ isAsciiDigit (lowerWithin before c rest) = true := by
            rw [hKind.digit]
            exact hDigit
          rw [List.takeWhile_cons_of_neg hOther, List.takeWhile_cons_of_neg hDigit]

theorem startsDigitGroup_lowerAfter (before text : List Char) :
    startsDigitGroup (lowerAfter before text) = startsDigitGroup text := by
  rw [Bool.eq_iff_iff, startsDigitGroup_iff, startsDigitGroup_iff,
    takeWhile_isAsciiDigit_lowerAfter]

/-- Lowercasing first leaves no fewer tokens: a dotted capital I becomes a token that ends with it,
and every other character becomes one of its kind. -/
theorem tokenCount_le_lowerAfter (text : List Char) :
    ∀ (before : List Char) (digits? : Option Bool),
      tokenCount digits? text ≤ tokenCount digits? (lowerAfter before text) := by
  induction text with
  | nil =>
      intro before digits?
      exact Nat.le_refl _
  | cons c rest ih =>
      intro before digits?
      by_cases hc : c = 'İ'
      · subst hc
        have hWhole : tokenCount digits? ('İ' :: rest) = tokenCount (some false) rest := by
          have hLetter : isAlphanumeric 'İ' = true := by decide +kernel
          have hDigit : isAsciiDigit 'İ' = false := by decide
          rw [tokenCount, if_pos hLetter, hDigit, Bool.and_false]
        have hLowered : tokenCount digits? (lowerAfter before ('İ' :: rest)) =
            1 + tokenCount none (lowerAfter ('İ' :: before) rest) := by
          have hLetter : isAlphanumeric 'i' = true := by decide +kernel
          have hDigit : isAsciiDigit 'i' = false := by decide
          have hDot : isAlphanumeric combiningDot = false := by decide +kernel
          have hComma : ¬ combiningDot = ',' := by decide
          rw [lowerAfter_cons_dotted, tokenCount, if_pos hLetter, hDigit, Bool.and_false]
          simp [tokenCount, hDot, hComma]
        -- the dot ends the token, so the rest is read with nothing under way: that may cost one
        -- token, and the one that has ended makes up for it
        have hRest := ih ('İ' :: before) (some false)
        have hChain := tokenCount_chain (lowerAfter ('İ' :: before) rest)
        omega
      · have hKind := sameKind_lowerWithin before c rest
        rw [lowerAfter_cons hc, tokenCount, tokenCount, hKind.alphanumeric, hKind.digit,
          startsDigitGroup_lowerAfter]
        simp only [hKind.comma]
        split
        · exact ih _ _
        · split
          · exact ih _ _
          · exact Nat.add_le_add_left (ih _ _) _

/-- **A text has no more tokens than its lowercase form.** -/
theorem length_stems_le (text : String) :
    (stems text).length ≤ (stems (lowercase text)).length := by
  have hCount : ∀ words : String, (stems words).length = tokenCount none words.toList := by
    intro words
    rw [stems, List.length_map]
    exact length_scan words.toList 0 none
  rw [hCount, hCount, lowercase, String.toList_ofList]
  exact tokenCount_le_lowerAfter text.toList [] none

/-! ## Characters of a lowercase form -/

theorem count_final_runText (text : List Char) : (runText text).count 'ς' = text.count 'ς' := by
  induction text with
  | nil => rfl
  | cons c rest ih =>
      have hSplit : (c :: rest).count 'ς' = [c].count 'ς' + rest.count 'ς' := by
        rw [← List.count_append]
        rfl
      rw [runText_cons, List.count_append, count_final_lowerChar, ih, hSplit]

/-- Final sigmas can be counted in the stems. -/
theorem count_final_stems (text : String) :
    ((stems text).flatMap String.toList).count 'ς' = text.toList.count 'ς' := by
  rw [count_flatMap_stems (by decide), count_final_runText, List.count_filter (by decide +kernel)]

/-- Only a dotted capital I puts its dot into a token. -/
theorem count_combiningDot_stems_pos_iff (text : String) :
    0 < ((stems text).flatMap String.toList).count combiningDot ↔ 'İ' ∈ text.toList := by
  rw [count_flatMap_stems (by decide), List.count_pos_iff, runText, List.mem_flatMap]
  constructor
  · rintro ⟨c, hMem, hDot⟩
    obtain ⟨hText, hLetter⟩ := List.mem_filter.mp hMem
    by_cases hc : c = 'İ'
    · exact hc ▸ hText
    · have hNotLetter : isAlphanumeric combiningDot = false := by decide +kernel
      rw [lowerChar_of_ne_dotted hc, List.mem_singleton] at hDot
      rw [← (sameKind_lowerLetter c).alphanumeric, ← hDot, hNotLetter] at hLetter
      exact absurd hLetter (by decide)
  · intro hMem
    refine ⟨'İ', List.mem_filter.mpr ⟨hMem, by decide +kernel⟩, ?_⟩
    rw [lowerChar_dotted]
    exact .tail _ (.head _)

end StaffSearch.Query
