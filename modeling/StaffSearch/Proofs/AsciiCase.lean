import StaffSearch.Proofs.Letters

/-!
# The case of ASCII letters

Lowering an ASCII letter replaces a capital by the small letter and leaves every other character
alone.  So nothing that holds of all ASCII letters alike can tell a text from the text with its
ASCII capitals lowered: no character class, no size in bytes, and no lowercase form.

* `changesLetters_lowerAscii` — only ASCII letters are changed, into ASCII letters, so a property
  that all of them share does not change.
* `caseKey_lowerAscii`, `lowerChar_lowerAscii` — lowering does not leave the letter.
* `lowerList_map_lowerAscii` — the lowercase form of a text does not depend on the case of its
  ASCII letters, whatever else stands in the text.
-/

namespace StaffSearch.Text

/-! ## What a letter keeps -/

/-- Only ASCII letters are changed, into ASCII letters. -/
theorem changesLetters_lowerAscii : ChangesLetters isAsciiLetter lowerAscii := by
  intro c
  by_cases hCapital : 0x41 ≤ c.toNat ∧ c.toNat ≤ 0x5A
  · right
    constructor
    · exact isAsciiLetter_iff.mpr (Or.inr hCapital)
    · rw [isAsciiLetter_iff, toNat_lowerAscii, if_pos hCapital]
      omega
  · exact Or.inl (lowerAscii_of_not_capital hCapital)

@[simp] theorem isAlphanumeric_lowerAscii (c : Char) :
    isAlphanumeric (lowerAscii c) = isAlphanumeric c :=
  changesLetters_lowerAscii.eq (fun _ hLetter => isAlphanumeric_of_isAsciiLetter hLetter) c

@[simp] theorem isAsciiDigit_lowerAscii (c : Char) : isAsciiDigit (lowerAscii c) = isAsciiDigit c :=
  changesLetters_lowerAscii.eq (fun _ hLetter => isAsciiDigit_eq_false_of_letter hLetter) c

@[simp] theorem isBlank_lowerAscii (c : Char) : isBlank (lowerAscii c) = isBlank c :=
  changesLetters_lowerAscii.eq (fun _ hLetter => isBlank_eq_false_of_letter hLetter) c

@[simp] theorem isWordCharacter_lowerAscii (c : Char) :
    isWordCharacter (lowerAscii c) = isWordCharacter c := by
  apply changesLetters_lowerAscii.eq
  intro d hLetter
  show isWordCharacter d = true
  simp only [isWordCharacter, isAlphabetic_of_isAsciiLetter hLetter, Bool.true_or]

theorem utf8Size_of_isAsciiLetter {c : Char} (hc : isAsciiLetter c = true) : c.utf8Size = 1 := by
  have hSmall := toNat_lt_of_isAsciiLetter hc
  rw [Char.utf8Size_eq_one_iff, UInt32.le_iff_toNat_le]
  show c.toNat ≤ 127
  omega

@[simp] theorem utf8Size_lowerAscii (c : Char) : (lowerAscii c).utf8Size = c.utf8Size :=
  changesLetters_lowerAscii.eq (fun _ hLetter => utf8Size_of_isAsciiLetter hLetter) c

/-! ## Lowercase forms -/

@[simp] theorem lowerAscii_lowerAscii (c : Char) : lowerAscii (lowerAscii c) = lowerAscii c := by
  apply lowerAscii_of_not_capital
  rw [toNat_lowerAscii]
  split <;> omega

/-- A character and its lowered form have the same lowercase form. -/
@[simp] theorem lowerChar_lowerAscii (c : Char) : lowerChar (lowerAscii c) = lowerChar c := by
  rcases changesLetters_lowerAscii c with hSame | ⟨hLetter, hLowered⟩
  · rw [hSame]
  · rw [lowerChar_of_isAsciiLetter hLetter, lowerChar_of_isAsciiLetter hLowered,
      lowerAscii_lowerAscii]

theorem caseKey_of_isAsciiLetter {c : Char} (hc : isAsciiLetter c = true) :
    caseKey c = (lowerAscii c).toNat := by
  have hAscii := toNat_lt_of_isAsciiLetter hc
  have hNotFolded : foldedLetters.lookup c.toNat = none := by
    rw [List.lookup_eq_none_iff]
    intro entry hMem
    have hHigh := List.all_eq_true.mp
      (show (foldedLetters.all fun entry => decide (128 ≤ entry.1)) = true by decide) entry hMem
    rw [bne_iff_ne]
    have := of_decide_eq_true hHigh
    omega
  rw [caseKey, hNotFolded, Option.getD_none, lowerCode_of_lt hAscii, toNat_lowerAscii]

/-- A character and its lowered form are the same letter. -/
@[simp] theorem caseKey_lowerAscii (c : Char) : caseKey (lowerAscii c) = caseKey c := by
  rcases changesLetters_lowerAscii c with hSame | ⟨hLetter, hLowered⟩
  · rw [hSame]
  · rw [caseKey_of_isAsciiLetter hLetter, caseKey_of_isAsciiLetter hLowered,
      lowerAscii_lowerAscii]

@[simp] theorem sameLetter_lowerAscii (a c : Char) :
    sameLetter a (lowerAscii c) = sameLetter a c := by
  rw [sameLetter, sameLetter, caseKey_lowerAscii]

@[simp] theorem isCased_lowerAscii (c : Char) : isCased (lowerAscii c) = isCased c :=
  changesLetters_lowerAscii.eq (fun _ hLetter =>
    contains_of_isAsciiLetter (.head _) (.tail _ (.head _)) hLetter) c

/-- The ASCII letters as a table. -/
private def asciiLetterRanges : CodeRanges := [(0x41, 0x5A), (0x61, 0x7A)]

@[simp] theorem isCaseIgnorable_lowerAscii (c : Char) :
    isCaseIgnorable (lowerAscii c) = isCaseIgnorable c := by
  apply changesLetters_lowerAscii.eq
  intro d hLetter
  have hTable : asciiLetterRanges.contains d = true :=
    contains_of_isAsciiLetter (.head _) (.tail _ (.head _)) hLetter
  show isCaseIgnorable d = false
  exact CodeRanges.contains_eq_false_of_disjoint (by decide +kernel) hTable

@[simp] theorem nextIsCased_map_lowerAscii (text : List Char) :
    nextIsCased (text.map lowerAscii) = nextIsCased text := by
  have hIgnorable : isCaseIgnorable ∘ lowerAscii = isCaseIgnorable :=
    funext isCaseIgnorable_lowerAscii
  unfold nextIsCased
  rw [List.dropWhile_map, hIgnorable]
  cases text.dropWhile isCaseIgnorable with
  | nil => rfl
  | cons c rest => exact isCased_lowerAscii c

@[simp] theorem lowerAfter_map_lowerAscii (text : List Char) :
    ∀ before : List Char,
      lowerAfter (before.map lowerAscii) (text.map lowerAscii) = lowerAfter before text := by
  induction text with
  | nil =>
      intro before
      rfl
  | cons c rest ih =>
      intro before
      have hSigma : lowerAscii c = 'Σ' ↔ c = 'Σ' :=
        changesLetters_lowerAscii.eq_sign_iff (by decide) c
      have hRest := ih (c :: before)
      rw [List.map_cons] at hRest
      rw [List.map_cons, lowerAfter, lowerAfter, hRest, lowerChar_lowerAscii,
        nextIsCased_map_lowerAscii, nextIsCased_map_lowerAscii]
      simp only [hSigma]

/-- **The lowercase form of a text does not depend on the case of its ASCII letters.** -/
@[simp] theorem lowerList_map_lowerAscii (text : List Char) :
    lowerList (text.map lowerAscii) = lowerList text :=
  lowerAfter_map_lowerAscii text []

/-! ## Texts -/

@[simp] theorem toList_lowercaseAscii (text : String) :
    (lowercaseAscii text).toList = text.toList.map lowerAscii := by
  rw [lowercaseAscii, String.toList_ofList]

/-- Two texts are equal up to the case of ASCII letters when they are the same after lowering. -/
theorem equalIgnoringAsciiCase_iff {a b : String} :
    equalIgnoringAsciiCase a b = true ↔ lowercaseAscii a = lowercaseAscii b := by
  rw [equalIgnoringAsciiCase, beq_iff_eq, lowercaseAscii, lowercaseAscii, String.ofList_inj]

@[simp] theorem lowercase_lowercaseAscii (text : String) :
    lowercase (lowercaseAscii text) = lowercase text := by
  rw [lowercase, lowercase, toList_lowercaseAscii, lowerList_map_lowerAscii]

end StaffSearch.Text
