import StaffSearch.Text.Case
import StaffSearch.Text.CharacterClass

/-!
# Letters, digits and blanks

The tables of the character classes are long, and a proof should look into them once only.  This
file does so: it says which classes exclude each other, where the ASCII characters belong, and what
lowercasing does to the letters among them.  Later files argue with these statements and never with
a table.

## Main results

* `isAlphanumeric_eq_false_of_isBlank` — blank characters are neither letters nor numbers.
* `lowerChar_of_isAsciiLetter` — lowercasing an ASCII letter is the shift by 32.
* `lowerList_of_isAsciiText` — an ASCII text is lowercased character by character.
* `lowercase_trim_of_small` — a text of small ASCII letters is its own trimmed lowercase form.
-/

namespace StaffSearch.Text

/-! ## Disjoint tables -/

/-- Whether no interval of one table meets an interval of the other. -/
def CodeRanges.disjoint (a b : CodeRanges) : Bool :=
  a.all fun r => b.all fun s => decide (r.2 < s.1) || decide (s.2 < r.1)

theorem CodeRanges.contains_eq_false_of_disjoint {a b : CodeRanges} (hab : a.disjoint b = true)
    {c : Char} (hc : a.contains c = true) : b.contains c = false := by
  rw [Bool.eq_false_iff]
  intro hb
  obtain ⟨r, hr, hLow, hHigh⟩ := (CodeRanges.contains_iff a c).mp hc
  obtain ⟨s, hs, hLow', hHigh'⟩ := (CodeRanges.contains_iff b c).mp hb
  have hApart := List.all_eq_true.mp (List.all_eq_true.mp hab r hr) s hs
  simp only [Bool.or_eq_true, decide_eq_true_eq] at hApart
  omega

/-- Blank characters are neither letters nor numbers. -/
theorem isAlphanumeric_eq_false_of_isBlank {c : Char} (hc : isBlank c = true) :
    isAlphanumeric c = false := by
  have hAlphabetic : isAlphabetic c = false :=
    CodeRanges.contains_eq_false_of_disjoint (a := blankRanges) (by decide +kernel) hc
  have hNumber : isNumber c = false :=
    CodeRanges.contains_eq_false_of_disjoint (a := blankRanges) (by decide +kernel) hc
  rw [isAlphanumeric, hAlphabetic, hNumber]
  rfl

/-! ## ASCII letters and digits by code point -/

/-- One of the 26 small letters of the ASCII alphabet. -/
def isSmallLetter (c : Char) : Bool := decide ('a' ≤ c) && decide (c ≤ 'z')

theorem isSmallLetter_iff {c : Char} :
    isSmallLetter c = true ↔ 0x61 ≤ c.toNat ∧ c.toNat ≤ 0x7A := by
  simp only [isSmallLetter, Bool.and_eq_true, decide_eq_true_eq, Char.le_def,
    UInt32.le_iff_toNat_le]
  exact Iff.rfl

theorem isAsciiLetter_iff {c : Char} :
    isAsciiLetter c = true ↔
      (0x61 ≤ c.toNat ∧ c.toNat ≤ 0x7A) ∨ (0x41 ≤ c.toNat ∧ c.toNat ≤ 0x5A) := by
  simp only [isAsciiLetter, Bool.or_eq_true, Bool.and_eq_true, decide_eq_true_eq, Char.le_def,
    UInt32.le_iff_toNat_le]
  exact Iff.rfl

theorem isAsciiDigit_iff {c : Char} :
    isAsciiDigit c = true ↔ 0x30 ≤ c.toNat ∧ c.toNat ≤ 0x39 := by
  simp only [isAsciiDigit, Bool.and_eq_true, decide_eq_true_eq, Char.le_def,
    UInt32.le_iff_toNat_le]
  exact Iff.rfl

theorem isAsciiLetter_of_small {c : Char} (hc : isSmallLetter c = true) :
    isAsciiLetter c = true :=
  isAsciiLetter_iff.mpr (Or.inl (isSmallLetter_iff.mp hc))

theorem isAsciiDigit_eq_false_of_letter {c : Char} (hc : isAsciiLetter c = true) :
    isAsciiDigit c = false := by
  rw [Bool.eq_false_iff]
  intro hDigit
  have hLetter := isAsciiLetter_iff.mp hc
  have hRange := isAsciiDigit_iff.mp hDigit
  omega

/-- A table with both intervals of ASCII letters has every ASCII letter. -/
theorem contains_of_isAsciiLetter {ranges : CodeRanges} (hCapitals : (0x41, 0x5A) ∈ ranges)
    (hSmalls : (0x61, 0x7A) ∈ ranges) {c : Char} (hc : isAsciiLetter c = true) :
    ranges.contains c = true := by
  apply (CodeRanges.contains_iff ranges c).mpr
  rcases isAsciiLetter_iff.mp hc with hSmall | hCapital
  · exact ⟨_, hSmalls, hSmall⟩
  · exact ⟨_, hCapitals, hCapital⟩

theorem isAlphabetic_of_isAsciiLetter {c : Char} (hc : isAsciiLetter c = true) :
    isAlphabetic c = true :=
  contains_of_isAsciiLetter (.head _) (.tail _ (.head _)) hc

theorem isAlphanumeric_of_isAsciiLetter {c : Char} (hc : isAsciiLetter c = true) :
    isAlphanumeric c = true := by
  rw [isAlphanumeric, isAlphabetic_of_isAsciiLetter hc]
  rfl

theorem isAlphanumeric_of_isAsciiDigit {c : Char} (hc : isAsciiDigit c = true) :
    isAlphanumeric c = true := by
  have hNumber : isNumber c = true :=
    (CodeRanges.contains_iff numberRanges c).mpr
      ⟨(0x30, 0x39), .head _, isAsciiDigit_iff.mp hc⟩
  rw [isAlphanumeric, hNumber, Bool.or_true]

theorem isAsciiDigit_eq_false_of_separator {c : Char} (hc : isAlphanumeric c = false) :
    isAsciiDigit c = false := by
  rw [Bool.eq_false_iff]
  intro hDigit
  rw [isAlphanumeric_of_isAsciiDigit hDigit] at hc
  exact absurd hc (by decide)

theorem isBlank_eq_false_of_letter {c : Char} (hc : isAsciiLetter c = true) :
    isBlank c = false := by
  rw [Bool.eq_false_iff]
  intro hBlank
  have h := isAlphanumeric_eq_false_of_isBlank hBlank
  rw [isAlphanumeric_of_isAsciiLetter hc] at h
  exact absurd h (by decide)

/-! ## Characters of one kind -/

/-- Both characters are letters or numbers, or none of them is; so it is with digits and commas. -/
structure SameKind (c d : Char) : Prop where
  /-- Whether it is a letter or a number. -/
  alphanumeric : isAlphanumeric d = isAlphanumeric c
  /-- Whether it is a digit. -/
  digit : isAsciiDigit d = isAsciiDigit c
  /-- Whether it is the comma. -/
  comma : d = ',' ↔ c = ','

/-! ## Characters and their other forms -/

/-- The characters that `lower` changes are letters, and it makes letters of them. -/
def ChangesLetters (isLetter : Char → Bool) (lower : Char → Char) : Prop :=
  ∀ c, lower c = c ∨ (isLetter c = true ∧ isLetter (lower c) = true)

section ChangesLetters

variable {isLetter : Char → Bool} {lower : Char → Char}

/-- What is the same for all letters is the same for a character and what becomes of it. -/
theorem ChangesLetters.eq (h : ChangesLetters isLetter lower) {α : Type} {f : Char → α}
    {value : α} (hLetters : ∀ c, isLetter c = true → f c = value) (c : Char) :
    f (lower c) = f c := by
  rcases h c with hSame | ⟨hLetter, hLowered⟩
  · rw [hSame]
  · rw [hLetters _ hLowered, hLetters c hLetter]

/-- A sign that is no letter stays itself, and nothing else becomes it. -/
theorem ChangesLetters.eq_sign_iff (h : ChangesLetters isLetter lower) {sign : Char}
    (hSign : isLetter sign = false) (c : Char) : lower c = sign ↔ c = sign := by
  have hApart : ∀ d, isLetter d = true → (d == sign) = false := by
    intro d hLetter
    rw [beq_eq_false_iff_ne]
    rintro rfl
    rw [hLetter] at hSign
    exact absurd hSign (by decide)
  have hSame := h.eq (f := (· == sign)) hApart c
  rw [← beq_iff_eq, hSame, beq_iff_eq]

end ChangesLetters

/-! ## Lowercasing ASCII letters -/

theorem lowerCode_of_lt {code : Nat} (h : code < 128) :
    lowerCode code = if 0x41 ≤ code ∧ code ≤ 0x5A then code + 32 else code := by
  revert code
  decide +kernel

theorem toNat_ofNat {code : Nat} (h : code.isValidChar) : (Char.ofNat code).toNat = code := by
  rw [Char.ofNat, dif_pos h]
  rfl

theorem toNat_lowerAscii (c : Char) :
    (lowerAscii c).toNat =
      if 0x41 ≤ c.toNat ∧ c.toNat ≤ 0x5A then c.toNat + 32 else c.toNat := by
  have hCapital : ('A' ≤ c ∧ c ≤ 'Z') ↔ (0x41 ≤ c.toNat ∧ c.toNat ≤ 0x5A) := by
    simp only [Char.le_def, UInt32.le_iff_toNat_le]
    exact Iff.rfl
  unfold lowerAscii
  by_cases h : 0x41 ≤ c.toNat ∧ c.toNat ≤ 0x5A
  · rw [if_pos (hCapital.mpr h), if_pos h]
    exact toNat_ofNat (Or.inl (by omega))
  · rw [if_neg (fun hc => h (hCapital.mp hc)), if_neg h]

/-- Lowercasing an ASCII character shifts the capitals by 32. -/
theorem lowerChar_of_lt {c : Char} (hc : c.toNat < 128) : lowerChar c = [lowerAscii c] := by
  have hDotted : c.toNat ≠ 0x130 := by omega
  rw [lowerChar, if_neg hDotted, lowerCode_of_lt hc, ← toNat_lowerAscii, Char.ofNat_toNat]

theorem toNat_lt_of_isAsciiLetter {c : Char} (hc : isAsciiLetter c = true) : c.toNat < 128 := by
  have hRange := isAsciiLetter_iff.mp hc
  omega

/-- Lowercasing an ASCII letter is the shift by 32. -/
theorem lowerChar_of_isAsciiLetter {c : Char} (hc : isAsciiLetter c = true) :
    lowerChar c = [lowerAscii c] :=
  lowerChar_of_lt (toNat_lt_of_isAsciiLetter hc)

theorem isAsciiLetter_of_lowerAscii {c : Char} (hc : isSmallLetter (lowerAscii c) = true) :
    isAsciiLetter c = true := by
  have hRange := isSmallLetter_iff.mp hc
  rw [toNat_lowerAscii] at hRange
  rw [isAsciiLetter_iff]
  split at hRange <;> omega

theorem lowerAscii_of_not_capital {c : Char} (hc : ¬ (0x41 ≤ c.toNat ∧ c.toNat ≤ 0x5A)) :
    lowerAscii c = c := by
  have hSame : (lowerAscii c).toNat = c.toNat := by
    rw [toNat_lowerAscii, if_neg hc]
  calc lowerAscii c
      = Char.ofNat (lowerAscii c).toNat := (Char.ofNat_toNat _).symm
    _ = Char.ofNat c.toNat := by rw [hSame]
    _ = c := Char.ofNat_toNat c

theorem lowerAscii_of_small {c : Char} (hc : isSmallLetter c = true) : lowerAscii c = c := by
  have hRange := isSmallLetter_iff.mp hc
  exact lowerAscii_of_not_capital (by omega)

theorem lowerAscii_of_digit {c : Char} (hc : isAsciiDigit c = true) : lowerAscii c = c := by
  have hRange := isAsciiDigit_iff.mp hc
  exact lowerAscii_of_not_capital (by omega)

/-! ## ASCII texts -/

/-- A text of ASCII characters. -/
def IsAsciiText (text : String) : Prop := ∀ c ∈ text.toList, c.toNat < 128

theorem isAsciiText_iff {text : String} :
    IsAsciiText text ↔ (text.toList.all fun c => decide (c.toNat < 128)) = true := by
  simp only [IsAsciiText, List.all_eq_true, decide_eq_true_eq]

instance (text : String) : Decidable (IsAsciiText text) := decidable_of_iff' _ isAsciiText_iff

theorem lowerAfter_of_ascii (text : List Char) :
    ∀ before : List Char, (∀ c ∈ text, c.toNat < 128) →
      lowerAfter before text = text.map lowerAscii := by
  induction text with
  | nil =>
      intro before _
      rfl
  | cons c rest ih =>
      intro before hAscii
      have hc : c.toNat < 128 := hAscii c (by simp)
      have hSigma : c ≠ 'Σ' := by
        intro h
        subst h
        exact absurd hc (by decide)
      rw [lowerAfter, if_neg hSigma, lowerChar_of_lt hc,
        ih (c :: before) fun x hx => hAscii x (by simp [hx])]
      rfl

theorem lowerList_of_isAsciiText {text : String} (h : IsAsciiText text) :
    lowerList text.toList = text.toList.map lowerAscii :=
  lowerAfter_of_ascii text.toList [] h

/-! ## Texts of small letters -/

theorem lowerAfter_of_small {text : List Char} (before : List Char)
    (hSmall : ∀ c ∈ text, isSmallLetter c = true) : lowerAfter before text = text := by
  have hAscii : ∀ c ∈ text, c.toNat < 128 := fun c hc =>
    toNat_lt_of_isAsciiLetter (isAsciiLetter_of_small (hSmall c hc))
  have hSame : text.map lowerAscii = text.map id :=
    List.map_congr_left fun c hc => lowerAscii_of_small (hSmall c hc)
  rw [lowerAfter_of_ascii text before hAscii, hSame, List.map_id]

@[simp] theorem trimStart_cons {c : Char} {rest : List Char} (h : isBlank c = false) :
    trimStart (c :: rest) = c :: rest := by
  rw [trimStart, List.dropWhile_cons_of_neg]
  rw [h]
  exact Bool.false_ne_true

theorem trimStart_of_not_blank {text : List Char} (h : ∀ c ∈ text, isBlank c = false) :
    trimStart text = text := by
  cases text with
  | nil => rfl
  | cons c rest => exact trimStart_cons (h c List.mem_cons_self)

/-- A text of small ASCII letters is its own trimmed lowercase form. -/
theorem lowercase_trim_of_small {text : List Char} (h : ∀ c ∈ text, isSmallLetter c = true) :
    lowercase (trim (String.ofList text)) = String.ofList text := by
  have hBlank : ∀ c ∈ text, isBlank c = false := fun c hc =>
    isBlank_eq_false_of_letter (isAsciiLetter_of_small (h c hc))
  have hBlankRev : ∀ c ∈ text.reverse, isBlank c = false := fun c hc =>
    hBlank c (List.mem_reverse.mp hc)
  have hTrim : trimList text = text := by
    rw [trimList, trimStart_of_not_blank hBlank, trimEnd, trimStart_of_not_blank hBlankRev,
      List.reverse_reverse]
  rw [lowercase, trim, String.toList_ofList, String.toList_ofList, hTrim, lowerList,
    lowerAfter_of_small [] h]

end StaffSearch.Text
