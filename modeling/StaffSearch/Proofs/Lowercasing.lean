import StaffSearch.Proofs.Letters

/-!
# Lowercasing texts and lowercasing letters

A text is lowercased letter by letter, with two exceptions.  The capital I with a dot above becomes
two characters, and a capital sigma becomes another letter at the end of a word.  Where neither
occurs, the lowercase form is made of the lowercase forms of the letters
(`lowerList_of_lowersByLetter`); where one occurs, it shows in the lowercase form
(`mem_lowerAfter_of_dotted`, `count_final_lowerAfter`).

What is to be known about the letters is read off the table of capitals run by run: capitals are
letters, their lowercase forms are letters too, and lowercasing once is enough (`lowerLetter_cases`).

## Main results

* `lowerLetter_cases` — a character is its own lowercase form, or both are letters.
* `lowerList_of_lowersByLetter` — without exceptions a text is lowercased letter by letter.
-/

namespace StaffSearch.Text

/-! ## Runs of capitals -/

/-- Whether one interval of the table has all code points from `low` to `high`. -/
def CodeRanges.covers (ranges : CodeRanges) (low high : Nat) : Bool :=
  ranges.any fun range => Nat.ble range.1 low && Nat.ble high range.2

theorem CodeRanges.contains_of_covers {ranges : CodeRanges} {low high : Nat}
    (h : ranges.covers low high = true) {c : Char} (hLow : low ≤ c.toNat)
    (hHigh : c.toNat ≤ high) : ranges.contains c = true := by
  obtain ⟨range, hMem, hRange⟩ := List.any_eq_true.mp h
  rw [Bool.and_eq_true, Nat.ble_eq, Nat.ble_eq] at hRange
  apply (CodeRanges.contains_iff ranges c).mpr
  exact ⟨range, hMem, by omega, by omega⟩

namespace CaseRun

/-- The lowercase form of a code point of the run. -/
def lower (run : CaseRun) (code : Nat) : Nat := ((code : Int) + run.shift).toNat

/-- The code points of the run. -/
def codes (run : CaseRun) : List Nat :=
  List.range' run.first ((run.last - run.first) / run.stride + 1) run.stride

/-- Whether no lowercase form of the run is a code point of the other one: their intervals do not
meet, or they run between each other in steps of two. -/
def isApartFrom (run other : CaseRun) : Bool :=
  Nat.blt other.last (run.lower run.first) || Nat.blt (run.lower run.last) other.first ||
    (other.stride == 2 && (run.stride == 2 || run.first == run.last) &&
      (run.lower run.first + other.first) % 2 == 1)

theorem covers_iff {run : CaseRun} {code : Nat} :
    run.covers code = true ↔
      run.first ≤ code ∧ code ≤ run.last ∧ (code - run.first) % run.stride = 0 := by
  simp only [covers, Bool.and_eq_true, decide_eq_true_eq, beq_iff_eq, and_assoc]

theorem mem_codes {run : CaseRun} {code : Nat} (h : run.covers code = true) :
    code ∈ run.codes := by
  obtain ⟨hFirst, hLast, hStep⟩ := covers_iff.mp h
  rw [codes, List.mem_range']
  refine ⟨(code - run.first) / run.stride, ?_, ?_⟩
  · have hLe : (code - run.first) / run.stride ≤ (run.last - run.first) / run.stride :=
      Nat.div_le_div_right (by omega)
    omega
  · have hDiv := Nat.div_add_mod (code - run.first) run.stride
    omega

/-! ## The table -/

/-- Capitals are alphabetic. -/
theorem alphabetic_codes : ∀ run ∈ capitalRuns,
    alphabeticRanges.covers run.first run.last = true ∨
      ∀ code ∈ run.codes, alphabeticRanges.covers code code = true := by
  decide +kernel

/-- Their lowercase forms are alphabetic. -/
theorem alphabetic_lower : ∀ run ∈ capitalRuns,
    alphabeticRanges.covers (run.lower run.first) (run.lower run.last) = true := by
  decide +kernel

/-- The lowercase forms are code points of characters. -/
theorem isValidChar_lower : ∀ run ∈ capitalRuns, 0 ≤ (run.first : Int) + run.shift ∧
    (run.lower run.last < 0xD800 ∨
      0xDFFF < run.lower run.first ∧ run.lower run.last < 0x110000) := by
  decide +kernel

/-- The lowercase forms are no capitals of the table. -/
theorem isApartFrom_capitalRuns : ∀ run ∈ capitalRuns,
    capitalRuns.all run.isApartFrom = true := by
  decide +kernel

/-- Neither of the two letters with a rule of their own is among the lowercase forms. -/
theorem lower_ne_special : ∀ run ∈ capitalRuns, ∀ code ∈ [0x130, 0x3C2],
    code < run.lower run.first ∨ run.lower run.last < code := by
  decide +kernel

section Covered

variable {run : CaseRun} {code : Nat}

theorem lower_bounds (hCode : run.covers code = true) :
    run.lower run.first ≤ run.lower code ∧ run.lower code ≤ run.lower run.last := by
  obtain ⟨hFirst, hLast, -⟩ := covers_iff.mp hCode
  simp only [lower]
  omega

theorem not_covers_lower (hRun : run ∈ capitalRuns) (hCode : run.covers code = true)
    {other : CaseRun} (hOther : other ∈ capitalRuns) : other.covers (run.lower code) = false := by
  obtain ⟨hFirst, hLast, hStep⟩ := covers_iff.mp hCode
  have hPositive := (isValidChar_lower run hRun).1
  have hBounds := lower_bounds hCode
  have hApart := List.all_eq_true.mp (isApartFrom_capitalRuns run hRun) other hOther
  rw [Bool.eq_false_iff]
  intro hCovers
  obtain ⟨hFirst', hLast', hStep'⟩ := covers_iff.mp hCovers
  simp only [isApartFrom, Bool.or_eq_true, Bool.and_eq_true, Nat.blt_eq, beq_iff_eq] at hApart
  rcases hApart with (hBehind | hBefore) | ⟨⟨hTwo, hSteps⟩, hOdd⟩
  · omega
  · omega
  · -- the lowercase forms have one parity, the code points of the other run have the other one
    rw [hTwo] at hStep'
    have hEven : (code - run.first) % 2 = 0 := by
      rcases hSteps with hStride | hSingle
      · rw [hStride] at hStep
        exact hStep
      · omega
    simp only [lower] at hFirst' hStep' hOdd
    omega

end Covered

end CaseRun

/-! ## Letters -/

theorem lowerCode_cases (code : Nat) :
    lowerCode code = code ∨
      ∃ run ∈ capitalRuns, run.covers code = true ∧ lowerCode code = run.lower code := by
  unfold lowerCode
  split
  · next run hFind =>
      have hCovers := List.find?_some hFind
      right
      exact ⟨run, List.mem_of_find?_eq_some hFind, hCovers, rfl⟩
  · exact Or.inl rfl

/-- The lowercase form of a character, as a single character: the dotted capital I is left out. -/
def lowerLetter (c : Char) : Char := Char.ofNat (lowerCode c.toNat)

theorem toNat_lowerLetter {run : CaseRun} {c : Char} (hRun : run ∈ capitalRuns)
    (hCovers : run.covers c.toNat = true) (hCode : lowerCode c.toNat = run.lower c.toNat) :
    (lowerLetter c).toNat = run.lower c.toNat := by
  have hBounds := CaseRun.lower_bounds hCovers
  have hValid : (run.lower c.toNat).isValidChar := by
    rcases (CaseRun.isValidChar_lower run hRun).2 with hLow | hHigh
    · exact Or.inl (by omega)
    · exact Or.inr (by omega)
  rw [lowerLetter, hCode, toNat_ofNat hValid]

/-- `small` is the lowercase form of another letter, and none of the letters with a rule of their
own. -/
structure IsSmallOf (c small : Char) : Prop where
  /-- The capital is a letter. -/
  capital : isAlphabetic c = true
  /-- Its lowercase form is one. -/
  alphabetic : isAlphabetic small = true
  /-- Lowercasing once is enough. -/
  lowered : lowerLetter small = small
  /-- It is no dotted capital I. -/
  notDotted : small ≠ 'İ'
  /-- It is no final sigma. -/
  notFinal : small ≠ 'ς'

/-- **A character is its own lowercase form, or both are letters.** -/
theorem lowerLetter_cases (c : Char) : lowerLetter c = c ∨ IsSmallOf c (lowerLetter c) := by
  rcases lowerCode_cases c.toNat with hSame | ⟨run, hRun, hCovers, hCode⟩
  · left
    rw [lowerLetter, hSame, Char.ofNat_toNat]
  · right
    obtain ⟨hFirst, hLast, -⟩ := CaseRun.covers_iff.mp hCovers
    have hBounds := CaseRun.lower_bounds hCovers
    have hSmall := toNat_lowerLetter hRun hCovers hCode
    have hSpecial : ∀ special : Char, special.toNat ∈ [0x130, 0x3C2] →
        lowerLetter c ≠ special := by
      rintro special hMem rfl
      have hApart := CaseRun.lower_ne_special run hRun _ hMem
      omega
    refine ⟨?_, ?_, ?_, hSpecial 'İ' (by decide), hSpecial 'ς' (by decide)⟩
    · rcases CaseRun.alphabetic_codes run hRun with hAll | hEach
      · exact CodeRanges.contains_of_covers hAll hFirst hLast
      · exact CodeRanges.contains_of_covers (hEach _ (CaseRun.mem_codes hCovers))
          (Nat.le_refl _) (Nat.le_refl _)
    · exact CodeRanges.contains_of_covers (CaseRun.alphabetic_lower run hRun) (by omega) (by omega)
    · have hNone : capitalRuns.find? (·.covers (run.lower c.toNat)) = none := by
        rw [List.find?_eq_none]
        intro other hOther
        rw [CaseRun.not_covers_lower hRun hCovers hOther]
        decide
      have hFixed : lowerCode (lowerLetter c).toNat = (lowerLetter c).toNat := by
        rw [hSmall, lowerCode, hNone]
      show Char.ofNat (lowerCode (lowerLetter c).toNat) = _
      rw [hFixed, Char.ofNat_toNat]

theorem changesLetters_lowerLetter : ChangesLetters isAlphabetic lowerLetter := by
  intro c
  rcases lowerLetter_cases c with hSame | hSmall
  · exact Or.inl hSame
  · exact Or.inr ⟨hSmall.capital, hSmall.alphabetic⟩

theorem isAsciiDigit_eq_false_of_isAlphabetic {c : Char} (hc : isAlphabetic c = true) :
    isAsciiDigit c = false := by
  rw [Bool.eq_false_iff]
  intro hDigit
  have hRange : CodeRanges.contains [(0x30, 0x39)] c = true :=
    (CodeRanges.contains_iff _ c).mpr ⟨_, .head _, isAsciiDigit_iff.mp hDigit⟩
  have hNotLetter : isAlphabetic c = false :=
    CodeRanges.contains_eq_false_of_disjoint (by decide +kernel) hRange
  rw [hc] at hNotLetter
  exact absurd hNotLetter (by decide)

/-- Lowercasing keeps the kind of a character. -/
theorem sameKind_lowerLetter (c : Char) : SameKind c (lowerLetter c) where
  alphanumeric := by
    apply changesLetters_lowerLetter.eq
    intro d hLetter
    show isAlphanumeric d = true
    rw [isAlphanumeric, hLetter, Bool.true_or]
  digit :=
    changesLetters_lowerLetter.eq
      (fun _ hLetter => isAsciiDigit_eq_false_of_isAlphabetic hLetter) c
  comma := changesLetters_lowerLetter.eq_sign_iff (by decide +kernel) c

/-- No other letter becomes a final sigma. -/
theorem lowerLetter_eq_final_iff (c : Char) : lowerLetter c = 'ς' ↔ c = 'ς' := by
  constructor
  · intro hFinal
    rcases lowerLetter_cases c with hSame | hSmall
    · exact hSame.symm.trans hFinal
    · exact absurd hFinal hSmall.notFinal
  · rintro rfl
    decide +kernel

theorem lowerLetter_ne_dotted {c : Char} (hc : c ≠ 'İ') : lowerLetter c ≠ 'İ' := by
  rcases lowerLetter_cases c with hSame | hSmall
  · rw [hSame]
    exact hc
  · exact hSmall.notDotted

theorem lowerChar_of_ne_dotted {c : Char} (hc : c ≠ 'İ') : lowerChar c = [lowerLetter c] := by
  have hCode : ¬ c.toNat = 0x130 := fun hDotted => hc (Char.toNat_inj.mp hDotted)
  rw [lowerChar, if_neg hCode]
  rfl

/-- The combining dot that the dotted capital I leaves behind. -/
def combiningDot : Char := Char.ofNat 0x307

theorem lowerChar_dotted : lowerChar 'İ' = ['i', combiningDot] := rfl

/-- Lowercasing a character on its own makes no final sigma of it. -/
theorem count_final_lowerChar (c : Char) : (lowerChar c).count 'ς' = [c].count 'ς' := by
  by_cases hc : c = 'İ'
  · subst hc
    decide
  · rw [lowerChar_of_ne_dotted hc]
    by_cases hFinal : c = 'ς'
    · rw [(lowerLetter_eq_final_iff c).mpr hFinal, hFinal]
    · have hLowered : lowerLetter c ≠ 'ς' := fun h => hFinal ((lowerLetter_eq_final_iff c).mp h)
      rw [List.count_singleton, List.count_singleton, beq_false_of_ne hFinal,
        beq_false_of_ne hLowered]

/-- Lowercasing twice is lowercasing once. -/
theorem lowerChar_lowerLetter (c : Char) : lowerChar (lowerLetter c) = lowerChar c := by
  rcases lowerLetter_cases c with hSame | hSmall
  · rw [hSame]
  · have hCapital : c ≠ 'İ' := by
      rintro rfl
      exact hSmall.notDotted (by decide +kernel)
    rw [lowerChar_of_ne_dotted hSmall.notDotted, lowerChar_of_ne_dotted hCapital, hSmall.lowered]

/-! ## Sigmas at the end of a word -/

/-- A capital sigma of the text ends a word; in front of the text stands `before`, nearest first. -/
def FinalSigmaBehind (before text : List Char) : Prop :=
  ∃ front rest, text = front ++ 'Σ' :: rest ∧ nextIsCased (front.reverse ++ before) = true ∧
    nextIsCased rest = false

/-- The text has neither of the two letters with a rule of their own: no dotted capital I, and no
capital sigma that ends a word. -/
structure LowersByLetter (text : List Char) : Prop where
  /-- There is no dotted capital I. -/
  notDotted : 'İ' ∉ text
  /-- No capital sigma ends a word. -/
  notFinal : ¬ FinalSigmaBehind [] text

theorem finalSigmaBehind_cons {before rest : List Char} {c : Char} :
    FinalSigmaBehind before (c :: rest) ↔
      (c = 'Σ' ∧ nextIsCased before = true ∧ nextIsCased rest = false) ∨
        FinalSigmaBehind (c :: before) rest := by
  constructor
  · rintro ⟨front, behind, hText, hBefore, hBehind⟩
    cases front with
    | nil =>
        rw [List.nil_append, List.cons.injEq] at hText
        obtain ⟨rfl, rfl⟩ := hText
        exact Or.inl ⟨rfl, hBefore, hBehind⟩
    | cons x front =>
        rw [List.cons_append, List.cons.injEq] at hText
        obtain ⟨rfl, rfl⟩ := hText
        right
        refine ⟨front, behind, rfl, ?_, hBehind⟩
        rw [List.reverse_cons, List.append_assoc] at hBefore
        exact hBefore
  · rintro (⟨rfl, hBefore, hRest⟩ | ⟨front, behind, rfl, hBefore, hBehind⟩)
    · exact ⟨[], rest, rfl, hBefore, hRest⟩
    · refine ⟨c :: front, behind, rfl, ?_, hBehind⟩
      rw [List.reverse_cons, List.append_assoc]
      exact hBefore

/-! ## Lowercasing a text -/

/-- The letter that lowercasing a text makes of a character, other than a dotted capital I. -/
def lowerWithin (before : List Char) (c : Char) (rest : List Char) : Char :=
  if c = 'Σ' then if nextIsCased before && !nextIsCased rest then 'ς' else 'σ' else lowerLetter c

@[simp] theorem lowerAfter_cons_dotted (before rest : List Char) :
    lowerAfter before ('İ' :: rest) =
      'i' :: combiningDot :: lowerAfter ('İ' :: before) rest := rfl

@[simp] theorem lowerAfter_cons {c : Char} (hc : c ≠ 'İ') (before rest : List Char) :
    lowerAfter before (c :: rest) =
      lowerWithin before c rest :: lowerAfter (c :: before) rest := by
  rw [lowerAfter, lowerWithin]
  split
  · rfl
  · rw [lowerChar_of_ne_dotted hc]
    rfl

@[simp] theorem lowerWithin_of_ne {c : Char} (hc : c ≠ 'Σ') (before rest : List Char) :
    lowerWithin before c rest = lowerLetter c := if_neg hc

/-- Lowercasing keeps the kind of a character, wherever it stands. -/
theorem sameKind_lowerWithin (before : List Char) (c : Char) (rest : List Char) :
    SameKind c (lowerWithin before c rest) := by
  by_cases hSigma : c = 'Σ'
  · subst hSigma
    rw [lowerWithin, if_pos rfl]
    split <;> exact ⟨by decide +kernel, by decide, by decide⟩
  · rw [lowerWithin_of_ne hSigma]
    exact sameKind_lowerLetter c

/-- Without a sigma that ends a word, a text is lowercased character by character. -/
theorem lowerAfter_eq_flatMap (text : List Char) :
    ∀ before, ¬ FinalSigmaBehind before text →
      lowerAfter before text = text.flatMap lowerChar := by
  induction text with
  | nil =>
      intro before _
      rfl
  | cons c rest ih =>
      intro before hFinal
      rw [finalSigmaBehind_cons, not_or] at hFinal
      rw [lowerAfter, ih _ hFinal.2, List.flatMap_cons]
      by_cases hSigma : c = 'Σ'
      · subst hSigma
        have hOpen : ¬ ((nextIsCased before && !nextIsCased rest) = true) := by
          rw [Bool.and_eq_true, Bool.not_eq_true']
          exact fun hEnds => hFinal.1 ⟨rfl, hEnds⟩
        have hSmall : lowerChar 'Σ' = ['σ'] := by decide +kernel
        rw [if_pos rfl, if_neg hOpen, hSmall]
      · rw [if_neg hSigma]

/-- Without a dotted capital I either, every letter gets its own lowercase form. -/
theorem flatMap_lowerChar_eq_map {text : List Char} (h : 'İ' ∉ text) :
    text.flatMap lowerChar = text.map lowerLetter := by
  induction text with
  | nil => rfl
  | cons c rest ih =>
      rw [List.mem_cons, not_or] at h
      rw [List.flatMap_cons, lowerChar_of_ne_dotted (Ne.symm h.1), ih h.2, List.map_cons]
      rfl

/-- **Without exceptions a text is lowercased letter by letter.** -/
theorem lowerList_of_lowersByLetter {text : List Char} (h : LowersByLetter text) :
    lowerList text = text.map lowerLetter := by
  rw [lowerList, lowerAfter_eq_flatMap text [] h.notFinal, flatMap_lowerChar_eq_map h.notDotted]

/-! ## Traces of the exceptions -/

/-- A dotted capital I leaves its dot behind. -/
theorem mem_lowerAfter_of_dotted (text : List Char) :
    ∀ before, 'İ' ∈ text → combiningDot ∈ lowerAfter before text := by
  induction text with
  | nil =>
      intro before hMem
      exact absurd hMem List.not_mem_nil
  | cons c rest ih =>
      intro before hMem
      by_cases hc : c = 'İ'
      · subst hc
        rw [lowerAfter_cons_dotted]
        exact .tail _ (.head _)
      · rw [lowerAfter_cons hc]
        have hRest : 'İ' ∈ rest := by
          rcases List.mem_cons.mp hMem with hHere | hRest
          · exact absurd hHere.symm hc
          · exact hRest
        exact .tail _ (ih _ hRest)

/-- There is no dotted capital I in a lowercase form. -/
theorem dotted_not_mem_lowerAfter (text : List Char) :
    ∀ before, 'İ' ∉ lowerAfter before text := by
  induction text with
  | nil =>
      intro before
      exact List.not_mem_nil
  | cons c rest ih =>
      intro before
      by_cases hc : c = 'İ'
      · subst hc
        rw [lowerAfter_cons_dotted, List.mem_cons, List.mem_cons, not_or, not_or]
        exact ⟨by decide, by decide, ih _⟩
      · have hLetter : lowerWithin before c rest ≠ 'İ' := by
          by_cases hSigma : c = 'Σ'
          · subst hSigma
            rw [lowerWithin, if_pos rfl]
            split <;> decide
          · rw [lowerWithin_of_ne hSigma]
            exact lowerLetter_ne_dotted hc
        rw [lowerAfter_cons hc, List.mem_cons, not_or]
        exact ⟨Ne.symm hLetter, ih _⟩

/-- A letter that is no sigma of a text becomes a final sigma when it is one. -/
theorem count_final_lowerWithin (before : List Char) (c : Char) (rest : List Char) :
    [c].count 'ς' ≤ [lowerWithin before c rest].count 'ς' ∧
      (c = 'Σ' → nextIsCased before = true → nextIsCased rest = false →
        [c].count 'ς' < [lowerWithin before c rest].count 'ς') := by
  by_cases hSigma : c = 'Σ'
  · subst hSigma
    have hNone : ['Σ'].count 'ς' = 0 := by decide
    rw [hNone]
    refine ⟨Nat.zero_le _, ?_⟩
    intro _ hBefore hRest
    rw [lowerWithin, if_pos rfl, hBefore, hRest]
    decide
  · rw [lowerWithin_of_ne hSigma]
    refine ⟨?_, fun h => absurd h hSigma⟩
    by_cases hFinal : c = 'ς'
    · have hLowered := (lowerLetter_eq_final_iff c).mpr hFinal
      exact Nat.le_of_eq (by rw [hLowered, hFinal])
    · have hNone : [c].count 'ς' = 0 := by
        rw [List.count_eq_zero, List.mem_singleton]
        exact Ne.symm hFinal
      rw [hNone]
      exact Nat.zero_le _

/-- Final sigmas stay, and a capital sigma that ends a word becomes one more. -/
theorem count_final_lowerAfter (text : List Char) :
    ∀ before, text.count 'ς' ≤ (lowerAfter before text).count 'ς' ∧
      (FinalSigmaBehind before text →
        text.count 'ς' < (lowerAfter before text).count 'ς') := by
  induction text with
  | nil =>
      intro before
      refine ⟨Nat.le_refl _, ?_⟩
      rintro ⟨front, rest, hText, -⟩
      exact absurd hText (by simp)
  | cons c rest ih =>
      intro before
      obtain ⟨hLe, hLt⟩ := ih (c :: before)
      have hText : (c :: rest).count 'ς' = [c].count 'ς' + rest.count 'ς' := by
        rw [← List.count_append]
        rfl
      by_cases hc : c = 'İ'
      · subst hc
        have hDotted : ['İ'].count 'ς' = 0 := by decide
        have hLowered : (lowerAfter before ('İ' :: rest)).count 'ς' =
            (lowerAfter ('İ' :: before) rest).count 'ς' := by
          rw [lowerAfter_cons_dotted, List.count_cons_of_ne (by decide),
            List.count_cons_of_ne (by decide)]
        rw [hText, hDotted, hLowered, Nat.zero_add]
        refine ⟨hLe, ?_⟩
        intro hFinal
        rcases finalSigmaBehind_cons.mp hFinal with hHere | hRest
        · exact absurd hHere.1 (by decide)
        · exact hLt hRest
      · have hPiece := count_final_lowerWithin before c rest
        have hLowered : (lowerAfter before (c :: rest)).count 'ς' =
            [lowerWithin before c rest].count 'ς' + (lowerAfter (c :: before) rest).count 'ς' := by
          rw [lowerAfter_cons hc, ← List.count_append]
          rfl
        rw [hText, hLowered]
        refine ⟨by omega, ?_⟩
        intro hFinal
        rcases finalSigmaBehind_cons.mp hFinal with ⟨hSigma, hBefore, hRest⟩ | hBehind
        · have hMore := hPiece.2 hSigma hBefore hRest
          omega
        · have hMore := hLt hBehind
          omega

end StaffSearch.Text
