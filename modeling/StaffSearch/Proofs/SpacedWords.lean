import StaffSearch.Proofs.Digits
import StaffSearch.Proofs.Tokens

/-!
# Words and numerals with spaces between them

A query that is put together from pieces with single spaces between them has the tokens of its
pieces (`wordsOf_intercalate`), because a space ends every token.  So it is enough to know the
tokens of one piece, and blanks at its ends do not matter (`stems_trim`).

* A word of ASCII letters is one token, its lowercase form, and no numeral.
* A numeral is one token, its digits, also where commas set off groups of three of them
  (`Spelling`).  It has the value of its digits, or of so many thousands with a `k` behind them, and
  it is its own stem.
-/

namespace StaffSearch.Query

open StaffSearch.Text

/-! ## Texts of tokens -/

/-- The texts of the tokens of a text. -/
def wordsOf (text : String) : List String := (tokenize text).map (·.text)

theorem stem_of_mem_scan (text : List Char) :
    ∀ (position : Nat) (token : Option OpenToken),
      ∀ found ∈ scan position token text, found.stem = stem found.text := by
  have hClose : ∀ (position : Nat) (token : Option OpenToken),
      ∀ found ∈ OpenToken.close position token, found.stem = stem found.text := by
    intro position token found hMem
    cases token with
    | none => exact absurd hMem List.not_mem_nil
    | some token =>
        rw [List.mem_singleton.mp hMem]
        rfl
  induction text with
  | nil => exact hClose
  | cons c rest ih =>
      intro position token found hMem
      rw [scan_cons] at hMem
      split at hMem
      · exact ih _ _ found hMem
      · split at hMem
        · exact ih _ _ found hMem
        · rcases List.mem_append.mp hMem with hClosed | hLater
          · exact hClose position token found hClosed
          · exact ih _ _ found hLater

/-- Every token of a text carries the stem of its own text. -/
theorem stem_of_mem_tokenize {text : String} {token : Token} (h : token ∈ tokenize text) :
    token.stem = stem token.text :=
  stem_of_mem_scan text.toList 0 none token h

/-! ## Spaces -/

/-- A blank character cuts a text in two. -/
theorem map_text_append_blank {c : Char} (hc : isBlank c = true) (piece rest : List Char) :
    (tokenizeList (piece ++ c :: rest)).map (·.text) =
      (tokenizeList piece).map (·.text) ++ (tokenizeList rest).map (·.text) := by
  have hNoComma : c ≠ ',' := by
    intro h
    subst h
    exact absurd hc (by decide)
  rw [tokenizeList_append_separator (isAlphanumeric_eq_false_of_isBlank hc) hNoComma,
    List.map_append, List.map_map]
  rfl

theorem wordsOf_append_space (a b : String) :
    wordsOf (a ++ " " ++ b) = wordsOf a ++ wordsOf b := by
  have hSplit : (a ++ " " ++ b).toList = a.toList ++ ' ' :: b.toList := by simp
  rw [wordsOf, tokenize, hSplit, map_text_append_blank (by decide)]
  rfl

/-- **Pieces with single spaces between them have the tokens of the pieces.** -/
theorem wordsOf_intercalate (pieces : List String) :
    wordsOf (" ".intercalate pieces) = pieces.flatMap wordsOf := by
  induction pieces with
  | nil => rfl
  | cons piece pieces ih =>
      cases pieces with
      | nil => simp [String.intercalate_singleton]
      | cons next pieces =>
          have hSplit : " ".intercalate (piece :: next :: pieces) =
              piece ++ " " ++ " ".intercalate (next :: pieces) := by
            simp
          rw [List.flatMap_cons, ← ih, hSplit, wordsOf_append_space]

/-! ## Stems and blanks -/

theorem stems_eq_map_stem (text : String) : stems text = (wordsOf text).map stem := by
  rw [stems, wordsOf, List.map_map]
  apply List.map_congr_left
  intro token hMem
  exact stem_of_mem_tokenize hMem

/-- A text with a letter or number has a stem. -/
theorem stems_ne_nil {text : String} (h : ∃ c ∈ text.toList, isAlphanumeric c = true) :
    stems text ≠ [] := by
  intro hNone
  obtain ⟨c, hMem, hc⟩ := h
  rw [(tokenize_eq_nil_iff text).mp (List.map_eq_nil_iff.mp hNone) c hMem] at hc
  exact absurd hc (by decide)

/-- **The stems on both sides of a space** are read independently. -/
theorem stems_append_space (a b : String) : stems (a ++ " " ++ b) = stems a ++ stems b := by
  rw [stems_eq_map_stem, stems_eq_map_stem, stems_eq_map_stem, wordsOf_append_space,
    List.map_append]

theorem map_text_trimStart (text : List Char) :
    (tokenizeList (trimStart text)).map (·.text) = (tokenizeList text).map (·.text) := by
  induction text with
  | nil => rfl
  | cons c rest ih =>
      by_cases hc : isBlank c = true
      · have hStep : trimStart (c :: rest) = trimStart rest := List.dropWhile_cons_of_pos hc
        have hCut := map_text_append_blank hc [] rest
        rw [hStep, ih]
        exact hCut.symm
      · rw [trimStart_cons (Bool.eq_false_iff.mpr hc)]

theorem map_text_trimEnd (text : List Char) :
    (tokenizeList (trimEnd text)).map (·.text) = (tokenizeList text).map (·.text) := by
  have hSplit : trimEnd text ++ (text.reverse.takeWhile isBlank).reverse = text := by
    rw [trimEnd, trimStart, ← List.reverse_append, List.takeWhile_append_dropWhile,
      List.reverse_reverse]
  have hBlank : ∀ c ∈ (text.reverse.takeWhile isBlank).reverse, isBlank c = true := by
    intro c hMem
    exact List.all_eq_true.mp List.all_takeWhile c (List.mem_reverse.mp hMem)
  cases hBehind : (text.reverse.takeWhile isBlank).reverse with
  | nil =>
      rw [hBehind, List.append_nil] at hSplit
      rw [hSplit]
  | cons c behind =>
      rw [hBehind] at hSplit hBlank
      have hNone : tokenizeList behind = [] := by
        apply (scan_none_eq_nil_iff behind 0).mpr
        intro d hMem
        exact isAlphanumeric_eq_false_of_isBlank (hBlank d (List.mem_cons_of_mem c hMem))
      have hCut := map_text_append_blank (hBlank c List.mem_cons_self) (trimEnd text) behind
      rw [hSplit, hNone, List.map_nil, List.append_nil] at hCut
      exact hCut.symm

/-- Trimming a text keeps its stems. -/
theorem stems_trim (text : String) : stems (trim text) = stems text := by
  rw [stems_eq_map_stem, stems_eq_map_stem, wordsOf, wordsOf, tokenize, tokenize, trim,
    String.toList_ofList, trimList, map_text_trimEnd, map_text_trimStart]

/-! ## Words of letters -/

theorem runText_of_ascii {run : List Char} (h : ∀ c ∈ run, c.toNat < 128) :
    runText run = run.map lowerAscii := by
  induction run with
  | nil => rfl
  | cons c run ih =>
      rw [runText_cons, lowerChar_of_lt (h c List.mem_cons_self),
        ih fun x hMem => h x (List.mem_cons_of_mem _ hMem)]
      rfl

/-- A run of letters and numbers is one token. -/
theorem tokenizeList_run {run : List Char} (hSome : run ≠ [])
    (hRun : ∀ c ∈ run, isAlphanumeric c = true) :
    (tokenizeList run).map (·.text) = [String.ofList (runText run)] := by
  have hScan := scan_run hSome hRun (tokenEnds_nil _) 0
  rw [List.append_nil] at hScan
  rw [tokenizeList, hScan]
  rfl

/-- **A word of ASCII letters is one token**, its lowercase form. -/
theorem wordsOf_of_letters {word : String} (hSome : word ≠ "")
    (hLetters : ∀ c ∈ word.toList, isAsciiLetter c = true) : wordsOf word = [lowercase word] := by
  have hList : word.toList ≠ [] := by
    intro hNil
    exact hSome (String.toList_eq_nil_iff.mp hNil)
  have hAscii : ∀ c ∈ word.toList, c.toNat < 128 := fun c hMem =>
    toNat_lt_of_isAsciiLetter (hLetters c hMem)
  rw [wordsOf, tokenize, tokenizeList_run hList fun c hMem =>
    isAlphanumeric_of_isAsciiLetter (hLetters c hMem), runText_of_ascii hAscii, lowercase,
    lowerList_of_isAsciiText hAscii]

/-- A word of ASCII letters is no numeral. -/
theorem numeralOf?_of_letters {text : List Char} (hLetters : ∀ c ∈ text, isAsciiLetter c = true) :
    numeralOf? text = none := by
  have hNone : ∀ (digits : List Char) (unit : Nat), (∀ c ∈ digits, isAsciiLetter c = true) →
      (if digits.isEmpty || !digits.all isAsciiDigit then none
        else if Word.fitsUnsigned 63 (decimalValue digits * unit) then
          some (decimalValue digits * unit)
        else none) = none := by
    intro digits unit hAll
    rw [if_pos]
    cases digits with
    | nil => rfl
    | cons c digits =>
        rw [List.all_cons, isAsciiDigit_eq_false_of_letter (hAll c List.mem_cons_self)]
        rfl
  unfold numeralOf?
  cases hThousands : beforeEnd? ['k'] text with
  | none => exact hNone text 1 hLetters
  | some digits =>
      have hSplit := (beforeEnd?_eq_some_iff _ _ _).mp hThousands
      apply hNone digits 1000
      intro c hMem
      apply hLetters
      rw [hSplit]
      exact List.mem_append_left _ hMem

theorem isAsciiLetter_lowerAscii {c : Char} (h : isAsciiLetter c = true) :
    isAsciiLetter (lowerAscii c) = true := by
  have hRange := isAsciiLetter_iff.mp h
  rw [isAsciiLetter_iff, toNat_lowerAscii]
  split <;> omega

theorem numeralOf?_lowercase {word : String}
    (hLetters : ∀ c ∈ word.toList, isAsciiLetter c = true) :
    numeralOf? (lowercase word).toList = none := by
  have hAscii : IsAsciiText word := fun c hMem => toNat_lt_of_isAsciiLetter (hLetters c hMem)
  rw [lowercase, String.toList_ofList, lowerList_of_isAsciiText hAscii]
  apply numeralOf?_of_letters
  intro c hMem
  obtain ⟨d, hLetter, rfl⟩ := List.mem_map.mp hMem
  exact isAsciiLetter_lowerAscii (hLetters d hLetter)

/-! ## Numerals -/

/-- A numeral as it is spelled: some digits, and groups of three digits behind a comma each. -/
structure Spelling where
  head : List Char
  groups : List (List Char)
  head_ne_nil : head ≠ []
  head_digits : ∀ c ∈ head, isAsciiDigit c = true
  groups_digits : ∀ group ∈ groups, group.length = 3 ∧ ∀ c ∈ group, isAsciiDigit c = true

namespace Spelling

variable (spelling : Spelling)

/-- The digits of the numeral. -/
def digits : List Char := spelling.head ++ spelling.groups.flatten

/-- The text of the numeral. -/
def text : String := String.ofList (spelling.head ++ spelling.groups.flatMap (',' :: ·))

/-- The value of the numeral. -/
def value : Nat := decimalValue spelling.digits

theorem isAsciiDigit_of_mem_digits {c : Char} (h : c ∈ spelling.digits) :
    isAsciiDigit c = true := by
  rcases List.mem_append.mp h with hHead | hGroups
  · exact spelling.head_digits c hHead
  · obtain ⟨group, hGroup, hMem⟩ := List.mem_flatten.mp hGroups
    exact (spelling.groups_digits group hGroup).2 c hMem

theorem exists_digits_cons :
    ∃ c rest, spelling.digits = c :: rest ∧ isAsciiDigit c = true := by
  obtain ⟨c, rest, hHead⟩ := List.exists_cons_of_ne_nil spelling.head_ne_nil
  refine ⟨c, rest ++ spelling.groups.flatten, ?_, ?_⟩
  · rw [digits, hHead, List.cons_append]
  · apply spelling.head_digits
    rw [hHead]
    exact List.mem_cons_self

theorem digits_ne_nil : spelling.digits ≠ [] := by
  obtain ⟨c, rest, hDigits, -⟩ := spelling.exists_digits_cons
  rw [hDigits]
  exact List.cons_ne_nil c rest

end Spelling

theorem runText_of_digits {run : List Char} (h : ∀ c ∈ run, isAsciiDigit c = true) :
    runText run = run := by
  have hAscii : ∀ c ∈ run, c.toNat < 128 := by
    intro c hMem
    have hRange := isAsciiDigit_iff.mp (h c hMem)
    omega
  have hSame : run.map lowerAscii = run.map id :=
    List.map_congr_left fun c hMem => lowerAscii_of_digit (h c hMem)
  rw [runText_of_ascii hAscii, hSame, List.map_id]

/-- A group of three digits that no digit follows. -/
theorem startsDigitGroup_of_group {group rest : List Char} (hLength : group.length = 3)
    (hDigits : ∀ c ∈ group, isAsciiDigit c = true) (hStop : StopsDigits rest) :
    startsDigitGroup (group ++ rest) = true := by
  match group, hLength with
  | [a, b, c], _ =>
      have hEnd : rest.head?.any isAsciiDigit = false := by
        cases rest with
        | nil => rfl
        | cons d rest => exact hStop d rfl
      simp [startsDigitGroup, hEnd, hDigits a, hDigits b, hDigits c]

/-- Groups of digits are added to the digits under way, their commas are not. -/
theorem scan_groups {rest : List Char} (hRest : StopsDigits rest) (groups : List (List Char)) :
    ∀ (position : Nat) (token : OpenToken), (∀ c ∈ token.text, isAsciiDigit c = true) →
      (∀ group ∈ groups, group.length = 3 ∧ ∀ c ∈ group, isAsciiDigit c = true) →
        scan position (some token) (groups.flatMap (',' :: ·) ++ rest) =
          scan (position + byteLength (groups.flatMap (',' :: ·)))
            (some { token with text := token.text ++ groups.flatten }) rest := by
  -- on the groups; the text of the token under way stays made of digits, as its commas want it
  induction groups with
  | nil =>
      intro position token _ _
      rw [List.flatten_nil, List.append_nil]
      rfl
  | cons group groups ih =>
      intro position token hText hGroups
      obtain ⟨hLength, hDigits⟩ := hGroups group List.mem_cons_self
      have hStop : StopsDigits (groups.flatMap (',' :: ·) ++ rest) := by
        cases groups with
        | nil => exact hRest
        | cons next groups => exact stopsDigits_cons (by decide)
      have hOn : OpenToken.continuesAt (group ++ (groups.flatMap (',' :: ·) ++ rest))
          (some token) = true := by
        rw [OpenToken.continuesAt, List.all_eq_true.mpr hText,
          startsDigitGroup_of_group hLength hDigits hStop]
        rfl
      have hMore : ∀ c ∈ token.text ++ group, isAsciiDigit c = true := by
        intro c hMem
        cases List.mem_append.mp hMem with
        | inl hOld => exact hText c hOld
        | inr hNew => exact hDigits c hNew
      have hComma : isAlphanumeric ',' = false := by decide +kernel
      rw [List.flatMap_cons, List.cons_append, List.cons_append, List.append_assoc, scan_cons,
        if_neg (by rw [hComma]; decide), if_pos ⟨rfl, hOn⟩,
        scan_some_append _ _ _ _ fun c hMem => isAlphanumeric_of_isAsciiDigit (hDigits c hMem),
        runText_of_digits hDigits, ih _ _ hMore fun other hMem =>
          hGroups other (List.mem_cons_of_mem _ hMem), List.flatten_cons, List.append_assoc]
      simp [Nat.add_assoc]

/-- **A numeral is read as one token**, which is still under way behind it. -/
theorem scan_spelling {rest : List Char} (hRest : StopsDigits rest) (spelling : Spelling)
    (position : Nat) :
    scan position none (spelling.text.toList ++ rest) =
      scan (position + byteLength spelling.text.toList) (some ⟨position, spelling.digits⟩)
        rest := by
  have hRun : ∀ c ∈ spelling.head, isAlphanumeric c = true := fun c hMem =>
    isAlphanumeric_of_isAsciiDigit (spelling.head_digits c hMem)
  rw [Spelling.text, String.toList_ofList, List.append_assoc,
    scan_none_append spelling.head_ne_nil hRun, runText_of_digits spelling.head_digits,
    scan_groups hRest spelling.groups _ _ spelling.head_digits spelling.groups_digits,
    byteLength_append, Nat.add_assoc]
  rfl

/-- **A numeral is one token**, its digits. -/
theorem wordsOf_spelling (spelling : Spelling) :
    wordsOf spelling.text = [String.ofList spelling.digits] := by
  have hScan := scan_spelling stopsDigits_nil spelling 0
  rw [List.append_nil] at hScan
  rw [wordsOf, tokenize, tokenizeList, hScan]
  rfl

theorem numeral_of_digits {digits : List Char} (hSome : digits ≠ [])
    (hDigits : ∀ c ∈ digits, isAsciiDigit c = true) (unit : Nat) :
    (if digits.isEmpty || !digits.all isAsciiDigit then none
      else if Word.fitsUnsigned 63 (decimalValue digits * unit) then
        some (decimalValue digits * unit)
      else none) =
      if decimalValue digits * unit < Word.count 63 then some (decimalValue digits * unit)
      else none := by
  rw [List.all_eq_true.mpr hDigits, List.isEmpty_eq_false_iff.mpr hSome]
  simp only [Bool.not_true, Bool.or_self, Bool.false_eq_true, if_false, Word.fitsUnsigned_iff]

/-- **A numeral has the value of its digits**, if that fits a signed 64-bit word. -/
theorem numeralOf?_spelling (spelling : Spelling) :
    numeralOf? spelling.digits =
      if spelling.value < Word.count 63 then some spelling.value else none := by
  have hNoUnit : beforeEnd? ['k'] spelling.digits = none := by
    cases hThousands : beforeEnd? ['k'] spelling.digits with
    | none => rfl
    | some front =>
        have hSplit := (beforeEnd?_eq_some_iff _ _ _).mp hThousands
        have hDigit : isAsciiDigit 'k' = true := by
          apply spelling.isAsciiDigit_of_mem_digits
          rw [hSplit]
          exact List.mem_append_right _ List.mem_cons_self
        exact absurd hDigit (by decide)
  have hValue := numeral_of_digits spelling.digits_ne_nil
    (fun c hMem => spelling.isAsciiDigit_of_mem_digits hMem) 1
  rw [Nat.mul_one] at hValue
  rw [numeralOf?, hNoUnit]
  simp only [Nat.mul_one]
  exact hValue

/-- With a `k` behind them the digits count thousands. -/
theorem numeralOf?_thousands (spelling : Spelling) :
    numeralOf? (spelling.digits ++ ['k']) =
      if spelling.value * 1000 < Word.count 63 then some (spelling.value * 1000) else none := by
  have hUnit : beforeEnd? ['k'] (spelling.digits ++ ['k']) = some spelling.digits :=
    (beforeEnd?_eq_some_iff _ _ _).mpr rfl
  rw [numeralOf?, hUnit]
  exact numeral_of_digits spelling.digits_ne_nil
    (fun c hMem => spelling.isAsciiDigit_of_mem_digits hMem) 1000

/-- A numeral is its own stem. -/
theorem stem_spelling (spelling : Spelling) :
    stem (String.ofList spelling.digits) = String.ofList spelling.digits := by
  have hNotStemmable : isStemmable spelling.digits = false := by
    obtain ⟨c, rest, hDigits, hDigit⟩ := spelling.exists_digits_cons
    have hNoLetter : isAsciiLetter c = false := by
      rw [Bool.eq_false_iff]
      intro hLetter
      rw [isAsciiDigit_eq_false_of_letter hLetter] at hDigit
      exact absurd hDigit (by decide)
    rw [hDigits, isStemmable, List.all_cons, hNoLetter, Bool.false_and, Bool.and_false]
  have hNothing : stripOnce? spelling.digits = none := by
    rw [stripOnce?, hNotStemmable]
    rfl
  rw [stem, String.toList_ofList, stemList_of_none hNothing]

end StaffSearch.Query
