import StaffSearch.Proofs.BlockedForms
import StaffSearch.Proofs.JoinedQueries
import StaffSearch.Proofs.WordContents

/-!
# Blocked terms and their own spellings

A term is blocked by one stem, which is taken of its lowercase form as a whole.  A query is cut into
tokens first, and the stems of single tokens are looked up.  So a term can block no more than one
token, and the question is when its own spelling has that token (`blockedStem_mem_stems_iff`).

* A term of letters and numbers is one token.  Its lowercase form is the text of that token, unless
  a capital sigma ends it: the text gets a small sigma and the lowercase form a final one.
* A term with any other character in it, be it a space, a hyphen or a comma between digits, is
  blocked by a stem that is longer than every token of it, since tokens leave that character out.

A term of the second kind blocks nothing by itself.  Its spelling is refused only where another
term blocks one of its tokens (`blocked_by_own_spelling_iff`).
-/

namespace StaffSearch.Query

open StaffSearch.Text

/-! ## Lengths of tokens and stems -/

theorem length_stemList_le (word : List Char) : (stemList word).length ≤ word.length := by
  fun_induction stemList word with
  | case1 word next hStrip ih =>
      have hShorter := length_lt_of_stripOnce? hStrip
      omega
  | case2 word hStrip => exact Nat.le_refl _

/-- A token is no longer than the lowercase forms of the letters and numbers of its text. -/
theorem length_text_le {text : String} {token : Token} (h : token ∈ tokenize text) :
    token.text.toList.length ≤ (runText (text.toList.filter isAlphanumeric)).length := by
  have hMem : token.text.toList ∈ (tokenize text).map (·.text.toList) := List.mem_map_of_mem h
  rw [← flatMap_text_tokenize, List.flatMap_def]
  exact (List.sublist_flatten_of_mem hMem).length_le

theorem length_runText_filter_le (text : List Char) :
    (runText (text.filter isAlphanumeric)).length ≤ (runText text).length := by
  induction text with
  | nil => exact Nat.le_refl _
  | cons c rest ih =>
      rw [runText_cons, List.length_append]
      by_cases hc : isAlphanumeric c = true
      · rw [List.filter_cons_of_pos hc, runText_cons, List.length_append]
        omega
      · rw [List.filter_cons_of_neg hc]
        omega

theorem length_lowerChar_pos (c : Char) : 0 < (lowerChar c).length := by
  by_cases hc : c = 'İ'
  · subst hc
    decide
  · rw [lowerChar_of_ne_dotted hc]
    exact Nat.one_pos

/-- Leaving a character out makes a text shorter. -/
theorem length_runText_filter_lt {text : List Char} {c : Char} (hMem : c ∈ text)
    (hc : isAlphanumeric c = false) :
    (runText (text.filter isAlphanumeric)).length < (runText text).length := by
  obtain ⟨front, behind, rfl⟩ := List.append_of_mem hMem
  have hFront := length_runText_filter_le front
  have hBehind := length_runText_filter_le behind
  have hHere := length_lowerChar_pos c
  rw [List.filter_append, List.filter_cons_of_neg (by rw [hc]; decide)]
  simp only [runText, List.flatMap_append, List.flatMap_cons, List.length_append] at *
  omega

/-- Lowercasing a text as a whole makes no difference to its length. -/
theorem length_lowerAfter (text : List Char) :
    ∀ before, (lowerAfter before text).length = (runText text).length := by
  induction text with
  | nil =>
      intro before
      rfl
  | cons c rest ih =>
      intro before
      rw [lowerAfter, runText_cons, List.length_append, List.length_append, ih]
      by_cases hSigma : c = 'Σ'
      · have hOne : (lowerChar 'Σ').length = 1 := by decide +kernel
        rw [if_pos hSigma, hSigma, hOne]
        rfl
      · rw [if_neg hSigma]

/-! ## Tokens are not empty -/

theorem text_ne_empty_of_mem_scan (text : List Char) :
    ∀ (position : Nat) (token : Option OpenToken), (∀ started ∈ token, started.text ≠ []) →
      ∀ found ∈ scan position token text, found.text ≠ "" := by
  have hClose : ∀ (position : Nat) (token : Option OpenToken),
      (∀ started ∈ token, started.text ≠ []) →
        ∀ found ∈ OpenToken.close position token, found.text ≠ "" := by
    intro position token hToken found hMem
    cases token with
    | none => exact absurd hMem List.not_mem_nil
    | some started =>
        rw [List.mem_singleton.mp hMem]
        intro hEmpty
        exact hToken started rfl (String.ofList_eq_empty_iff.mp hEmpty)
  induction text with
  | nil => exact hClose
  | cons c rest ih =>
      intro position token hToken found hMem
      rw [scan_cons] at hMem
      split at hMem
      · refine ih _ _ ?_ found hMem
        intro started hStarted
        have hLower := List.ne_nil_of_length_pos (length_lowerChar_pos c)
        cases hStarted
        cases token with
        | none => exact hLower
        | some before => exact List.append_ne_nil_of_right_ne_nil _ hLower
      · split at hMem
        · exact ih _ _ hToken found hMem
        · rcases List.mem_append.mp hMem with hClosed | hLater
          · exact hClose position token hToken found hClosed
          · exact ih _ none (fun _ hNone => absurd hNone (by simp)) found hLater

theorem ne_empty_of_mem_stems {text word : String} (h : word ∈ stems text) : word ≠ "" := by
  obtain ⟨token, hMem, rfl⟩ := List.mem_map.mp h
  have hText := text_ne_empty_of_mem_scan text.toList 0 none (fun _ hNone => absurd hNone (by simp))
    token hMem
  rw [stem_of_mem_tokenize hMem, stem]
  intro hEmpty
  exact stemList_ne_nil (fun hNil => hText (String.toList_eq_nil_iff.mp hNil))
    (String.ofList_eq_empty_iff.mp hEmpty)

/-! ## The stem by which a term is blocked -/

/-- The text is one word: letters and numbers throughout, and no capital sigma at the end of the
letters. -/
structure IsOneWord (text : List Char) : Prop where
  /-- Every character is a letter or a number. -/
  letters : ∀ c ∈ text, isAlphanumeric c = true
  /-- No capital sigma gets the final form. -/
  notFinal : ¬ FinalSigmaBehind [] text

/-- Lowercasing leaves a character that is no letter and no number as one. -/
theorem exists_separator_lowerAfter {c : Char} (hc : isAlphanumeric c = false) (text : List Char) :
    ∀ before, c ∈ text → ∃ d ∈ lowerAfter before text, isAlphanumeric d = false := by
  induction text with
  | nil =>
      intro before hMem
      exact absurd hMem List.not_mem_nil
  | cons x rest ih =>
      intro before hMem
      rcases List.mem_cons.mp hMem with rfl | hRest
      · have hDotted : c ≠ 'İ' := by
          rintro rfl
          exact absurd hc (by decide +kernel)
        refine ⟨lowerWithin before c rest, ?_, ?_⟩
        · rw [lowerAfter_cons hDotted]
          exact List.mem_cons_self
        · rw [(sameKind_lowerWithin before c rest).alphanumeric, hc]
      · obtain ⟨d, hLowered, hd⟩ := ih (x :: before) hRest
        exact ⟨d, List.mem_append_right _ hLowered, hd⟩

/-- **A term with a separator in it is blocked by no token of its own**: the stem by which it is
blocked is longer than each of them. -/
theorem blockedStem_not_mem_stems {term : String} {c : Char} (hMem : c ∈ (trim term).toList)
    (hc : isAlphanumeric c = false) : blockedStem term ∉ stems (trim term) := by
  intro hStem
  obtain ⟨token, hToken, hSame⟩ := List.mem_map.mp hStem
  obtain ⟨d, hLowered, hd⟩ := exists_separator_lowerAfter hc _ [] hMem
  have hLetter : isAsciiLetter d = false := by
    rw [Bool.eq_false_iff]
    intro hLetter
    rw [isAlphanumeric_of_isAsciiLetter hLetter] at hd
    exact absurd hd (by decide)
  have hWhole : (blockedStem term).toList = lowerList (trim term).toList := by
    rw [blockedStem, stem, lowercase, String.toList_ofList, String.toList_ofList,
      lowerList, stemList_eq_self hLowered hLetter]
  have hLength : (blockedStem term).toList.length ≤ token.text.toList.length := by
    rw [← hSame, stem_of_mem_tokenize hToken, stem, String.toList_ofList]
    exact length_stemList_le _
  have hToken := length_text_le hToken
  have hShorter := length_runText_filter_lt hMem hc
  rw [hWhole, lowerList, length_lowerAfter] at hLength
  omega

/-- A term of letters and numbers is one token, with the stem of its characters one by one. -/
theorem stems_of_letters {text : String} (hSome : text.toList ≠ [])
    (hLetters : ∀ c ∈ text.toList, isAlphanumeric c = true) :
    stems text = [stem (String.ofList (runText text.toList))] := by
  rw [stems_eq_map_stem, wordsOf, tokenize, tokenizeList_run hSome hLetters]
  rfl

/-- **A term is blocked by a token of its own** exactly when it is one word, blanks around it not
counting. -/
theorem blockedStem_mem_stems_iff {term : String}
    (hSome : ∃ c ∈ term.toList, isAlphanumeric c = true) :
    blockedStem term ∈ stems term ↔ IsOneWord (trim term).toList := by
  have hStems := stems_ne_nil hSome
  rw [← stems_trim] at hStems ⊢
  have hText : (trim term).toList ≠ [] := by
    intro hNil
    apply hStems
    rw [String.toList_eq_nil_iff.mp hNil]
    rfl
  constructor
  · intro hOwn
    have hLetters : ∀ c ∈ (trim term).toList, isAlphanumeric c = true := by
      intro c hMem
      cases hc : isAlphanumeric c with
      | true => rfl
      | false => exact absurd hOwn (blockedStem_not_mem_stems hMem hc)
    refine ⟨hLetters, ?_⟩
    intro hFinal
    -- the final sigma can be counted in both stems, and one of them has more than the other
    rw [stems_of_letters hText hLetters, List.mem_singleton, blockedStem] at hOwn
    have hCount := congrArg (fun word : String => word.toList.count 'ς') hOwn
    simp only [count_stem (c := 'ς') (by decide), lowercase, String.toList_ofList,
      count_final_runText] at hCount
    have hMore := (count_final_lowerAfter (trim term).toList []).2 hFinal
    rw [← lowerList] at hMore
    omega
  · intro hWord
    rw [stems_of_letters hText hWord.letters, List.mem_singleton, blockedStem, lowercase, lowerList,
      lowerAfter_eq_flatMap _ _ hWord.notFinal]
    rfl

/-! ## What is refused -/

section Compiling

variable {settings : CompilerSettings} {compiler : Compiler} {term : String}

/-- A text is refused between any two texts exactly when the gate blocks one of its own tokens. -/
theorem rejected_between_iff (hCompiler : Compiler.ofSettings settings = .ok compiler)
    (text : String) :
    (∀ (a b : String) (now : Instant), ∃ shown,
      compiler.compile (a ++ " " ++ text ++ " " ++ b) now = .error (.rejected shown)) ↔
      ∃ stem ∈ stems text, stem ∈ compiler.gate.blocked := by
  have hBetween : ∀ a b : String,
      stems (a ++ " " ++ text ++ " " ++ b) = stems a ++ stems text ++ stems b := by
    intro a b
    rw [stems_append_space, stems_append_space]
  constructor
  · intro hRejected
    obtain ⟨stem, hMem, hBlocked⟩ :=
      (exists_rejected_iff_stems hCompiler _ Instant.epoch).mp (hRejected "" "" Instant.epoch)
    have hAlone : stems "" ++ stems text ++ stems "" = stems text := by
      show [] ++ stems text ++ [] = stems text
      simp
    rw [hBetween, hAlone] at hMem
    exact ⟨stem, hMem, hBlocked⟩
  · rintro ⟨stem, hMem, hBlocked⟩ a b now
    apply (exists_rejected_iff_stems hCompiler _ now).mpr
    rw [hBetween]
    exact ⟨stem, List.mem_append_left _ (List.mem_append_right _ hMem), hBlocked⟩

/--
**Which blocked terms are effective.**  A term that the settings block refuses every query that it
stands in between spaces exactly when it is one word, or when some other blocked term blocks one of
its tokens.
-/
theorem blocked_by_own_spelling_iff (hCompiler : Compiler.ofSettings settings = .ok compiler)
    (hTerm : term ∈ settings.blockedTerms) (hSome : ∃ c ∈ term.toList, isAlphanumeric c = true) :
    (∀ (a b : String) (now : Instant), ∃ shown,
      compiler.compile (a ++ " " ++ term ++ " " ++ b) now = .error (.rejected shown)) ↔
      IsOneWord (trim term).toList ∨
        ∃ other ∈ alwaysBlocked ++ settings.blockedTerms,
          other ≠ term ∧ blockedStem other ∈ stems term := by
  rw [rejected_between_iff hCompiler, Compiler.gate_eq_of_ofSettings hCompiler,
    ← blockedStem_mem_stems_iff hSome]
  constructor
  · rintro ⟨stem, hMem, hBlocked⟩
    obtain ⟨other, hOther, rfl, -⟩ := Gate.mem_blocked_iff.mp hBlocked
    by_cases hSame : other = term
    · exact Or.inl (hSame ▸ hMem)
    · exact Or.inr ⟨other, hOther, hSame, hMem⟩
  · rintro (hOwn | ⟨other, hOther, -, hMem⟩)
    · exact ⟨_, hOwn, Gate.mem_blocked_iff.mpr
        ⟨term, List.mem_append_right _ hTerm, rfl, ne_empty_of_mem_stems hOwn⟩⟩
    · exact ⟨_, hMem, Gate.mem_blocked_iff.mpr ⟨other, hOther, rfl, ne_empty_of_mem_stems hMem⟩⟩

/-- A term with a dotted capital I, an accent and a number, and blanks around it. -/
theorem blocked_by_own_spelling_dotted :
    ∃ compiler, Compiler.ofSettings { blockedTerms := ["bonus", " İşÉ42 "] } = .ok compiler ∧
      ∀ (a b : String) (now : Instant), ∃ shown,
        compiler.compile (a ++ " " ++ " İşÉ42 " ++ " " ++ b) now = .error (.rejected shown) := by
  obtain ⟨compiler, hCompiler⟩ :=
    Compiler.exists_ofSettings { blockedTerms := ["bonus", " İşÉ42 "] } (by decide)
  have hSome : ∃ c ∈ " İşÉ42 ".toList, isAlphanumeric c = true :=
    ⟨'É', by decide, by decide +kernel⟩
  have hWord : IsOneWord (trim " İşÉ42 ").toList := by
    have hText : (trim " İşÉ42 ").toList = ['İ', 'ş', 'É', '4', '2'] := by decide +kernel
    have hLetters : ['İ', 'ş', 'É', '4', '2'].all isAlphanumeric = true := by decide +kernel
    rw [hText]
    refine ⟨List.all_eq_true.mp hLetters, ?_⟩
    rintro ⟨front, rest, hSplit, -⟩
    have hSigma : 'Σ' ∈ ['İ', 'ş', 'É', '4', '2'] := by
      rw [hSplit]
      exact List.mem_append_right front List.mem_cons_self
    exact absurd hSigma (by decide)
  exact ⟨compiler, hCompiler,
    (blocked_by_own_spelling_iff hCompiler (by decide) hSome).mpr (Or.inl hWord)⟩

/-- A term of two words is blocked, and the query that consists of it is let through. -/
theorem not_blocked_by_two_words :
    ∃ compiler, Compiler.ofSettings { blockedTerms := ["social security"] } = .ok compiler ∧
      ∀ now shown, compiler.compile ("" ++ " " ++ "social security" ++ " " ++ "") now ≠
        .error (.rejected shown) := by
  obtain ⟨compiler, hCompiler⟩ :=
    Compiler.exists_ofSettings { blockedTerms := ["social security"] } (by decide)
  refine ⟨compiler, hCompiler, ?_⟩
  intro now shown hRejected
  have hBlocked := (exists_rejected_iff_stems hCompiler _ now).mp ⟨shown, hRejected⟩
  rw [Compiler.gate_eq_of_ofSettings hCompiler] at hBlocked
  exact absurd hBlocked (by decide +kernel)

end Compiling

end StaffSearch.Query
