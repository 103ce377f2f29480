import StaffSearch.Proofs.Compilation
import StaffSearch.Proofs.Inflection

/-!
# Inflections of blocked verbs are blocked

A blocked term refuses every query that one of its regular forms stands alone in, in small letters
or capitals and whatever the rest of the query is (`compile_rejects_regular_form`).

Two things meet here.  The form is a token of the query, since no letter or number touches it and
no comma joins letters.  And the stem of that token is the stem of the term, by which the term is
blocked.
-/

namespace StaffSearch.Query

open StaffSearch.Text

/-! ## Words that stand alone -/

/-- `form` stands in `text`, in any case of its letters and with no letter or number on either
side. -/
def StandsAlone (form text : List Char) : Prop :=
  ∃ before spelled after, text = before ++ (spelled ++ after) ∧ spelled.map lowerAscii = form ∧
    (∀ front c, before = front ++ [c] → isAlphanumeric c = false) ∧
      ∀ c behind, after = c :: behind → isAlphanumeric c = false

/-- Lowercasing undoes the capitals of a spelling. -/
theorem runText_of_small (spelled : List Char) :
    (spelled.map lowerAscii).all isSmallLetter = true →
      (∀ c ∈ spelled, isAsciiLetter c = true) ∧ runText spelled = spelled.map lowerAscii := by
  induction spelled with
  | nil =>
      intro _
      exact ⟨by simp, rfl⟩
  | cons c rest ih =>
      intro hSmall
      rw [List.map_cons, List.all_cons, Bool.and_eq_true] at hSmall
      have hc : isAsciiLetter c = true := isAsciiLetter_of_lowerAscii hSmall.1
      obtain ⟨hLetters, hText⟩ := ih hSmall.2
      refine ⟨?_, ?_⟩
      · intro x hMem
        rcases List.mem_cons.mp hMem with rfl | hMem
        · exact hc
        · exact hLetters x hMem
      · rw [runText_cons, lowerChar_of_isAsciiLetter hc, hText]
        rfl

/-- A word of letters that stands alone is a token. -/
theorem token_of_standsAlone {form text : List Char} (hNonempty : form ≠ [])
    (hSmall : form.all isSmallLetter = true) (h : StandsAlone form text) :
    ∃ start stop, Token.of form start stop ∈ tokenizeList text := by
  obtain ⟨before, spelled, after, rfl, rfl, hBefore, hAfter⟩ := h
  obtain ⟨hLetters, hText⟩ := runText_of_small spelled hSmall
  have hSpelled : spelled ≠ [] := by
    rintro rfl
    exact hNonempty rfl
  obtain ⟨first, others, rfl⟩ := List.exists_cons_of_ne_nil hSpelled
  have hRun : ∀ c ∈ first :: others, isAlphanumeric c = true := fun c hMem =>
    isAlphanumeric_of_isAsciiLetter (hLetters c hMem)
  -- a word that starts with a letter is no digit group, so even a comma cuts in front of it
  have hCut : CutBetween before (first :: others ++ after) := by
    intro front c hSplit
    refine ⟨hBefore front c hSplit, fun _ => ?_⟩
    exact startsDigitGroup_cons
      (isAsciiDigit_eq_false_of_letter (hLetters first List.mem_cons_self)) (others ++ after)
  have hEnds : TokenEnds (runText (first :: others)) after := by
    intro c behind hSplit
    refine ⟨hAfter c behind hSplit, fun _ hDigits => ?_⟩
    rw [hText] at hDigits
    have hFirst := List.all_eq_true.mp hSmall (lowerAscii first) List.mem_cons_self
    have hLetter := isAsciiLetter_of_small hFirst
    have hDigit := List.all_eq_true.mp hDigits (lowerAscii first) List.mem_cons_self
    rw [isAsciiDigit_eq_false_of_letter hLetter] at hDigit
    exact absurd hDigit (by decide)
  refine ⟨0 + byteLength before, 0 + byteLength before + byteLength (first :: others), ?_⟩
  rw [tokenizeList, scan_of_cutBetween hCut, scan_run hSpelled hRun hEnds, hText]
  exact List.mem_append_right _ List.mem_cons_self

/-! ## Blocked stems -/

/-- What is blocked are the stems of the terms, as far as they have one. -/
theorem Gate.mem_blocked_iff {extra : List String} {word : String} :
    word ∈ (Gate.ofTerms extra).blocked ↔
      ∃ term ∈ alwaysBlocked ++ extra, blockedStem term = word ∧ word ≠ "" := by
  rw [Gate.ofTerms, List.mem_filter, List.mem_map, bne_iff_ne]
  constructor
  · rintro ⟨⟨term, hTerm, hStem⟩, hSome⟩
    exact ⟨term, hTerm, hStem, hSome⟩
  · rintro ⟨term, hTerm, hStem, hSome⟩
    exact ⟨⟨term, hTerm, hStem⟩, hSome⟩

/-- A term of small letters is blocked by its stem. -/
theorem mem_blocked_of_term {extra : List String} {term : List Char}
    (hTerm : String.ofList term ∈ alwaysBlocked ++ extra) (hNonempty : term ≠ [])
    (hSmall : term.all isSmallLetter = true) :
    String.ofList (stemList term) ∈ (Gate.ofTerms extra).blocked := by
  have hStem : blockedStem (String.ofList term) = String.ofList (stemList term) := by
    rw [blockedStem, lowercase_trim_of_small (List.all_eq_true.mp hSmall), stem,
      String.toList_ofList]
  refine Gate.mem_blocked_iff.mpr ⟨_, hTerm, hStem, ?_⟩
  intro hEmpty
  exact stemList_ne_nil hNonempty (String.ofList_eq_empty_iff.mp hEmpty)

/--
**Regular forms of blocked verbs are refused**: when the settings of a compiler block a verb, or it
is blocked always, the compiler refuses every query that the verb or one of its regular inflections
stands alone in.
-/
theorem compile_rejects_regular_form {settings : CompilerSettings} {compiler : Compiler}
    (hCompiler : Compiler.ofSettings settings = .ok compiler) {term form : List Char}
    (hTerm : String.ofList term ∈ alwaysBlocked ++ settings.blockedTerms)
    (hForm : RegularForm term form) {query : String} (hQuery : StandsAlone form query.toList)
    (now : Instant) : ∃ text, compiler.compile query now = .error (.rejected text) := by
  obtain ⟨⟨hTermSmall, hTermNonempty⟩, hFormSmall, hFormNonempty⟩ := hForm.letters
  have hGate := Compiler.gate_eq_of_ofSettings hCompiler
  obtain ⟨start, stop, hMem⟩ := token_of_standsAlone hFormNonempty hFormSmall hQuery
  have hStem : (Token.of form start stop).stem ∈ compiler.gate.blocked := by
    rw [Token.of, stem, String.toList_ofList, hForm.stemList_eq, hGate]
    exact mem_blocked_of_term hTerm hTermNonempty hTermSmall
  obtain ⟨text, hRejected, -⟩ := compiler.compile_of_blocked now ⟨_, hMem, hStem⟩
  exact ⟨text, hRejected⟩

theorem compile_rejects_deleting :
    ∃ compiler, Compiler.ofSettings {} = .ok compiler ∧
      ∀ now, ∃ text, compiler.compile "please,DELETING, now" now = .error (.rejected text) := by
  obtain ⟨compiler, hCompiler⟩ := Compiler.exists_ofSettings {} (by decide)
  have hBase : SilentBase "delet".toList := by
    refine ⟨⟨by decide, by decide, by decide⟩, by decide, ?_⟩
    intro front c hSplit
    have hReverse := congrArg List.reverse hSplit
    simp at hReverse
    obtain ⟨rfl, hDoubled, -⟩ := hReverse
    exact absurd hDoubled (by decide)
  have hForm : RegularForm "delete".toList "deleting".toList :=
    RegularForm.silentE hBase (by decide)
  have hQuery : StandsAlone "deleting".toList "please,DELETING, now".toList := by
    refine ⟨"please,".toList, "DELETING".toList, ", now".toList, by decide, by decide, ?_, ?_⟩
    · intro front c hSplit
      have hReverse := congrArg List.reverse hSplit
      simp at hReverse
      rw [← hReverse.1]
      decide +kernel
    · intro c behind hSplit
      cases hSplit
      decide +kernel
  refine ⟨compiler, hCompiler, fun now => ?_⟩
  exact compile_rejects_regular_form hCompiler (by decide) hForm hQuery now

end StaffSearch.Query
