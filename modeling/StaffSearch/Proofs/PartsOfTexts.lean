import StaffSearch.Filter.Constraint
import StaffSearch.Proofs.AsciiCase
import StaffSearch.Proofs.Lowercasing

/-!
# Patterns and the texts that have them as a part

A pattern is lowercased before it is looked for, and so is the text.  That the pattern is a part of
the text does not settle the matter, for lowercasing looks at the neighbours of a capital sigma.  The
sigma of `ΑΣ` ends a word and becomes `ς`; in `ΑΣΑ` it does not end one, and becomes `σ`.

Nothing but sigmas can be lost in this way.  A part is lowercased like a text of its own exactly if
each of its capital sigmas ends a word of the whole text whenever it ends one of the part
(`lowerBetween_eq_lowerList_iff`), and then the pattern is found.  Where the rest of the text has no
sigma, it is found in no other case (`infix_lowerList_iff`): the small sigmas of the two lowercase
forms are equally many, so they would have to be the same.

Only the first and the last sigma of a pattern can change, and only if the pattern does not tell by
itself whether they end a word.  The patterns without such a loose sigma are the ones that keep
their sigmas wherever they stand (`forall_keepsSigmas_iff`).
-/

namespace StaffSearch

namespace Text

/-! ## Sigmas in their place -/

/-- Whether a sigma ends a word between `before`, nearest first, and `behind`. -/
def endsWordBetween (before behind : List Char) : Bool :=
  nextIsCased before && !nextIsCased behind

/-- The capital sigmas of `part` end a word of the whole text exactly if they end one of `part`. -/
def KeepsSigmas (before part behind : List Char) : Prop :=
  ∀ front rest, part = front ++ 'Σ' :: rest →
    endsWordBetween (front.reverse ++ before.reverse) (rest ++ behind) =
      endsWordBetween front.reverse rest

/-- There is no sigma in the text, in none of its three forms. -/
def HasNoSigma (text : List Char) : Prop := ∀ c ∈ text, c ≠ 'Σ' ∧ c ≠ 'σ' ∧ c ≠ 'ς'

instance (text : List Char) : Decidable (HasNoSigma text) :=
  List.decidableBAll (fun c => c ≠ 'Σ' ∧ c ≠ 'σ' ∧ c ≠ 'ς') text

/-- The pattern has a capital sigma of which it does not tell whether it ends a word: it would if a
letter stood in front of the pattern, or it does unless a letter stands behind. -/
def HasLooseSigma (pattern : List Char) : Prop :=
  ∃ front rest, pattern = front ++ 'Σ' :: rest ∧
    ((front.all isCaseIgnorable = true ∧ nextIsCased rest = false) ∨
      (nextIsCased front.reverse = true ∧ rest.all isCaseIgnorable = true))

/-- Casing looks through the characters that it ignores, and no further than the first other one. -/
theorem nextIsCased_append (text more : List Char) :
    nextIsCased (text ++ more) =
      if text.all isCaseIgnorable = true then nextIsCased more else nextIsCased text := by
  induction text with
  | nil => rfl
  | cons c rest ih =>
      rw [List.cons_append, List.all_cons]
      by_cases hc : isCaseIgnorable c = true
      · have hSkip : ∀ text : List Char, nextIsCased (c :: text) = nextIsCased text := by
          intro text
          rw [nextIsCased, List.dropWhile_cons_of_pos hc, ← nextIsCased]
        rw [hSkip, hSkip, ih, hc, Bool.true_and]
      · have hHere : ∀ text : List Char, nextIsCased (c :: text) = isCased c := by
          intro text
          rw [nextIsCased, List.dropWhile_cons_of_neg hc]
        rw [hHere, hHere, Bool.eq_false_iff.mpr hc, Bool.false_and, if_neg Bool.false_ne_true]

theorem nextIsCased_of_all {text : List Char} (h : text.all isCaseIgnorable = true) :
    nextIsCased text = false := by
  have hAppend := nextIsCased_append text []
  rw [List.append_nil, if_pos h] at hAppend
  exact hAppend

/-- Without a loose sigma, what stands around a pattern does not matter. -/
theorem keepsSigmas_of_not_hasLooseSigma {pattern : List Char} (h : ¬ HasLooseSigma pattern)
    (before behind : List Char) : KeepsSigmas before pattern behind := by
  intro front rest hPattern
  have hFirst : ¬ (front.all isCaseIgnorable = true ∧ nextIsCased rest = false) :=
    fun hLoose => h ⟨front, rest, hPattern, Or.inl hLoose⟩
  have hLast : ¬ (nextIsCased front.reverse = true ∧ rest.all isCaseIgnorable = true) :=
    fun hLoose => h ⟨front, rest, hPattern, Or.inr hLoose⟩
  rw [endsWordBetween, endsWordBetween, nextIsCased_append, nextIsCased_append rest,
    List.all_reverse]
  by_cases hFront : front.all isCaseIgnorable = true
  · -- the sigma ends no word of the pattern, and the letter behind it is one of the pattern
    have hNext : nextIsCased rest = true := by
      rw [← Bool.not_eq_false]
      exact fun hNone => hFirst ⟨hFront, hNone⟩
    have hRest : ¬ rest.all isCaseIgnorable = true := by
      intro hAll
      rw [nextIsCased_of_all hAll] at hNext
      exact absurd hNext Bool.false_ne_true
    rw [if_neg hRest, hNext, Bool.not_true, Bool.and_false, Bool.and_false]
  · rw [if_neg hFront]
    by_cases hRest : rest.all isCaseIgnorable = true
    · have hNone : nextIsCased front.reverse = false := by
        rw [Bool.eq_false_iff]
        exact fun hCased => hLast ⟨hCased, hRest⟩
      rw [hNone, Bool.false_and, Bool.false_and]
    · rw [if_neg hRest]

/-- **The patterns that keep their sigmas** wherever they stand are those without a loose one.  Where
one is loose, a letter next to the pattern shows it. -/
theorem forall_keepsSigmas_iff {pattern : List Char} :
    (∀ before behind, HasNoSigma before → HasNoSigma behind → KeepsSigmas before pattern behind) ↔
      ¬ HasLooseSigma pattern := by
  constructor
  · intro hKeeps hLoose
    have hLetter : nextIsCased ['A'] = true := by decide +kernel
    have hPlain : HasNoSigma ['A'] := by decide
    have hNone : HasNoSigma [] := by decide
    obtain ⟨front, rest, hPattern, ⟨hFront, hRest⟩ | ⟨hFront, hRest⟩⟩ := hLoose
    · have hSame := hKeeps ['A'] [] hPlain hNone front rest hPattern
      have hReverse : front.reverse.all isCaseIgnorable = true := by
        rw [List.all_reverse]
        exact hFront
      rw [endsWordBetween, endsWordBetween, nextIsCased_append, if_pos hReverse,
        nextIsCased_of_all hReverse, List.append_nil, hRest, List.reverse_singleton, hLetter] at hSame
      exact absurd hSame (by decide)
    · have hSame := hKeeps [] ['A'] hNone hPlain front rest hPattern
      rw [endsWordBetween, endsWordBetween, List.reverse_nil, List.append_nil, nextIsCased_append,
        if_pos hRest, nextIsCased_of_all hRest, hFront, hLetter] at hSame
      exact absurd hSame (by decide)
  · intro hTight before behind _ _
    exact keepsSigmas_of_not_hasLooseSigma hTight before behind

/-! ## Lowercasing a part of a text -/

/-- What lowercasing a text makes of one character, with `before` in front of it, nearest first. -/
def lowerAt (before : List Char) (c : Char) (behind : List Char) : List Char :=
  if c = 'Σ' then [if endsWordBetween before behind then 'ς' else 'σ'] else lowerChar c

/-- What lowercasing a text makes of a part of it, with `before` in front of the part, nearest
first, and `behind` behind it. -/
def lowerBetween (before : List Char) : List Char → List Char → List Char
  | [], _ => []
  | c :: rest, behind =>
    lowerAt before c (rest ++ behind) ++ lowerBetween (c :: before) rest behind

@[simp] theorem lowerAt_sigma (before behind : List Char) :
    lowerAt before 'Σ' behind = [if endsWordBetween before behind then 'ς' else 'σ'] := if_pos rfl

@[simp] theorem lowerAt_of_ne {c : Char} (hc : c ≠ 'Σ') (before behind : List Char) :
    lowerAt before c behind = lowerChar c := if_neg hc

@[simp] theorem lowerBetween_nil (part : List Char) :
    ∀ before, lowerBetween before part [] = lowerAfter before part := by
  induction part with
  | nil =>
      intro before
      rfl
  | cons c rest ih =>
      intro before
      rw [lowerBetween, ih, List.append_nil]
      rfl

/-- **A text is lowercased part by part**, each between those around it. -/
theorem lowerAfter_append (part behind : List Char) :
    ∀ before, lowerAfter before (part ++ behind) =
      lowerBetween before part behind ++ lowerAfter (part.reverse ++ before) behind := by
  induction part with
  | nil =>
      intro before
      rfl
  | cons c rest ih =>
      intro before
      show lowerAt before c (rest ++ behind) ++ lowerAfter (c :: before) (rest ++ behind) = _
      rw [ih, lowerBetween, List.append_assoc, List.reverse_cons, List.append_assoc]
      rfl

/-- The capital sigmas of a part end words in both of two places or in none. -/
def SigmasAgree (before back part behind other : List Char) : Prop :=
  ∀ front rest, part = front ++ 'Σ' :: rest →
    endsWordBetween (front.reverse ++ before) (rest ++ behind) =
      endsWordBetween (front.reverse ++ back) (rest ++ other)

theorem sigmasAgree_cons {before back rest behind other : List Char} {c : Char} :
    SigmasAgree before back (c :: rest) behind other ↔
      (c = 'Σ' → endsWordBetween before (rest ++ behind) = endsWordBetween back (rest ++ other)) ∧
        SigmasAgree (c :: before) (c :: back) rest behind other := by
  have hShift : ∀ front text : List Char,
      (c :: front).reverse ++ text = front.reverse ++ c :: text := by
    intro front text
    rw [List.reverse_cons, List.append_assoc, List.singleton_append]
  constructor
  · intro hAll
    constructor
    · intro hSigma
      exact hAll [] rest (by rw [hSigma]; rfl)
    · intro front next hRest
      have hSame := hAll (c :: front) next (by rw [hRest]; rfl)
      rw [hShift, hShift] at hSame
      exact hSame
  · intro hBoth front next hPart
    cases front with
    | nil =>
        have hHead := List.cons.inj hPart
        rw [← hHead.2]
        exact hBoth.1 hHead.1
    | cons x front =>
        have hHead := List.cons.inj hPart
        rw [← hHead.1, hShift, hShift]
        exact hBoth.2 front next hHead.2

/-- Two places make the same of a part exactly if its sigmas end words in both or in none. -/
theorem lowerBetween_eq_iff (part behind other : List Char) :
    ∀ before back, lowerBetween before part behind = lowerBetween back part other ↔
      SigmasAgree before back part behind other := by
  induction part with
  | nil =>
      intro before back
      refine ⟨fun _ front rest hPart => ?_, fun _ => rfl⟩
      exact absurd hPart (by simp)
  | cons c rest ih =>
      intro before back
      rw [lowerBetween, lowerBetween, sigmasAgree_cons, ← ih]
      by_cases hSigma : c = 'Σ'
      · subst hSigma
        have hForm : ∀ a b : Bool, (if a then 'ς' else 'σ') = (if b then 'ς' else 'σ') ↔ a = b := by
          decide
        rw [lowerAt_sigma, lowerAt_sigma, List.singleton_append, List.singleton_append,
          List.cons.injEq, hForm]
        simp only [true_implies]
      · rw [lowerAt_of_ne hSigma, lowerAt_of_ne hSigma, List.append_cancel_left_eq]
        simp only [hSigma, false_implies, true_and]

/-- **A part is lowercased like a text of its own** exactly if it keeps its sigmas. -/
theorem lowerBetween_eq_lowerList_iff {before part behind : List Char} :
    lowerBetween before.reverse part behind = lowerList part ↔ KeepsSigmas before part behind := by
  rw [lowerList, ← lowerBetween_nil, lowerBetween_eq_iff, SigmasAgree, KeepsSigmas]
  simp only [List.append_nil]

instance (before part behind : List Char) : Decidable (KeepsSigmas before part behind) :=
  decidable_of_iff _ lowerBetween_eq_lowerList_iff

/-! ## The sigmas of a lowercase form -/

/-- The two forms that a capital sigma may get. -/
def isSmallSigma (c : Char) : Bool := c == 'σ' || c == 'ς'

theorem filter_lowerAt_sigma (before behind : List Char) :
    (lowerAt before 'Σ' behind).filter isSmallSigma = lowerAt before 'Σ' behind := by
  rw [lowerAt_sigma]
  split <;> rfl

/-- A part has the same number of small sigmas wherever it stands. -/
theorem length_filter_lowerBetween (part behind other : List Char) :
    ∀ before back, ((lowerBetween before part behind).filter isSmallSigma).length =
      ((lowerBetween back part other).filter isSmallSigma).length := by
  induction part with
  | nil =>
      intro before back
      rfl
  | cons c rest ih =>
      intro before back
      rw [lowerBetween, lowerBetween, List.filter_append, List.filter_append, List.length_append,
        List.length_append, ih (c :: before) (c :: back)]
      by_cases hSigma : c = 'Σ'
      · subst hSigma
        rw [filter_lowerAt_sigma, filter_lowerAt_sigma]
        rfl
      · rw [lowerAt_of_ne hSigma, lowerAt_of_ne hSigma]

/-- What two places make of a part is the same if its small sigmas are. -/
theorem lowerBetween_eq_of_filter_eq (part behind other : List Char) :
    ∀ before back, (lowerBetween before part behind).filter isSmallSigma =
        (lowerBetween back part other).filter isSmallSigma →
      lowerBetween before part behind = lowerBetween back part other := by
  induction part with
  | nil =>
      intro before back _
      rfl
  | cons c rest ih =>
      intro before back hSame
      rw [lowerBetween, lowerBetween, List.filter_append, List.filter_append] at hSame
      rw [lowerBetween, lowerBetween]
      by_cases hSigma : c = 'Σ'
      · subst hSigma
        rw [filter_lowerAt_sigma, filter_lowerAt_sigma] at hSame
        obtain ⟨hHere, hRest⟩ := List.append_inj hSame rfl
        rw [hHere, ih _ _ hRest]
      · rw [lowerAt_of_ne hSigma, lowerAt_of_ne hSigma] at hSame ⊢
        rw [ih _ _ (List.append_cancel_left hSame)]

/-- A run of capitals whose lowercase forms reach the small sigma moves its code points by 32. -/
theorem CaseRun.shift_of_sigma : ∀ run ∈ capitalRuns,
    0x3C3 < run.lower run.first ∨ run.lower run.last < 0x3C3 ∨ run.shift = 32 := by
  decide +kernel

/-- No letter but a sigma becomes a small sigma. -/
theorem lowerLetter_eq_sigma {c : Char} (h : lowerLetter c = 'σ') : c = 'Σ' ∨ c = 'σ' := by
  rcases lowerCode_cases c.toNat with hSame | ⟨run, hRun, hCovers, hCode⟩
  · right
    rw [lowerLetter, hSame, Char.ofNat_toNat] at h
    exact h
  · left
    have hBounds := CaseRun.lower_bounds hCovers
    have hSigma : run.lower c.toNat = 0x3C3 := by
      rw [← toNat_lowerLetter hRun hCovers hCode, h]
      rfl
    have hShift : run.shift = 32 := by
      rcases CaseRun.shift_of_sigma run hRun with hBehind | hBefore | hShift
      · omega
      · omega
      · exact hShift
    have hCapital : c.toNat = 0x3A3 := by
      rw [CaseRun.lower, hShift] at hSigma
      omega
    exact Char.toNat_inj.mp hCapital

theorem filter_lowerChar_of_hasNoSigma {c : Char} (h : c ≠ 'Σ' ∧ c ≠ 'σ' ∧ c ≠ 'ς') :
    (lowerChar c).filter isSmallSigma = [] := by
  by_cases hDotted : c = 'İ'
  · subst hDotted
    rfl
  · have hMiddle : lowerLetter c ≠ 'σ' := by
      intro hLower
      rcases lowerLetter_eq_sigma hLower with hCapital | hSmall
      · exact h.1 hCapital
      · exact h.2.1 hSmall
    have hFinal : lowerLetter c ≠ 'ς' := fun hLower => h.2.2 ((lowerLetter_eq_final_iff c).mp hLower)
    have hOther : isSmallSigma (lowerLetter c) = false := by
      rw [isSmallSigma, beq_false_of_ne hMiddle, beq_false_of_ne hFinal]
      rfl
    rw [lowerChar_of_ne_dotted hDotted, List.filter_cons_of_neg (Bool.eq_false_iff.mp hOther)]
    rfl

/-- The lowercase form of a text without sigmas has none either. -/
theorem filter_lowerBetween_of_hasNoSigma {part : List Char} (behind : List Char)
    (h : HasNoSigma part) :
    ∀ before, (lowerBetween before part behind).filter isSmallSigma = [] := by
  induction part with
  | nil =>
      intro before
      rfl
  | cons c rest ih =>
      intro before
      have hHead := h c List.mem_cons_self
      have hRest := ih (fun x hMem => h x (List.mem_cons_of_mem c hMem)) (c :: before)
      rw [lowerBetween, List.filter_append, lowerAt_of_ne hHead.1,
        filter_lowerChar_of_hasNoSigma hHead, hRest]
      rfl

/-! ## Finding the lowercase form -/

/-- The lowercase form of a text in three parts. -/
theorem lowerList_append (before part behind : List Char) :
    lowerList (before ++ part ++ behind) =
      lowerBetween [] before (part ++ behind) ++ lowerBetween before.reverse part behind ++
        lowerBetween (part.reverse ++ before.reverse) behind [] := by
  rw [lowerList, List.append_assoc, lowerAfter_append, List.append_nil, lowerAfter_append,
    lowerBetween_nil, List.append_assoc]

/-- A part that keeps its sigmas leaves its lowercase form in that of the text. -/
theorem infix_lowerList_of_keepsSigmas {before part behind : List Char}
    (h : KeepsSigmas before part behind) :
    lowerList part <:+: lowerList (before ++ part ++ behind) := by
  rw [lowerList_append, lowerBetween_eq_lowerList_iff.mpr h]
  exact ⟨_, _, rfl⟩

/-- **Where the rest of a text has no sigma**, a part leaves its lowercase form in that of the text
exactly if it keeps its sigmas. -/
theorem infix_lowerList_iff {before part behind : List Char} (hBefore : HasNoSigma before)
    (hBehind : HasNoSigma behind) :
    lowerList part <:+: lowerList (before ++ part ++ behind) ↔ KeepsSigmas before part behind := by
  constructor
  · intro hInfix
    -- all small sigmas of the text come from the part, and they are as many as in its own form
    have hSigmas := hInfix.filter isSmallSigma
    rw [lowerList_append, List.filter_append, List.filter_append,
      filter_lowerBetween_of_hasNoSigma _ hBefore, filter_lowerBetween_of_hasNoSigma _ hBehind,
      List.nil_append, List.append_nil, lowerList, ← lowerBetween_nil] at hSigmas
    have hSame := hSigmas.eq_of_length (length_filter_lowerBetween part [] behind [] _)
    rw [← lowerBetween_eq_lowerList_iff, lowerList, ← lowerBetween_nil]
    exact (lowerBetween_eq_of_filter_eq part [] behind [] _ hSame).symm
  · exact infix_lowerList_of_keepsSigmas

/-- The case of ASCII letters does not matter to the lowercase form. -/
theorem lowerList_of_equalIgnoringAsciiCase {a b : String}
    (h : equalIgnoringAsciiCase a b = true) : lowerList a.toList = lowerList b.toList := by
  rw [← lowerList_map_lowerAscii, ← toList_lowercaseAscii, equalIgnoringAsciiCase_iff.mp h,
    toList_lowercaseAscii, lowerList_map_lowerAscii]

end Text

/-! ## Patterns -/

open StaffSearch.Text

/-- The text is made of three pieces, up to the case of ASCII letters. -/
def IsMadeOf (text before part behind : String) : Prop :=
  equalIgnoringAsciiCase text (before ++ part ++ behind) = true

theorem IsMadeOf.containsPattern_iff {text before pattern behind : String}
    (h : IsMadeOf text before pattern behind) :
    containsPattern pattern text = true ↔ lowerList pattern.toList <:+:
      lowerList (before.toList ++ pattern.toList ++ behind.toList) := by
  rw [containsPattern, occursIn_iff, lowerList_of_equalIgnoringAsciiCase h, String.toList_append,
    String.toList_append]

/--
**Patterns and the texts that have them as a part**, up to the case of ASCII letters.  The pattern is
found in such a text, and in a list with it, if the pattern keeps its sigmas there; where the rest of
the text has no sigma, it is found in no other case.  Hence the patterns that are found in every text
that has them as a part are those without a loose sigma.
-/
theorem holdsOf_containsPattern_of_part (pattern : String) :
    (∀ before behind text, IsMadeOf text before pattern behind →
      KeepsSigmas before.toList pattern.toList behind.toList →
        (Constraint.containsPattern pattern).holdsOf (.text text) = true ∧
          ∀ values, text ∈ values →
            (Constraint.containsPattern pattern).holdsOf (.list values) = true) ∧
    (∀ before behind text, IsMadeOf text before pattern behind →
      HasNoSigma before.toList → HasNoSigma behind.toList →
        ((Constraint.containsPattern pattern).holdsOf (.text text) = true ↔
          KeepsSigmas before.toList pattern.toList behind.toList)) ∧
    ((∀ before behind text, IsMadeOf text before pattern behind →
      (Constraint.containsPattern pattern).holdsOf (.text text) = true) ↔
        ¬ HasLooseSigma pattern.toList) := by
  have hFound : ∀ before behind text, IsMadeOf text before pattern behind →
      KeepsSigmas before.toList pattern.toList behind.toList →
        containsPattern pattern text = true := by
    intro before behind text hText hKeeps
    exact hText.containsPattern_iff.mpr (infix_lowerList_of_keepsSigmas hKeeps)
  have hExact : ∀ before behind text, IsMadeOf text before pattern behind →
      HasNoSigma before.toList → HasNoSigma behind.toList →
        (containsPattern pattern text = true ↔
          KeepsSigmas before.toList pattern.toList behind.toList) := by
    intro before behind text hText hBefore hBehind
    rw [hText.containsPattern_iff]
    exact infix_lowerList_iff hBefore hBehind
  refine ⟨?_, hExact, ?_⟩
  · intro before behind text hText hKeeps
    have hHere := hFound before behind text hText hKeeps
    refine ⟨hHere, fun values hMem => ?_⟩
    exact List.any_eq_true.mpr ⟨text, hMem, hHere⟩
  · rw [← forall_keepsSigmas_iff]
    constructor
    · intro hAll before behind hBefore hBehind
      have hText : IsMadeOf (String.ofList before ++ pattern ++ String.ofList behind)
          (String.ofList before) pattern (String.ofList behind) := beq_self_eq_true _
      have hKeeps := (hExact _ _ _ hText (by rwa [String.toList_ofList])
        (by rwa [String.toList_ofList])).mp (hAll _ _ _ hText)
      rw [String.toList_ofList, String.toList_ofList] at hKeeps
      exact hKeeps
    · intro hKeeps before behind text hText
      have hTight := forall_keepsSigmas_iff.mp hKeeps
      exact hFound before behind text hText (keepsSigmas_of_not_hasLooseSigma hTight _ _)

/-- A street in a list of names, the other words of the name in other letters. -/
theorem holdsOf_containsPattern_of_street :
    IsMadeOf "Old οδός, ΟΔΟΣ 5" "OLD οδός, " "ΟΔΟΣ" " 5" ∧
      KeepsSigmas "OLD οδός, ".toList "ΟΔΟΣ".toList " 5".toList ∧
      (Constraint.containsPattern "ΟΔΟΣ").holdsOf (.list ["", "Old οδός, ΟΔΟΣ 5"]) = true := by
  have hText : IsMadeOf "Old οδός, ΟΔΟΣ 5" "OLD οδός, " "ΟΔΟΣ" " 5" := by
    show equalIgnoringAsciiCase _ _ = true
    decide +kernel
  have hKeeps : KeepsSigmas "OLD οδός, ".toList "ΟΔΟΣ".toList " 5".toList := by decide +kernel
  have hFound := (holdsOf_containsPattern_of_part "ΟΔΟΣ").1 _ _ _ hText hKeeps
  exact ⟨hText, hKeeps, hFound.2 _ (by decide)⟩

/-- A pattern that ends with a capital sigma is not found where a letter follows, neither in a text
that begins with the pattern itself nor in a list with that text. -/
theorem not_holdsOf_containsPattern_sigma :
    IsMadeOf "ΑΣΑ" "" "ΑΣ" "Α" ∧
      (Constraint.containsPattern "ΑΣ").holdsOf (.text "ΑΣΑ") = false ∧
      (Constraint.containsPattern "ΑΣ").holdsOf (.list ["ΑΣΑ"]) = false := by
  refine ⟨?_, by decide +kernel, by decide +kernel⟩
  show equalIgnoringAsciiCase _ _ = true
  decide +kernel

end StaffSearch
