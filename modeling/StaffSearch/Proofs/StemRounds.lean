import Mathlib.Data.List.Forall2
import StaffSearch.Proofs.AsciiCase
import StaffSearch.Proofs.Inflection
import StaffSearch.Proofs.Tokens

/-!
# Rounds of stripping

A stem comes about in rounds, each of which takes an ending off.  Two things could go wrong in a
round: a letter might be asked for that the word does not have, and what is left might be no part of
the word any more.

* Two rules look at single letters before the end of the word, by their places.  Here a look at a
  place that a word lacks has no answer, and neither has a stem that is not finished in the rounds
  it is given.  There are always answers, in as many rounds as there are letters and one more
  (`stemByPlaces?_eq`).
* Most rules only cut.  The one that does not puts a `y` in the place of `ies`, and no rule cuts
  behind that (`stripOnce?_y`), so it can only be the last to apply (`isLeftOf_stemList`).
-/

namespace StaffSearch.Query

open StaffSearch.Text

/-! ## A single round -/

/-- Only words that end in one of four letters are stripped. -/
theorem Strips.last {word next : List Char} (h : Strips word next) :
    endsWith ['s', 'd', 'g', 'e'].contains word = true := by
  have hVerbs : ∀ ending ∈ verbEndings,
      ending ≠ [] ∧ endsWith ['s', 'd', 'g', 'e'].contains ending = true := by decide
  cases h with
  | pluralOfY => rw [endsWith_append (by simp)]; rfl
  | pluralOfSs => rw [endsWith_append (by simp)]; rfl
  | verbEnding hEnding =>
      obtain ⟨hSome, hLast⟩ := hVerbs _ hEnding
      rw [endsWith_append hSome, hLast]
  | finalS => rw [endsWith_append (by simp)]; rfl
  | finalE => rw [endsWith_append (by simp)]; rfl

/-- Nothing is stripped off behind a `y`. -/
theorem stripOnce?_y (front : List Char) : stripOnce? (front ++ ['y']) = none := by
  rw [Option.eq_none_iff_forall_ne_some]
  intro next h
  have hLast := (strips_of_stripOnce? h).2.last
  rw [endsWith_append (by simp)] at hLast
  exact absurd hLast (by decide)

theorem prefix_undouble (base : List Char) : undouble base <+: base := by
  rcases undouble_cases base with hSame | ⟨front, c, hBase, -, hDropped, -⟩
  · exact ⟨[], by rw [List.append_nil, hSame]⟩
  · rw [hDropped, hBase]
    exact ⟨[c], by simp⟩

/-- A round cuts, or it puts a `y` in the place of `ies`. -/
theorem Strips.prefix_or {word next : List Char} (h : Strips word next) :
    next <+: word ∨ ∃ front, word = front ++ ['i', 'e', 's'] ∧ next = front ++ ['y'] := by
  cases h with
  | pluralOfY => exact Or.inr ⟨_, rfl, rfl⟩
  | pluralOfSs => exact Or.inl ⟨['e', 's'], by simp⟩
  | @verbEnding front ending => exact Or.inl ((prefix_undouble front).trans (List.prefix_append ..))
  | finalS => exact Or.inl (List.prefix_append ..)
  | finalE => exact Or.inl (List.prefix_append ..)

/-! ## What all rounds leave -/

/-- What is left of a word: a beginning, or one that `ies` stood behind, with a `y` behind it. -/
def IsLeftOf (stem word : List Char) : Prop :=
  stem <+: word ∨ ∃ front, front ++ ['i', 'e', 's'] <+: word ∧ stem = front ++ ['y']

theorem IsLeftOf.of_beginning {stem next word : List Char} (h : IsLeftOf stem next)
    (hNext : next <+: word) : IsLeftOf stem word := by
  rcases h with hStem | ⟨front, hPlural, hStem⟩
  · exact Or.inl (hStem.trans hNext)
  · exact Or.inr ⟨front, hPlural.trans hNext, hStem⟩

/-- **A stem is left of its word**: the rounds before the last one have only cut. -/
theorem isLeftOf_stemList (word : List Char) : IsLeftOf (stemList word) word := by
  fun_induction stemList word with
  | case1 word next hNext ih =>
      rcases (strips_of_stripOnce? hNext).2.prefix_or with hCut | ⟨front, rfl, rfl⟩
      · exact ih.of_beginning hCut
      · rw [stemList_of_none (stripOnce?_y front)]
        exact Or.inr ⟨front, List.prefix_refl _, rfl⟩
  | case2 word _ => exact Or.inl (List.prefix_refl word)

/-! ## Looking at letters by their places -/

/-- The letter that stands so many places before the end of a word, the last letter standing one
place before it.  There is no answer if the word has no such place. -/
def letterBeforeEnd? (word : List Char) (distance : Nat) : Option Char :=
  if distance ≤ word.length then word[word.length - distance]? else none

theorem letterBeforeEnd?_append (front : List Char) (c : Char) (behind : List Char) :
    letterBeforeEnd? (front ++ c :: behind) (behind.length + 1) = some c := by
  have hLength : (front ++ c :: behind).length = front.length + (behind.length + 1) := by
    rw [List.length_append, List.length_cons]
  rw [letterBeforeEnd?, hLength, if_pos (by omega), Nat.add_sub_cancel,
    List.getElem?_append_right (Nat.le_refl _), Nat.sub_self]
  rfl

/-- Before the last letter stands the last letter of the rest. -/
theorem letterBeforeEnd?_snoc (base : List Char) (c : Char) :
    letterBeforeEnd? (base ++ [c]) 2 = base.getLast? := by
  rcases List.eq_nil_or_concat' base with rfl | ⟨front, last, rfl⟩
  · rfl
  · rw [List.append_assoc, List.getLast?_concat]
    exact letterBeforeEnd?_append front last [c]

/-- `undouble` by places; the second letter is looked at only in a base that stays long enough. -/
def undoubleByPlaces? (base : List Char) : Option (List Char) :=
  (letterBeforeEnd? base 1).bind fun last =>
    if shortestStem < base.length then
      (letterBeforeEnd? base 2).map fun beforeLast =>
        if last == beforeLast && !staysDoubled last then base.dropLast else base
    else some base

/-- What a rule leaves of a word, where it applies.  A rule that looks at a place which the word
lacks has no answer. -/
abbrev PlacedRule := List Char → Option (Option (List Char))

/-- `verbEnding` by places. -/
def verbEndingByPlaces (ending : List Char) : PlacedRule := fun word =>
  match beforeEnd? ending word with
  | some base =>
    if shortestStem ≤ base.length && base.any isVowel then (undoubleByPlaces? base).map some
    else some none
  | none => some none

/-- `finalE` by places. -/
def finalEByPlaces : PlacedRule := fun word =>
  match beforeEnd? ['e'] word with
  | some base =>
    if shortestBeforeFinalE ≤ word.length then
      (letterBeforeEnd? word 2).map fun c => if isVowel c then none else some base
    else some none
  | none => some none

/-- The suffix rules; those that look at no single letter have always an answer. -/
def placedRules : List PlacedRule :=
  [fun word => some (pluralOfY word), fun word => some (pluralOfSs word),
    verbEndingByPlaces ['i', 'n', 'g'], verbEndingByPlaces ['e', 'd'],
    fun word => some (finalS word), finalEByPlaces]

/-- The rules one after the other, up to the first that applies. -/
def firstPlaced : List PlacedRule → PlacedRule
  | [], _ => some none
  | rule :: rules, word =>
    (rule word).bind fun
      | some next => some (some next)
      | none => firstPlaced rules word

/-- One round by places.  Only words of ASCII letters have rounds, so these are places of bytes as
well. -/
def stripOnceByPlaces : PlacedRule := fun word =>
  if isStemmable word then firstPlaced placedRules word else some none

/-- What is left after so many rounds by places, if no rule applies to it any more. -/
def stemByPlaces? : Nat → List Char → Option (List Char)
  | 0, _ => none
  | rounds + 1, word =>
    (stripOnceByPlaces word).bind fun
      | some next => stemByPlaces? rounds next
      | none => some word

/-! ## Every place is there -/

/-- A rule by places that has always an answer, the one of the rule. -/
def Answers (placed : PlacedRule) (rule : SuffixRule) : Prop :=
  ∀ word, placed word = some (rule word)

theorem undoubleByPlaces?_eq {base : List Char} (hSome : base ≠ []) :
    undoubleByPlaces? base = some (undouble base) := by
  obtain ⟨front, last, rfl⟩ := (List.eq_nil_or_concat' base).resolve_left hSome
  have hLast : letterBeforeEnd? (front ++ [last]) 1 = some last :=
    letterBeforeEnd?_append front last []
  rcases List.eq_nil_or_concat' front with rfl | ⟨rest, beforeLast, rfl⟩
  · rw [undoubleByPlaces?, hLast]
    rfl
  · have hBeforeLast : letterBeforeEnd? (rest ++ [beforeLast] ++ [last]) 2 = some beforeLast := by
      rw [List.append_assoc]
      exact letterBeforeEnd?_append rest beforeLast [last]
    have hReverse : (rest ++ [beforeLast] ++ [last]).reverse = last :: beforeLast :: rest.reverse := by
      rw [List.reverse_concat, List.reverse_concat]
    rw [undoubleByPlaces?, undouble, hLast, hBeforeLast, hReverse, Option.bind_some]
    dsimp only
    by_cases hLong : shortestStem < (rest ++ [beforeLast] ++ [last]).length
    · rw [if_pos hLong, decide_eq_true hLong, Bool.true_and]
      rfl
    · rw [if_neg hLong, decide_eq_false hLong, Bool.false_and, Bool.false_and]
      rfl

theorem answers_verbEnding (ending : List Char) :
    Answers (verbEndingByPlaces ending) (verbEnding ending) := by
  intro word
  rw [verbEndingByPlaces, verbEnding]
  cases beforeEnd? ending word with
  | none => rfl
  | some base =>
      dsimp only
      by_cases hKept : (decide (shortestStem ≤ base.length) && base.any isVowel) = true
      · have hLong : 3 ≤ base.length := of_decide_eq_true (Bool.and_eq_true_iff.mp hKept).1
        rw [if_pos hKept, if_pos hKept, undoubleByPlaces?_eq (List.ne_nil_of_length_pos (by omega))]
        rfl
      · rw [if_neg hKept, if_neg hKept]

theorem answers_finalE : Answers finalEByPlaces finalE := by
  intro word
  rw [finalEByPlaces, finalE]
  cases hBase : beforeEnd? ['e'] word with
  | none => rfl
  | some base =>
      have hWord := (beforeEnd?_eq_some_iff _ _ _).mp hBase
      dsimp only
      by_cases hLong : shortestBeforeFinalE ≤ word.length
      · have hLength : 5 ≤ base.length + 1 := by
          rw [hWord, List.length_append] at hLong
          exact hLong
        have hSome : base ≠ [] := List.ne_nil_of_length_pos (by omega)
        rw [if_pos hLong, decide_eq_true hLong, Bool.true_and, hWord, letterBeforeEnd?_snoc,
          endsWith, List.getLast?_eq_some_getLast hSome, Option.map_some, Option.any_some]
        cases isVowel (base.getLast hSome) <;> rfl
      · rw [if_neg hLong, decide_eq_false hLong, Bool.false_and]
        rfl

theorem answers_placedRules : List.Forall₂ Answers placedRules suffixRules :=
  .cons (fun _ => rfl) (.cons (fun _ => rfl) (.cons (answers_verbEnding _)
    (.cons (answers_verbEnding _) (.cons (fun _ => rfl) (.cons answers_finalE .nil)))))

theorem answers_firstPlaced {placed : List PlacedRule} {rules : List SuffixRule}
    (h : List.Forall₂ Answers placed rules) :
    Answers (firstPlaced placed) fun word => rules.findSome? (· word) := by
  intro word
  induction h with
  | nil => rfl
  | @cons _ rule _ _ hRule _ ih =>
      rw [firstPlaced, hRule word, Option.bind_some]
      dsimp only
      rw [List.findSome?_cons]
      cases rule word with
      | none => exact ih
      | some next => rfl

theorem answers_stripOnce : Answers stripOnceByPlaces stripOnce? := by
  intro word
  rw [stripOnceByPlaces, stripOnce?]
  split
  · exact answers_firstPlaced answers_placedRules word
  · rfl

/-- **Every round has an answer**, and there are fewer rounds than letters. -/
theorem stemByPlaces?_eq {rounds : Nat} {word : List Char} (hRounds : word.length < rounds) :
    stemByPlaces? rounds word = some (stemList word) := by
  induction rounds generalizing word with
  | zero => exact absurd hRounds (Nat.not_lt_zero _)
  | succ rounds ih =>
      rw [stemByPlaces?, answers_stripOnce word, Option.bind_some]
      cases hNext : stripOnce? word with
      | none => rw [stemList_of_none hNext]
      | some next =>
          have hShorter := length_lt_of_stripOnce? hNext
          rw [stemList_of_some hNext]
          exact ih (by omega)

/-! ## Bytes -/

/-- An ASCII letter is a byte. -/
theorem byteLength_of_letters {text : List Char} (h : ∀ c ∈ text, isAsciiLetter c = true) :
    byteLength text = text.length := by
  induction text with
  | nil => rfl
  | cons c rest ih =>
      rw [byteLength_cons, utf8Size_of_isAsciiLetter (h c List.mem_cons_self),
        ih fun d hMem => h d (List.mem_cons_of_mem c hMem), List.length_cons, Nat.add_comm]

theorem stem_of_not_stemmable {word : String} (h : isStemmable word.toList = false) :
    stem word = word := by
  have hNone : stripOnce? word.toList = none := by
    rw [stripOnce?, h]
    rfl
  rw [stem, stemList_of_none hNone, String.ofList_toList]

theorem stem_of_short_or_other {word : String}
    (h : word.utf8ByteSize < shortestStemmable ∨ ∃ c ∈ word.toList, isAsciiLetter c = false) :
    stem word = word := by
  apply stem_of_not_stemmable
  rw [Bool.eq_false_iff, Ne, isStemmable_iff]
  rintro ⟨hLong, hLetters⟩
  rcases h with hShort | ⟨c, hMem, hOther⟩
  · rw [← byteLength_toList, byteLength_of_letters hLetters] at hShort
    omega
  · rw [hLetters c hMem] at hOther
    exact absurd hOther (by decide)

theorem toList_stem (word : String) : (stem word).toList = stemList word.toList :=
  String.toList_ofList

/--
**What the stem of a word is.**  In as many rounds as the word has letters and one more, no round
looks at a letter that is not there, and in the end no rule applies any more, so that the stem is its
own stem.  A word of fewer than four bytes or with a character that is no ASCII letter is left as it
is.  What is left of a word is a beginning of it, or one that `ies` stands behind, with a `y`
instead.
-/
theorem stem_of_word (word : String) :
    stemByPlaces? (word.length + 1) word.toList = some (stem word).toList ∧
      stripOnce? (stem word).toList = none ∧
      stem (stem word) = stem word ∧
      (word.utf8ByteSize < shortestStemmable ∨ (∃ c ∈ word.toList, isAsciiLetter c = false) →
        stem word = word) ∧
      IsLeftOf (stem word).toList word.toList := by
  refine ⟨?_, ?_, ?_, stem_of_short_or_other, ?_⟩
  · rw [toList_stem, ← String.length_toList]
    exact stemByPlaces?_eq (Nat.lt_succ_self _)
  · rw [toList_stem]
    exact stripOnce?_stemList _
  · rw [stem, toList_stem, stemList_stemList, ← toList_stem, String.ofList_toList]
  · rw [toList_stem]
    exact isLeftOf_stemList _

end StaffSearch.Query
