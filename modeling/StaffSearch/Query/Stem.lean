import StaffSearch.Text.CharacterClass
import StaffSearch.Text.Split

/-!
# Stems of English words

Inflected forms of a word are compared through their stem. A suffix rule takes a word and answers
what it leaves of it, or nothing where it does not apply. The rules are tried in a fixed order, the
first that applies is used, and this repeats until none applies, so that a stem is always its own
stem. Words that are short or hold a character other than an ASCII letter are left alone.

The rules know lowercase letters only: they are meant for words that are lowercase already.

## Main results

* `length_lt_of_stripOnce?` — every rule shortens the word, so stripping ends.
* `stripOnce?_stemList` — no rule applies to a stem.
* `stemList_stemList` — hence a stem is its own stem.
-/

namespace StaffSearch.Query

open StaffSearch.Text

/-! ## Letters -/

/-- The vowels, `y` being one of them. -/
def isVowel (c : Char) : Bool := ['a', 'e', 'i', 'o', 'u', 'y'].contains c

/-- Whether the word ends in a letter with the property. -/
def endsWith (property : Char → Bool) (word : List Char) : Bool := word.getLast?.any property

/-- Letters that stay doubled when an ending is cut off after them. -/
def staysDoubled (c : Char) : Bool := isVowel c || ['l', 's', 'z'].contains c

/-! ## Lengths -/

/-- Words with fewer letters are never stemmed. -/
def shortestStemmable : Nat := 4

/-- What an ending leaves behind has at least this many letters. -/
def shortestStem : Nat := 3

/-- Words with fewer letters keep a final `e`. -/
def shortestBeforeFinalE : Nat := 5

/-! ## The suffix rules -/

/-- What a rule leaves of a word, where it applies. -/
abbrev SuffixRule := List Char → Option (List Char)

/-- Drops one letter of a doubled consonant at the end of a base that stays long enough. -/
def undouble (base : List Char) : List Char :=
  match base.reverse with
  | last :: beforeLast :: _ =>
    if shortestStem < base.length && last == beforeLast && !staysDoubled last then base.dropLast
    else base
  | _ => base

/-- A plural in `ies` goes back to its `y`: salaries, salary. -/
def pluralOfY : SuffixRule := fun word =>
  match beforeEnd? ['i', 'e', 's'] word with
  | some base => if 2 ≤ base.length then some (base ++ ['y']) else none
  | none => none

/-- A plural in `sses` loses its `es`: addresses, address. -/
def pluralOfSs : SuffixRule := fun word =>
  (beforeEnd? ['s', 's', 'e', 's'] word).map (· ++ ['s', 's'])

/-- A verb ending falls off a base that has a vowel and enough letters: joined, join. -/
def verbEnding (ending : List Char) : SuffixRule := fun word =>
  match beforeEnd? ending word with
  | some base =>
    if shortestStem ≤ base.length && base.any isVowel then some (undouble base) else none
  | none => none

/-- A final `s` falls off unless it belongs to `ss`, `us` or `is`: skills, skill. -/
def finalS : SuffixRule := fun word =>
  match beforeEnd? ['s'] word with
  | some base => if endsWith ['s', 'u', 'i'].contains base then none else some base
  | none => none

/-- A final `e` falls off after a consonant, in words that are long enough: delete, delet. -/
def finalE : SuffixRule := fun word =>
  match beforeEnd? ['e'] word with
  | some base =>
    if shortestBeforeFinalE ≤ word.length && endsWith (fun c => !isVowel c) base then some base
    else none
  | none => none

/-- The rules in the order in which they are tried. -/
def suffixRules : List SuffixRule :=
  [pluralOfY, pluralOfSs, verbEnding ['i', 'n', 'g'], verbEnding ['e', 'd'], finalS, finalE]

/-- Words the rules look at: long enough, and ASCII letters throughout. -/
def isStemmable (word : List Char) : Bool :=
  decide (shortestStemmable ≤ word.length) && word.all isAsciiLetter

/-- What the first rule that applies leaves of the word. -/
def stripOnce? (word : List Char) : Option (List Char) :=
  if isStemmable word then suffixRules.findSome? (· word) else none

/-! ## Every rule shortens the word -/

theorem length_undouble_le (base : List Char) : (undouble base).length ≤ base.length := by
  unfold undouble
  split
  · split
    · simp
    · exact Nat.le_refl _
  · exact Nat.le_refl _

theorem length_lt_of_pluralOfY {word next : List Char} (h : pluralOfY word = some next) :
    next.length < word.length := by
  unfold pluralOfY at h
  split at h
  · next base hbase =>
    rw [beforeEnd?_eq_some_iff] at hbase
    split at h
    · cases h; subst hbase; simp
    · simp at h
  · simp at h

theorem length_lt_of_pluralOfSs {word next : List Char} (h : pluralOfSs word = some next) :
    next.length < word.length := by
  obtain ⟨base, hbase, rfl⟩ := Option.map_eq_some_iff.mp h
  rw [beforeEnd?_eq_some_iff] at hbase
  subst hbase
  simp

theorem length_lt_of_verbEnding {ending word next : List Char} (hending : ending ≠ [])
    (h : verbEnding ending word = some next) : next.length < word.length := by
  unfold verbEnding at h
  split at h
  · next base hbase =>
    rw [beforeEnd?_eq_some_iff] at hbase
    split at h
    · cases h
      subst hbase
      have := length_undouble_le base
      have := List.length_pos_iff.mpr hending
      simp only [List.length_append]
      omega
    · simp at h
  · simp at h

theorem length_lt_of_finalS {word next : List Char} (h : finalS word = some next) :
    next.length < word.length := by
  unfold finalS at h
  split at h
  · next base hbase =>
    rw [beforeEnd?_eq_some_iff] at hbase
    split at h
    · simp at h
    · cases h; subst hbase; simp
  · simp at h

theorem length_lt_of_finalE {word next : List Char} (h : finalE word = some next) :
    next.length < word.length := by
  unfold finalE at h
  split at h
  · next base hbase =>
    rw [beforeEnd?_eq_some_iff] at hbase
    split at h
    · cases h; subst hbase; simp
    · simp at h
  · simp at h

theorem length_lt_of_mem_suffixRules {rule : SuffixRule} (hrule : rule ∈ suffixRules)
    {word next : List Char} (h : rule word = some next) : next.length < word.length := by
  simp only [suffixRules, List.mem_cons, List.not_mem_nil, or_false] at hrule
  rcases hrule with rfl | rfl | rfl | rfl | rfl | rfl
  · exact length_lt_of_pluralOfY h
  · exact length_lt_of_pluralOfSs h
  · exact length_lt_of_verbEnding (by simp) h
  · exact length_lt_of_verbEnding (by simp) h
  · exact length_lt_of_finalS h
  · exact length_lt_of_finalE h

theorem length_lt_of_stripOnce? {word next : List Char} (h : stripOnce? word = some next) :
    next.length < word.length := by
  unfold stripOnce? at h
  split at h
  · obtain ⟨rule, hrule, hnext⟩ := List.exists_of_findSome?_eq_some h
    exact length_lt_of_mem_suffixRules hrule hnext
  · simp at h

/-! ## Stems -/

/-- What is left of a word when no suffix rule applies any more. -/
def stemList (word : List Char) : List Char :=
  match _ : stripOnce? word with
  | some next => stemList next
  | none => word
termination_by word.length
decreasing_by exact length_lt_of_stripOnce? ‹_›

/-- The stem of a word. -/
def stem (word : String) : String := String.ofList (stemList word.toList)

theorem stemList_of_some {word next : List Char} (h : stripOnce? word = some next) :
    stemList word = stemList next := by
  rw [stemList]
  split
  · next h' => rw [h] at h'; cases h'; rfl
  · next h' => rw [h] at h'; cases h'

theorem stemList_of_none {word : List Char} (h : stripOnce? word = none) :
    stemList word = word := by
  rw [stemList]
  split
  · next h' => rw [h] at h'; cases h'
  · rfl

theorem stripOnce?_stemList (word : List Char) : stripOnce? (stemList word) = none := by
  fun_induction stemList word with
  | case1 _ _ _ ih => exact ih
  | case2 _ h => exact h

theorem stemList_stemList (word : List Char) : stemList (stemList word) = stemList word :=
  stemList_of_none (stripOnce?_stemList word)

end StaffSearch.Query
