import StaffSearch.Proofs.AsciiCase
import StaffSearch.Proofs.Lowercasing
import StaffSearch.Query.Capture

/-!
# The word behind a trigger, as a pattern

The word behind a trigger can be asked for with a pattern:

    \b trigger \b (?: \s* [:=] \s* | \s+ (?: of | is ) \s+ | \s+ ) ( \w+ )

in which letters stand for both of their cases.  A pattern can match in many ways, which are tried
in a fixed order: repetitions take as much as they can and give it back bit by bit, and of two
alternatives the left one goes first.  A search goes from left to right and takes the first way at
the first place that has one.

The reader of `firstWord?` tries nothing twice.  It may do so because no repetition of the pattern
ever has to give anything back: what follows a repetition cannot start with a character that is
repeated (`ReadsBehind.many`), and behind the last repetition nothing follows.  So both find the
same word (`search?_sitePattern`).
-/

namespace StaffSearch.Query

open StaffSearch.Text

/-! ## Patterns and their ways -/

/-- A place in a text that a pattern has reached. -/
structure Place where
  /-- The character in front of the place. -/
  before : Option Char
  /-- The text behind the place. -/
  behind : List Char
  /-- What has been captured on the way. -/
  captured : Option (List Char)

/-- Patterns over the characters of a text. -/
inductive Pattern where
  /-- A place where a word begins or ends. -/
  | boundary
  /-- One character of a class. -/
  | one (admits : Char → Bool)
  /-- Any number of characters of a class, as many as possible first. -/
  | many (admits : Char → Bool)
  /-- One pattern behind the other. -/
  | seq (first second : Pattern)
  /-- One of two patterns, the first one if possible. -/
  | either (first second : Pattern)
  /-- A pattern whose text is captured. -/
  | capture (inner : Pattern)

/-- The places that are reached by any number of characters of a class, the last one first. -/
def manyWays (admits : Char → Bool) (captured : Option (List Char)) :
    Option Char → List Char → List Place
  | before, [] => [⟨before, [], captured⟩]
  | before, c :: rest =>
    (if admits c then manyWays admits captured (some c) rest else []) ++
      [⟨before, c :: rest, captured⟩]

/-- The places that a pattern leads to, in the order in which they are tried. -/
def Pattern.ways : Pattern → Place → List Place
  | .boundary, place => if isBoundary place.before place.behind.head? then [place] else []
  | .one admits, place =>
    match place.behind with
    | [] => []
    | c :: rest => if admits c then [⟨some c, rest, place.captured⟩] else []
  | .many admits, place => manyWays admits place.captured place.before place.behind
  | .seq first second, place => (first.ways place).flatMap second.ways
  | .either first second, place => first.ways place ++ second.ways place
  | .capture inner, place =>
    (inner.ways place).map fun next =>
      let taken := place.behind.take (place.behind.length - next.behind.length)
      { next with captured := some taken }

/-- Where the first way of a pattern ends, at the leftmost place that has one; `before` stands in
front of the text. -/
def Pattern.search? (pattern : Pattern) (before : Option Char) : List Char → Option Place
  | [] => (pattern.ways ⟨before, [], none⟩).head?
  | c :: rest =>
    ((pattern.ways ⟨before, c :: rest, none⟩).head?).or (pattern.search? (some c) rest)

/-! ## The pattern of a site -/

/-- The characters of a word in any letter case, and then a pattern. -/
def spelled (word : List Char) (behind : Pattern) : Pattern :=
  word.foldr (fun c pattern => .seq (.one (sameLetter c)) pattern) behind

/-- At least one character of a class, as many as possible first. -/
def oneOrMore (admits : Char → Bool) : Pattern := .seq (.one admits) (.many admits)

/-- A colon or an equals sign, with blanks around it. -/
def signLink : Pattern :=
  .seq (.many isBlank) (.seq (.one fun c => c = ':' ∨ c = '=') (.many isBlank))

/-- One of the words "of" and "is", between blanks. -/
def fillerLink : Pattern :=
  .seq (oneOrMore isBlank)
    (.seq
      (.either (.seq (.one (sameLetter 'o')) (.one (sameLetter 'f')))
        (.seq (.one (sameLetter 'i')) (.one (sameLetter 's'))))
      (oneOrMore isBlank))

/-- The pattern of a trigger and the word behind it. -/
def sitePattern (trigger : List Char) : Pattern :=
  .seq .boundary <| spelled trigger <| .seq .boundary <|
    .seq (.either signLink (.either fillerLink (oneOrMore isBlank)))
      (.capture (oneOrMore isWordCharacter))

/-! ## The first way that can be continued -/

/-- What is found behind the first way of a pattern behind which something is found. -/
def Pattern.lead? {α : Type} (pattern : Pattern) (next : Place → Option α) (place : Place) :
    Option α :=
  (pattern.ways place).findSome? next

/-- What is found at a place is read off the text behind it. -/
def ReadsBehind {α : Type} (next : Place → Option α) (read : List Char → Option α) : Prop :=
  ∀ place, next place = read place.behind

section Leading

variable {α : Type} {next : Place → Option α} {read : List Char → Option α} {admits : Char → Bool}

theorem lead?_boundary (place : Place) :
    Pattern.boundary.lead? next place =
      if isBoundary place.before place.behind.head? then next place else none := by
  rw [Pattern.lead?, Pattern.ways]
  split
  · exact List.findSome?_singleton
  · rfl

theorem lead?_one_cons (before : Option Char) (c : Char) (rest : List Char)
    (captured : Option (List Char)) :
    (Pattern.one admits).lead? next ⟨before, c :: rest, captured⟩ =
      if admits c then next ⟨some c, rest, captured⟩ else none := by
  rw [Pattern.lead?, Pattern.ways]
  dsimp only
  split
  · exact List.findSome?_singleton
  · rfl

theorem lead?_seq (first second : Pattern) :
    (Pattern.seq first second).lead? next = first.lead? (second.lead? next) := by
  funext place
  rw [Pattern.lead?, Pattern.lead?, Pattern.ways]
  induction first.ways place with
  | nil => rfl
  | cons middle ways ih =>
      rw [List.flatMap_cons, List.findSome?_append, ih, List.findSome?_cons, Pattern.lead?]
      cases (second.ways middle).findSome? next <;> rfl

theorem lead?_either (first second : Pattern) (place : Place) :
    (Pattern.either first second).lead? next place =
      (first.lead? next place).or (second.lead? next place) :=
  List.findSome?_append

/-- A character of a class, and what is read behind it. -/
def readOne (admits : Char → Bool) (read : List Char → Option α) : List Char → Option α
  | [] => none
  | c :: rest => if admits c then read rest else none

@[simp] theorem readOne_cons (c : Char) (rest : List Char) :
    readOne admits read (c :: rest) = if admits c then read rest else none := rfl

theorem ReadsBehind.one (hNext : ReadsBehind next read) :
    ReadsBehind ((Pattern.one admits).lead? next) (readOne admits read) := by
  rintro ⟨before, behind, captured⟩
  cases behind with
  | nil => rfl
  | cons c rest =>
      rw [lead?_one_cons, hNext]
      rfl

/-- **A repetition gives nothing back** where that does not help: where nothing can be read behind
all of the characters, nothing can be read behind fewer of them. -/
theorem ReadsBehind.many (hNext : ReadsBehind next read)
    (hDeep : ∀ c rest, admits c = true → read (rest.dropWhile admits) = none →
      read (c :: rest) = none) :
    ReadsBehind ((Pattern.many admits).lead? next) fun text => read (text.dropWhile admits) := by
  rintro ⟨before, behind, captured⟩
  rw [Pattern.lead?, Pattern.ways]
  dsimp only
  induction behind generalizing before with
  | nil =>
      rw [manyWays, List.findSome?_singleton, hNext]
      rfl
  | cons c rest ih =>
      rw [manyWays, List.findSome?_append, List.findSome?_singleton, hNext]
      by_cases hc : admits c = true
      · rw [if_pos hc, ih (some c), List.dropWhile_cons_of_pos hc]
        cases hRest : read (rest.dropWhile admits) with
        | none => rw [hDeep c rest hc hRest]; rfl
        | some found => rfl
      · rw [if_neg hc, List.dropWhile_cons_of_neg hc]
        rfl

theorem ReadsBehind.either {first second : Pattern} {other : List Char → Option α}
    (hFirst : ReadsBehind (first.lead? next) read)
    (hSecond : ReadsBehind (second.lead? next) other) :
    ReadsBehind ((Pattern.either first second).lead? next) fun text =>
      (read text).or (other text) := by
  intro place
  rw [lead?_either, hFirst, hSecond]

theorem ReadsBehind.repeated (hNext : ReadsBehind next read)
    (hDeep : ∀ c rest, admits c = true → read (rest.dropWhile admits) = none →
      read (c :: rest) = none) :
    ReadsBehind ((oneOrMore admits).lead? next)
      (readOne admits fun text => read (text.dropWhile admits)) := by
  rw [oneOrMore, lead?_seq]
  exact (hNext.many hDeep).one

end Leading

/-! ## Classes of characters in a site -/

/-- Blank characters are no word characters. -/
theorem isWordCharacter_eq_false_of_isBlank {c : Char} (hc : isBlank c = true) :
    isWordCharacter c = false := by
  have hApart : ∀ ranges : CodeRanges, blankRanges.disjoint ranges = true →
      ranges.contains c = false := fun ranges hDisjoint =>
    CodeRanges.contains_eq_false_of_disjoint hDisjoint hc
  have hAlphabetic : isAlphabetic c = false := hApart _ (by decide +kernel)
  have hMark : isMark c = false := hApart _ (by decide +kernel)
  have hDigit : isDecimalDigit c = false := hApart _ (by decide +kernel)
  have hConnector : connectorRanges.contains c = false := hApart _ (by decide +kernel)
  have hJoin : joinControlRanges.contains c = false := hApart _ (by decide +kernel)
  rw [isWordCharacter, hAlphabetic, hMark, hDigit, hConnector, hJoin]
  rfl

/-- What counts as an ASCII letter is a letter. -/
theorem isAlphabetic_of_sameLetter {t c : Char} (ht : isAsciiLetter t = true)
    (hSame : sameLetter t c = true) : isAlphabetic c = true := by
  have hKey : caseKey c = (lowerAscii t).toNat := by
    rw [← caseKey_of_isAsciiLetter ht]
    exact (beq_iff_eq.mp hSame).symm
  have hSmall : 0x61 ≤ caseKey c ∧ caseKey c ≤ 0x7A := by
    have hRange := isAsciiLetter_iff.mp ht
    rw [hKey, toNat_lowerAscii]
    split <;> omega
  cases hFolded : foldedLetters.lookup c.toNat with
  | some key =>
      -- only the long s is folded to an ASCII letter
      have hEntries : ∀ entry ∈ foldedLetters, 0x61 ≤ entry.2 → entry.2 ≤ 0x7A →
          alphabeticRanges.covers entry.1 entry.1 = true := by decide +kernel
      rw [caseKey, hFolded, Option.getD_some] at hSmall
      obtain ⟨before, after, hSplit, -⟩ := List.lookup_eq_some_iff.mp hFolded
      have hMem : (c.toNat, key) ∈ foldedLetters := by
        rw [hSplit]
        exact List.mem_append_right _ List.mem_cons_self
      exact CodeRanges.contains_of_covers (hEntries _ hMem hSmall.1 hSmall.2) (Nat.le_refl _)
        (Nat.le_refl _)
  | none =>
      rw [caseKey, hFolded, Option.getD_none] at hSmall
      rcases lowerLetter_cases c with hOwn | hCapital
      · have hCode : (lowerLetter c).toNat = lowerCode c.toNat :=
          toNat_ofNat (Or.inl (by omega))
        rw [hOwn] at hCode
        exact isAlphabetic_of_isAsciiLetter (isAsciiLetter_iff.mpr (Or.inl (by omega)))
      · exact hCapital.capital

theorem isWordCharacter_of_sameLetter {t c : Char} (ht : isAsciiLetter t = true)
    (hSame : sameLetter t c = true) : isWordCharacter c = true := by
  rw [isWordCharacter, isAlphabetic_of_sameLetter ht hSame]
  rfl

theorem sameLetter_eq_false_of_isBlank {t c : Char} (ht : isAsciiLetter t = true)
    (hc : isBlank c = true) : sameLetter t c = false := by
  rw [Bool.eq_false_iff]
  intro hSame
  have hWord := isWordCharacter_of_sameLetter ht hSame
  rw [isWordCharacter_eq_false_of_isBlank hc] at hWord
  exact absurd hWord (by decide)

/-! ## The word that is captured -/

theorem leadingWord?_cons_of_pos {c : Char} (hc : isWordCharacter c = true) (rest : List Char) :
    leadingWord? (c :: rest) = some ((c :: rest).takeWhile isWordCharacter) := by
  rw [leadingWord?, List.takeWhile_cons_of_pos hc]

theorem leadingWord?_cons_of_neg {c : Char} (hc : isWordCharacter c = false) (rest : List Char) :
    leadingWord? (c :: rest) = none := by
  rw [leadingWord?, List.takeWhile_cons_of_neg (by rw [hc]; decide)]

/-- What is captured of a text is the part of it that is gone behind it. -/
theorem take_length_sub_dropWhile (text : List Char) (admits : Char → Bool) :
    text.take (text.length - (text.dropWhile admits).length) = text.takeWhile admits := by
  have hSplit := List.takeWhile_append_dropWhile (p := admits) (l := text)
  have hLength := congrArg List.length hSplit
  rw [List.length_append] at hLength
  have hTaken : text.length - (text.dropWhile admits).length = (text.takeWhile admits).length := by
    omega
  rw [hTaken]
  exact (List.prefix_iff_eq_take.mp (List.takeWhile_prefix admits)).symm

/-- The word that is captured at a place. -/
def wordAt? : Place → Option (Option (List Char)) :=
  (Pattern.capture (oneOrMore isWordCharacter)).lead? fun place => some place.captured

/-- **What is captured** is the longest run of word characters. -/
theorem readsBehind_wordAt? : ReadsBehind wordAt? fun text => (leadingWord? text).map some := by
  intro place
  have hTaken : ReadsBehind
      (fun next : Place =>
        some (some (place.behind.take (place.behind.length - next.behind.length))))
      fun text => some (some (place.behind.take (place.behind.length - text.length))) :=
    fun _ => rfl
  have hLead : (oneOrMore isWordCharacter).lead? _ place = readOne isWordCharacter _ place.behind :=
    hTaken.repeated (fun _ _ _ h => absurd h (by simp)) place
  have hCapture : wordAt? place = (oneOrMore isWordCharacter).lead?
      (fun next => some (some (place.behind.take (place.behind.length - next.behind.length))))
      place := by
    rw [wordAt?, Pattern.lead?, Pattern.ways, List.findSome?_map]
    rfl
  rw [hCapture, hLead]
  show _ = (leadingWord? place.behind).map some
  cases place.behind with
  | nil => rfl
  | cons c rest =>
      rw [readOne_cons]
      cases hc : isWordCharacter c with
      | true =>
          have hRun := take_length_sub_dropWhile (c :: rest) isWordCharacter
          rw [List.dropWhile_cons_of_pos hc] at hRun
          rw [if_pos rfl, hRun, leadingWord?_cons_of_pos hc]
          rfl
      | false =>
          rw [if_neg (by decide), leadingWord?_cons_of_neg hc]
          rfl

/-! ## The links -/

section Links

variable {α : Type} {next : Place → Option α} {read : List Char → Option α}

/-- What cannot start with a blank is read behind all of them. -/
theorem ReadsBehind.blanks (hNext : ReadsBehind next read)
    (hBlank : ∀ c rest, isBlank c = true → read (c :: rest) = none) :
    ReadsBehind ((oneOrMore isBlank).lead? next) fun text =>
      (afterBlanks? text).bind read := by
  intro place
  rw [hNext.repeated (fun c rest hc _ => hBlank c rest hc)]
  show _ = (afterBlanks? place.behind).bind read
  cases place.behind with
  | nil => rfl
  | cons c rest =>
      rw [readOne_cons, afterBlanks?]
      split <;> rfl

/-- Behind one of the words "of" and "is". -/
theorem ReadsBehind.linkWord (hNext : ReadsBehind next read) :
    ReadsBehind
      ((Pattern.either (.seq (.one (sameLetter 'o')) (.one (sameLetter 'f')))
        (.seq (.one (sameLetter 'i')) (.one (sameLetter 's')))).lead? next)
      fun text => (afterLink? text).bind read := by
  have hWord : ∀ a b : Char,
      ReadsBehind ((Pattern.seq (.one (sameLetter a)) (.one (sameLetter b))).lead? next)
        (readOne (sameLetter a) (readOne (sameLetter b) read)) := by
    intro a b
    rw [lead?_seq]
    exact hNext.one.one
  intro place
  rw [(hWord 'o' 'f').either (hWord 'i' 's')]
  show _ = (afterLink? place.behind).bind read
  match place.behind with
  | [] | [_] => simp [readOne, afterLink?]
  | a :: b :: rest =>
      simp only [readOne_cons, afterLink?]
      -- both sides make the same four tests
      cases sameLetter 'o' a <;> cases sameLetter 'f' b <;> cases sameLetter 'i' a <;>
        cases sameLetter 's' b <;> simp

end Links

/-- No word starts with a blank. -/
theorem leadingWord?_of_blank (c : Char) (rest : List Char) (hc : isBlank c = true) :
    (leadingWord? (c :: rest)).map some = none := by
  rw [leadingWord?_cons_of_neg (isWordCharacter_eq_false_of_isBlank hc)]
  rfl

theorem readsBehind_signLink :
    ReadsBehind (signLink.lead? wordAt?) fun text => (wordAfterSign? text).map some := by
  have hSign : ReadsBehind ((Pattern.one fun c => c = ':' ∨ c = '=').lead? _)
      (readOne (fun c => c = ':' ∨ c = '=') _) :=
    (readsBehind_wordAt?.many fun c rest hc _ => leadingWord?_of_blank c rest hc).one
  have hRead : ReadsBehind ((Pattern.many isBlank).lead? _) _ := hSign.many (by
    intro c rest hc _
    rw [readOne_cons, if_neg]
    intro hChar
    rcases of_decide_eq_true hChar with rfl | rfl
    · exact absurd hc (by decide)
    · exact absurd hc (by decide))
  intro place
  rw [signLink, lead?_seq, lead?_seq, hRead]
  show readOne _ _ (trimStart place.behind) = (wordAfterSign? place.behind).map some
  rw [wordAfterSign?]
  cases trimStart place.behind with
  | nil => rfl
  | cons c rest =>
      rw [readOne_cons]
      simp only [decide_eq_true_eq]
      split <;> rfl

theorem readsBehind_fillerLink :
    ReadsBehind (fillerLink.lead? wordAt?) fun text => (wordAfterLink? text).map some := by
  have hRead := (readsBehind_wordAt?.blanks leadingWord?_of_blank).linkWord.blanks (by
    intro c rest hc
    have hNoLetter : ∀ t, isAsciiLetter t = true → sameLetter t c = false := fun t ht =>
      sameLetter_eq_false_of_isBlank ht hc
    cases rest with
    | nil => rfl
    | cons d rest =>
        rw [afterLink?, hNoLetter 'o' (by decide), hNoLetter 'i' (by decide)]
        rfl)
  intro place
  show _ = (wordAfterLink? place.behind).map some
  rw [fillerLink, lead?_seq, lead?_seq, hRead, wordAfterLink?, Option.bind_assoc]
  simp only [Option.map_bind, Function.comp_def]

theorem readsBehind_blankLink :
    ReadsBehind ((oneOrMore isBlank).lead? wordAt?) fun text =>
      (wordAfterBlanks? text).map some := by
  intro place
  show _ = (wordAfterBlanks? place.behind).map some
  rw [readsBehind_wordAt?.blanks leadingWord?_of_blank, wordAfterBlanks?, Option.map_bind]
  rfl

/-- What links a trigger to the word behind it. -/
theorem readsBehind_link :
    ReadsBehind ((Pattern.either signLink (.either fillerLink (oneOrMore isBlank))).lead? wordAt?)
      fun text => (followingWord? text).map some := by
  intro place
  show _ = (followingWord? place.behind).map some
  rw [readsBehind_signLink.either (readsBehind_fillerLink.either readsBehind_blankLink),
    followingWord?, Option.map_or, Option.map_or, Option.or_assoc]

/-! ## Sites -/

theorem lead?_spelled {α : Type} {next : Place → Option α} (behind : Pattern) (word : List Char)
    (captured : Option (List Char)) :
    ∀ (before : Option Char) (text : List Char),
      (spelled word behind).lead? next ⟨before, text, captured⟩ =
        (afterTrigger? before word text).bind fun found =>
          behind.lead? next ⟨found.1, found.2, captured⟩ := by
  induction word with
  | nil =>
      intro before text
      rfl
  | cons t word ih =>
      intro before text
      rw [spelled, List.foldr_cons, lead?_seq]
      cases text with
      | nil => rfl
      | cons c text =>
          rw [lead?_one_cons, afterTrigger?]
          split
          · exact ih (some c) text
          · rfl

/-- **The pattern and the reader find the same word at a site.** -/
theorem lead?_sitePattern (trigger : List Char) (before : Option Char) (text : List Char) :
    (sitePattern trigger).lead? (fun place => some place.captured) ⟨before, text, none⟩ =
      (wordAtSite? trigger before text).map some := by
  rw [sitePattern, lead?_seq, lead?_boundary, wordAtSite?]
  dsimp only
  split
  · rw [lead?_spelled]
    cases afterTrigger? before trigger text with
    | none => rfl
    | some found =>
        rw [Option.bind_some, lead?_seq, lead?_boundary, lead?_seq, ← wordAt?, readsBehind_link]
        dsimp only
        split <;> rfl
  · rfl

@[simp] theorem firstWord?_nil (trigger : List Char) (before : Option Char) :
    firstWord? trigger before [] = wordAtSite? trigger before [] := by
  rw [firstWord?.eq_def]
  cases wordAtSite? trigger before [] <;> rfl

@[simp] theorem firstWord?_cons (trigger : List Char) (before : Option Char) (c : Char)
    (rest : List Char) :
    firstWord? trigger before (c :: rest) =
      (wordAtSite? trigger before (c :: rest)).or (firstWord? trigger (some c) rest) := by
  rw [firstWord?.eq_def]
  cases wordAtSite? trigger before (c :: rest) <;> rfl

/-- **The leftmost first way of the pattern captures the word of the leftmost site.** -/
theorem search?_sitePattern (trigger : List Char) (text : List Char) :
    ∀ before, ((sitePattern trigger).search? before text).map (·.captured) =
      (firstWord? trigger before text).map some := by
  have hHere : ∀ before text,
      ((sitePattern trigger).ways ⟨before, text, none⟩).head?.map (·.captured) =
        (wordAtSite? trigger before text).map some := by
    intro before text
    rw [← lead?_sitePattern, Pattern.lead?]
    cases (sitePattern trigger).ways ⟨before, text, none⟩ <;> rfl
  induction text with
  | nil =>
      intro before
      rw [Pattern.search?, hHere, firstWord?_nil]
  | cons c rest ih =>
      intro before
      rw [Pattern.search?, Option.map_or, hHere, ih, firstWord?_cons, Option.map_or]

/-- What the pattern of a trigger captures in a text. -/
def patternCapture? (trigger text : List Char) : Option (List Char) :=
  ((sitePattern trigger).search? none text).bind (·.captured)

theorem patternCapture?_eq_firstWord? (trigger text : List Char) :
    patternCapture? trigger text = firstWord? trigger none text := by
  have hSearch := search?_sitePattern trigger text none
  rw [patternCapture?]
  cases hFound : (sitePattern trigger).search? none text with
  | none =>
      rw [hFound] at hSearch
      exact (Option.map_eq_none_iff.mp hSearch.symm).symm
  | some place =>
      rw [hFound, Option.map_some] at hSearch
      obtain ⟨word, hWord, hCaptured⟩ := Option.map_eq_some_iff.mp hSearch.symm
      rw [hWord, Option.bind_some, hCaptured]

end StaffSearch.Query
