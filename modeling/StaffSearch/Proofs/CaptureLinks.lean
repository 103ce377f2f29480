import Mathlib.Data.List.Forall2
import StaffSearch.Proofs.LeftmostFirst

/-!
# What links a trigger to a word

Between a trigger and the word that it captures stands a sign, one of the words "of" and "is"
between blanks, or nothing but blanks (`LinksTo`).  More than one kind of link can apply, since
blanks come into all of them; they are looked at in a fixed order, and the first one that applies
is taken (`IsFirstLink`).

The readers of the three kinds are identified with their links one by one, and the reader of the
word that follows a trigger is put together from them.

## Main results

* `Link.word?_eq_some_iff` — the three ways to a word are the three kinds of links.
* `followingWord?_eq_some_iff` — the word that follows stands behind the first link.
* `isWordAt_eq_false_of_linksTo` — no link starts with a word character.
-/

namespace StaffSearch.Query

open StaffSearch.Text

/-! ## Links and the words behind them -/

/-- The characters of the second word are those of the first one in any letter case. -/
def SameLetters (word other : List Char) : Prop :=
  List.Forall₂ (fun a b => sameLetter a b = true) word other

/-- Every character is blank. -/
def AllBlank (text : List Char) : Prop := ∀ c ∈ text, isBlank c = true

/-- One of the words "of" and "is" in any letter case. -/
def IsLinkWord (word : List Char) : Prop :=
  SameLetters ['o', 'f'] word ∨ SameLetters ['i', 's'] word

/-- What can stand between a trigger and a word. -/
inductive Link where
  /-- A colon or an equals sign. -/
  | sign
  /-- One of the words "of" and "is". -/
  | filler
  /-- Nothing but blanks. -/
  | blanks
  deriving DecidableEq

/-- The order in which links are looked at. -/
def Link.rank : Link → Nat
  | sign => 0
  | filler => 1
  | blanks => 2

/-- `text` is a link and then `target`, which starts with a word character. -/
inductive LinksTo : Link → List Char → List Char → Prop where
  /-- Optional blanks, a sign, and optional blanks. -/
  | sign {first second target : List Char} {sign : Char} (hFirst : AllBlank first)
      (hSign : sign = ':' ∨ sign = '=') (hSecond : AllBlank second)
      (hTarget : isWordAt target.head? = true) :
      LinksTo .sign (first ++ sign :: (second ++ target)) target
  /-- Blanks, a filler, and blanks. -/
  | filler {first word second target : List Char} (hFirst : AllBlank first) (hSome : first ≠ [])
      (hWord : IsLinkWord word) (hSecond : AllBlank second) (hMore : second ≠ [])
      (hTarget : isWordAt target.head? = true) :
      LinksTo .filler (first ++ (word ++ (second ++ target))) target
  /-- Blanks. -/
  | blanks {first target : List Char} (hFirst : AllBlank first) (hSome : first ≠ [])
      (hTarget : isWordAt target.head? = true) : LinksTo .blanks (first ++ target) target

/-- The link leads to `target`, and no link that is looked at before it leads anywhere. -/
structure IsFirstLink (link : Link) (text target : List Char) : Prop where
  /-- It leads there. -/
  linksTo : LinksTo link text target
  /-- No other one goes first. -/
  first : ∀ other, other.rank < link.rank → ∀ elsewhere, ¬ LinksTo other text elsewhere

/-- The word is the longest run of word characters that the text starts with, and not empty. -/
structure IsLeadingRun (word text : List Char) : Prop where
  /-- There is a word. -/
  nonempty : word ≠ []
  /-- It consists of word characters. -/
  letters : ∀ c ∈ word, isWordCharacter c = true
  /-- The text starts with it, and no word character follows. -/
  stops : ∃ rest, text = word ++ rest ∧ isWordAt rest.head? = false

/-! ## Blanks and words -/

/-- Blanks in front of a text that starts with none are all that is trimmed. -/
theorem trimStart_append {first : List Char} (hFirst : AllBlank first) {rest : List Char}
    (hRest : rest.head?.any isBlank = false) : trimStart (first ++ rest) = rest := by
  rw [trimStart, List.dropWhile_append_of_pos hFirst]
  cases rest with
  | nil => rfl
  | cons c rest => exact trimStart_cons hRest

theorem exists_append_trimStart (text : List Char) :
    ∃ first, AllBlank first ∧ text = first ++ trimStart text :=
  ⟨text.takeWhile isBlank, List.all_eq_true.mp List.all_takeWhile,
    List.takeWhile_append_dropWhile.symm⟩

theorem head?_trimStart (text : List Char) : (trimStart text).head?.any isBlank = false := by
  have hHead := List.head?_dropWhile_not isBlank text
  rw [trimStart]
  cases hRest : (text.dropWhile isBlank).head? with
  | none => rfl
  | some c =>
      rw [hRest] at hHead
      exact hHead

/-- Where a word starts there is no blank. -/
theorem any_isBlank_of_isWordAt {c : Option Char} (h : isWordAt c = true) :
    c.any isBlank = false := by
  cases c with
  | none => rfl
  | some c =>
      rw [Bool.eq_false_iff]
      intro hBlank
      have hWord : isWordCharacter c = true := h
      rw [isWordCharacter_eq_false_of_isBlank hBlank] at hWord
      exact absurd hWord (by decide)

theorem afterBlanks?_eq_some_iff {text rest : List Char} :
    afterBlanks? text = some rest ↔
      ∃ first, AllBlank first ∧ first ≠ [] ∧ text = first ++ rest ∧
        rest.head?.any isBlank = false := by
  constructor
  · intro h
    cases text with
    | nil => exact absurd h (by simp [afterBlanks?])
    | cons c behind =>
        rw [afterBlanks?] at h
        split at h
        · next hc =>
            obtain rfl := Option.some.inj h
            obtain ⟨first, hFirst, hSplit⟩ := exists_append_trimStart behind
            refine ⟨c :: first, ?_, List.cons_ne_nil c first, ?_, head?_trimStart behind⟩
            · exact List.forall_mem_cons.mpr ⟨hc, hFirst⟩
            · rw [List.cons_append, ← hSplit]
        · exact absurd h (by simp)
  · rintro ⟨first, hFirst, hSome, rfl, hRest⟩
    cases first with
    | nil => exact absurd rfl hSome
    | cons c first =>
        obtain ⟨hc, hFirst⟩ := List.forall_mem_cons.mp hFirst
        rw [List.cons_append, afterBlanks?, if_pos hc, trimStart_append hFirst hRest]

theorem leadingWord?_eq_some_iff {text word : List Char} :
    leadingWord? text = some word ↔ IsLeadingRun word text := by
  constructor
  · intro h
    unfold leadingWord? at h
    split at h
    · exact absurd h (by simp)
    · next hTaken =>
        obtain rfl := Option.some.inj h
        refine ⟨hTaken, List.all_eq_true.mp List.all_takeWhile, text.dropWhile isWordCharacter,
          List.takeWhile_append_dropWhile.symm, ?_⟩
        have hHead := List.head?_dropWhile_not isWordCharacter text
        cases hRest : (text.dropWhile isWordCharacter).head? with
        | none => rfl
        | some c =>
            rw [hRest] at hHead
            exact hHead
  · rintro ⟨hSome, hLetters, rest, rfl, hStops⟩
    have hTaken : (word ++ rest).takeWhile isWordCharacter = word := by
      rw [List.takeWhile_append_of_pos hLetters]
      cases rest with
      | nil => rw [List.takeWhile_nil, List.append_nil]
      | cons c rest =>
          have hc : isWordCharacter c = false := hStops
          rw [List.takeWhile_cons_of_neg (by rw [hc]; decide), List.append_nil]
    obtain ⟨c, tail, rfl⟩ := List.exists_cons_of_ne_nil hSome
    rw [leadingWord?, hTaken]

theorem IsLeadingRun.isWordAt {word text : List Char} (h : IsLeadingRun word text) :
    isWordAt text.head? = true := by
  obtain ⟨rest, rfl, -⟩ := h.stops
  obtain ⟨c, tail, rfl⟩ := List.exists_cons_of_ne_nil h.nonempty
  exact h.letters c List.mem_cons_self

theorem exists_isLeadingRun {text : List Char} (h : isWordAt text.head? = true) :
    ∃ word, IsLeadingRun word text := by
  cases text with
  | nil => exact absurd h (by decide)
  | cons c rest => exact ⟨_, leadingWord?_eq_some_iff.mp (leadingWord?_cons_of_pos h rest)⟩

/-! ## Links -/

/-- The word behind a link. -/
def Link.word? : Link → List Char → Option (List Char)
  | sign => wordAfterSign?
  | filler => wordAfterLink?
  | blanks => wordAfterBlanks?

theorem LinksTo.isWordAt {link : Link} {text target : List Char} (h : LinksTo link text target) :
    isWordAt target.head? = true := by
  cases h with
  | sign _ _ _ hTarget => exact hTarget
  | filler _ _ _ _ _ hTarget => exact hTarget
  | blanks _ _ hTarget => exact hTarget

theorem wordAfterSign?_eq_some_iff {text word : List Char} :
    wordAfterSign? text = some word ↔
      ∃ target, LinksTo .sign text target ∧ IsLeadingRun word target := by
  constructor
  · intro h
    obtain ⟨first, hFirst, hText⟩ := exists_append_trimStart text
    rw [wordAfterSign?] at h
    split at h
    · next c rest hTrim =>
        split at h
        · next hSign =>
            obtain ⟨second, hSecond, hRest⟩ := exists_append_trimStart rest
            have hRun := leadingWord?_eq_some_iff.mp h
            refine ⟨trimStart rest, ?_, hRun⟩
            rw [hText, hTrim]
            have hLink := LinksTo.sign hFirst hSign hSecond hRun.isWordAt
            rw [← hRest] at hLink
            exact hLink
        · exact absurd h (by simp)
    · exact absurd h (by simp)
  · rintro ⟨target, hLink, hRun⟩
    cases hLink with
    | @sign first second _ sign hFirst hSign hSecond hTarget =>
        have hNotBlank : (sign :: (second ++ target)).head?.any isBlank = false := by
          show isBlank sign = false
          rcases hSign with rfl | rfl <;> decide
        rw [wordAfterSign?, trimStart_append hFirst hNotBlank]
        dsimp only
        rw [if_pos hSign, trimStart_append hSecond (any_isBlank_of_isWordAt hTarget)]
        exact leadingWord?_eq_some_iff.mpr hRun

theorem sameLetters_pair_iff {a b : Char} {word : List Char} :
    SameLetters [a, b] word ↔
      ∃ c d, word = [c, d] ∧ sameLetter a c = true ∧ sameLetter b d = true := by
  constructor
  · intro h
    obtain ⟨c, tail, hc, hTail, rfl⟩ := List.forall₂_cons_left_iff.mp h
    obtain ⟨d, last, hd, hLast, rfl⟩ := List.forall₂_cons_left_iff.mp hTail
    obtain rfl := List.forall₂_nil_left_iff.mp hLast
    exact ⟨c, d, rfl, hc, hd⟩
  · rintro ⟨c, d, rfl, hc, hd⟩
    exact .cons hc (.cons hd .nil)

theorem afterLink?_eq_some_iff {text rest : List Char} :
    afterLink? text = some rest ↔ ∃ word, IsLinkWord word ∧ text = word ++ rest := by
  constructor
  · intro h
    unfold afterLink? at h
    split at h
    · next a b behind =>
        refine ⟨[a, b], ?_⟩
        split at h
        · next hOf =>
            obtain rfl := Option.some.inj h
            rw [Bool.and_eq_true] at hOf
            exact ⟨Or.inl (sameLetters_pair_iff.mpr ⟨a, b, rfl, hOf⟩), rfl⟩
        · split at h
          · next hIs =>
              obtain rfl := Option.some.inj h
              rw [Bool.and_eq_true] at hIs
              exact ⟨Or.inr (sameLetters_pair_iff.mpr ⟨a, b, rfl, hIs⟩), rfl⟩
          · exact absurd h (by simp)
    · exact absurd h (by simp)
  · rintro ⟨word, hWord, rfl⟩
    rcases hWord with hOf | hIs
    · obtain ⟨c, d, rfl, hc, hd⟩ := sameLetters_pair_iff.mp hOf
      show afterLink? (c :: d :: rest) = some rest
      rw [afterLink?, hc, hd]
      rfl
    · obtain ⟨c, d, rfl, hc, hd⟩ := sameLetters_pair_iff.mp hIs
      show afterLink? (c :: d :: rest) = some rest
      rw [afterLink?, hc, hd]
      simp

/-- No filler starts with a blank. -/
theorem IsLinkWord.head?_append {word : List Char} (h : IsLinkWord word) (rest : List Char) :
    (word ++ rest).head?.any isBlank = false := by
  have hPair : ∀ {a b : Char}, isAsciiLetter a = true → SameLetters [a, b] word →
      (word ++ rest).head?.any isBlank = false := by
    intro a b ha hSame
    obtain ⟨c, d, rfl, hc, -⟩ := sameLetters_pair_iff.mp hSame
    exact any_isBlank_of_isWordAt (c := some c) (isWordCharacter_of_sameLetter ha hc)
  rcases h with hOf | hIs
  · exact hPair (by decide) hOf
  · exact hPair (by decide) hIs

theorem wordAfterLink?_eq_some_iff {text word : List Char} :
    wordAfterLink? text = some word ↔
      ∃ target, LinksTo .filler text target ∧ IsLeadingRun word target := by
  constructor
  · intro h
    obtain ⟨behindLink, hLink, hWord⟩ := Option.bind_eq_some_iff.mp h
    obtain ⟨link, hBlanks, hFiller⟩ := Option.bind_eq_some_iff.mp hLink
    obtain ⟨target, hTarget, hLeading⟩ := Option.bind_eq_some_iff.mp hWord
    obtain ⟨first, hFirst, hSome, rfl, -⟩ := afterBlanks?_eq_some_iff.mp hBlanks
    obtain ⟨filler, hIsLinkWord, rfl⟩ := afterLink?_eq_some_iff.mp hFiller
    obtain ⟨second, hSecond, hMore, rfl, -⟩ := afterBlanks?_eq_some_iff.mp hTarget
    have hRun := leadingWord?_eq_some_iff.mp hLeading
    exact ⟨target, .filler hFirst hSome hIsLinkWord hSecond hMore hRun.isWordAt, hRun⟩
  · rintro ⟨target, hLink, hRun⟩
    cases hLink with
    | @filler first filler second _ hFirst hSome hWord hSecond hMore hTarget =>
        have hBlanks : afterBlanks? (first ++ (filler ++ (second ++ target))) =
            some (filler ++ (second ++ target)) :=
          afterBlanks?_eq_some_iff.mpr ⟨first, hFirst, hSome, rfl, hWord.head?_append _⟩
        have hFiller : afterLink? (filler ++ (second ++ target)) = some (second ++ target) :=
          afterLink?_eq_some_iff.mpr ⟨filler, hWord, rfl⟩
        have hBehind : afterBlanks? (second ++ target) = some target :=
          afterBlanks?_eq_some_iff.mpr
            ⟨second, hSecond, hMore, rfl, any_isBlank_of_isWordAt hTarget⟩
        rw [wordAfterLink?, hBlanks, Option.bind_some, hFiller, Option.bind_some, hBehind]
        exact leadingWord?_eq_some_iff.mpr hRun

theorem wordAfterBlanks?_eq_some_iff {text word : List Char} :
    wordAfterBlanks? text = some word ↔
      ∃ target, LinksTo .blanks text target ∧ IsLeadingRun word target := by
  constructor
  · intro h
    obtain ⟨target, hTarget, hLeading⟩ := Option.bind_eq_some_iff.mp h
    obtain ⟨first, hFirst, hSome, rfl, -⟩ := afterBlanks?_eq_some_iff.mp hTarget
    have hRun := leadingWord?_eq_some_iff.mp hLeading
    exact ⟨target, .blanks hFirst hSome hRun.isWordAt, hRun⟩
  · rintro ⟨target, hLink, hRun⟩
    cases hLink with
    | @blanks first _ hFirst hSome hTarget =>
        have hBehind : afterBlanks? (first ++ target) = some target :=
          afterBlanks?_eq_some_iff.mpr
            ⟨first, hFirst, hSome, rfl, any_isBlank_of_isWordAt hTarget⟩
        rw [wordAfterBlanks?, hBehind]
        exact leadingWord?_eq_some_iff.mpr hRun

/-- Each of the three ways to a word follows the link of its kind. -/
theorem Link.word?_eq_some_iff {link : Link} {text word : List Char} :
    link.word? text = some word ↔
      ∃ target, LinksTo link text target ∧ IsLeadingRun word target := by
  cases link with
  | sign => exact wordAfterSign?_eq_some_iff
  | filler => exact wordAfterLink?_eq_some_iff
  | blanks => exact wordAfterBlanks?_eq_some_iff

theorem Link.word?_eq_none_iff {link : Link} {text : List Char} :
    link.word? text = none ↔ ∀ target, ¬ LinksTo link text target := by
  rw [Option.eq_none_iff_forall_ne_some]
  constructor
  · intro h target hLink
    obtain ⟨word, hRun⟩ := exists_isLeadingRun hLink.isWordAt
    exact h word (Link.word?_eq_some_iff.mpr ⟨target, hLink, hRun⟩)
  · intro h word hWord
    obtain ⟨target, hLink, -⟩ := Link.word?_eq_some_iff.mp hWord
    exact h target hLink

/-- **The word that follows** stands behind the first link. -/
theorem followingWord?_eq_some_iff {text word : List Char} :
    followingWord? text = some word ↔
      ∃ link target, IsFirstLink link text target ∧ IsLeadingRun word target := by
  have hReads : followingWord? text =
      ((Link.sign.word? text).or (Link.filler.word? text)).or (Link.blanks.word? text) := rfl
  rw [hReads]
  constructor
  · intro h
    -- the link is the one whose word is taken, and those before it have none
    have hLink : ∃ link : Link, link.word? text = some word ∧
        ∀ other : Link, other.rank < link.rank → other.word? text = none := by
      rcases Option.or_eq_some_iff.mp h with hEarly | ⟨hNone, hBlanks⟩
      · rcases Option.or_eq_some_iff.mp hEarly with hSign | ⟨hNone, hFiller⟩
        · exact ⟨.sign, hSign, fun other hRank => absurd hRank (by simp [Link.rank])⟩
        · refine ⟨.filler, hFiller, ?_⟩
          rintro (_ | _ | _) hRank
          · exact hNone
          · exact absurd hRank (by decide)
          · exact absurd hRank (by decide)
      · obtain ⟨hSign, hFiller⟩ := Option.or_eq_none_iff.mp hNone
        refine ⟨.blanks, hBlanks, ?_⟩
        rintro (_ | _ | _) hRank
        · exact hSign
        · exact hFiller
        · exact absurd hRank (by decide)
    obtain ⟨link, hWord, hFirst⟩ := hLink
    obtain ⟨target, hTo, hRun⟩ := Link.word?_eq_some_iff.mp hWord
    exact ⟨link, target, ⟨hTo, fun other hRank => Link.word?_eq_none_iff.mp (hFirst other hRank)⟩,
      hRun⟩
  · rintro ⟨link, target, hFirst, hRun⟩
    have hWord := Link.word?_eq_some_iff.mpr ⟨target, hFirst.linksTo, hRun⟩
    have hNone : ∀ other : Link, other.rank < link.rank → other.word? text = none :=
      fun other hRank => Link.word?_eq_none_iff.mpr (hFirst.first other hRank)
    cases link with
    | sign => rw [hWord, Option.some_or, Option.some_or]
    | filler => rw [hNone .sign (by decide), Option.none_or, hWord, Option.some_or]
    | blanks =>
        rw [hNone .sign (by decide), hNone .filler (by decide), Option.none_or, Option.none_or,
          hWord]

/-- A word follows if and only if there is a link. -/
theorem exists_followingWord?_iff {text : List Char} :
    (∃ word, followingWord? text = some word) ↔ ∃ link target, LinksTo link text target := by
  constructor
  · rintro ⟨word, hWord⟩
    obtain ⟨link, target, hFirst, -⟩ := followingWord?_eq_some_iff.mp hWord
    exact ⟨link, target, hFirst.linksTo⟩
  · rintro ⟨link, target, hLink⟩
    obtain ⟨word, hRun⟩ := exists_isLeadingRun hLink.isWordAt
    have hWord := Link.word?_eq_some_iff.mpr ⟨target, hLink, hRun⟩
    rw [← Option.isSome_iff_exists]
    show (((Link.sign.word? text).or (Link.filler.word? text)).or
      (Link.blanks.word? text)).isSome = true
    rw [Option.isSome_or, Option.isSome_or]
    cases link with
    | sign => rw [hWord]; rfl
    | filler => rw [hWord, Option.isSome_some, Bool.or_true]; rfl
    | blanks => rw [hWord, Option.isSome_some, Bool.or_true]

/-- No link starts with a word character. -/
theorem isWordAt_eq_false_of_linksTo {link : Link} {text target : List Char}
    (h : LinksTo link text target) : isWordAt text.head? = false := by
  have hBlank : ∀ {first : List Char}, AllBlank first → first ≠ [] → ∀ rest,
      isWordAt (first ++ rest).head? = false := by
    intro first hFirst hSome rest
    obtain ⟨c, tail, rfl⟩ := List.exists_cons_of_ne_nil hSome
    exact isWordCharacter_eq_false_of_isBlank (hFirst c List.mem_cons_self)
  cases h with
  | @sign first _ _ sign hFirst hSign _ _ =>
      by_cases hSome : first = []
      · rw [hSome]
        show isWordCharacter sign = false
        rcases hSign with rfl | rfl <;> decide +kernel
      · exact hBlank hFirst hSome _
  | filler hFirst hSome _ _ _ _ => exact hBlank hFirst hSome _
  | blanks hFirst hSome _ => exact hBlank hFirst hSome _

end StaffSearch.Query
