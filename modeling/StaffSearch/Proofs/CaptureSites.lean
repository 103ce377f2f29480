import StaffSearch.Proofs.CaptureLinks
import StaffSearch.Query.Extractor

/-!
# Which word is captured

A site of a trigger is a place where the trigger stands, in any letter case and behind no word
character, with a link and a word behind it.  This file says which word is captured without saying
how it is looked for: it is the longest run of word characters behind the first link that applies
at the leftmost site (`IsCaptured`), and nothing is captured where there is no site.

That a word must also end behind the trigger needs no mention, because no link starts with a word
character (`isWordAt_eq_false_of_linksTo`).

## Main results

* `wordAtSite?_eq_some_iff` — a reader that starts at a place finds what a site there has.
* `firstWord?_eq_some_iff_isCaptured` — the search finds the captured word and no other.
* `extract_capture_iff` — what the extractor yields, with the pattern beside it.
-/

namespace StaffSearch.Query

open StaffSearch.Text

/-! ## Captured words -/

/-- Between `before` and `behind` the text has the trigger, and there is a site. -/
structure IsSite (trigger text before behind : List Char) : Prop where
  /-- The trigger stands there in some letter case. -/
  spelled : ∃ word, SameLetters trigger word ∧ text = before ++ (word ++ behind)
  /-- No word character stands in front of it. -/
  starts : isWordAt before.getLast? = false
  /-- A link and a word stand behind it. -/
  linked : ∃ link target, LinksTo link behind target

/-- The word stands behind the first link of the leftmost site. -/
def IsCaptured (trigger text word : List Char) : Prop :=
  ∃ before behind link target, IsSite trigger text before behind ∧
    (∀ earlier rest, IsSite trigger text earlier rest → before.length ≤ earlier.length) ∧
      IsFirstLink link behind target ∧ IsLeadingRun word target

/-- What is read off a text for a field: nothing where there is no site or where the captured word
is a function word, and otherwise the captured word, as it is spelled in the text. -/
inductive CaptureReading (trigger text : List Char) (field : Field) :
    List (Field × Constraint) → Prop where
  /-- There is no site. -/
  | noSite (hNone : ∀ before behind, ¬ IsSite trigger text before behind) :
      CaptureReading trigger text field []
  /-- The captured word is a function word. -/
  | functionWord {word : List Char} (hWord : IsCaptured trigger text word)
      (hFunction : lowercase (String.ofList word) ∈ functionWords) :
      CaptureReading trigger text field []
  /-- A word is captured. -/
  | word {word : List Char} (hWord : IsCaptured trigger text word)
      (hContent : lowercase (String.ofList word) ∉ functionWords) :
      CaptureReading trigger text field [(field, .containsPattern (String.ofList word))]

/-! ## Sites -/

/-- What follows the trigger, with the last character of the trigger. -/
theorem afterTrigger?_eq_some_iff (trigger : List Char) :
    ∀ {before last : Option Char} {text rest : List Char},
      afterTrigger? before trigger text = some (last, rest) ↔
        ∃ word, SameLetters trigger word ∧ text = word ++ rest ∧
          last = word.getLast?.or before := by
  induction trigger with
  | nil =>
      intro before last text rest
      constructor
      · intro h
        obtain ⟨rfl, rfl⟩ := Prod.mk.inj (Option.some.inj h)
        exact ⟨[], .nil, rfl, rfl⟩
      · rintro ⟨word, hSame, rfl, rfl⟩
        obtain rfl := List.forall₂_nil_left_iff.mp hSame
        rfl
  | cons t trigger ih =>
      intro before last text rest
      have hLast : ∀ (c : Char) (word : List Char),
          (c :: word).getLast?.or before = word.getLast?.or (some c) := by
        intro c word
        rw [List.getLast?_cons]
        cases word.getLast? <;> rfl
      cases text with
      | nil =>
          constructor
          · intro h
            exact absurd h (by simp [afterTrigger?])
          · rintro ⟨word, hSame, hText, -⟩
            obtain ⟨c, tail, -, -, rfl⟩ := List.forall₂_cons_left_iff.mp hSame
            exact absurd hText (by simp)
      | cons c text =>
          rw [afterTrigger?]
          constructor
          · intro h
            split at h
            · next hc =>
                obtain ⟨word, hSame, rfl, rfl⟩ := ih.mp h
                exact ⟨c :: word, .cons hc hSame, rfl, (hLast c word).symm⟩
            · exact absurd h (by simp)
          · rintro ⟨word, hSame, hText, rfl⟩
            obtain ⟨d, tail, hd, hTail, rfl⟩ := List.forall₂_cons_left_iff.mp hSame
            obtain ⟨rfl, rfl⟩ := List.cons.inj hText
            rw [if_pos hd]
            exact ih.mpr ⟨tail, hTail, rfl, hLast c tail⟩

/-- A trigger that can be looked for: it has a letter, and nothing but ASCII letters. -/
structure IsTrigger (trigger : List Char) : Prop where
  /-- It has a letter. -/
  nonempty : trigger ≠ []
  /-- All of it is ASCII letters. -/
  letters : ∀ c ∈ trigger, isAsciiLetter c = true

/-! ## The leftmost site -/

/-- A site is known by how much text stands before it. -/
theorem IsSite.before_eq {trigger front rest before behind : List Char}
    (h : IsSite trigger (front ++ rest) before behind) (hLength : before.length = front.length) :
    before = front := by
  obtain ⟨word, -, hSplit⟩ := h.spelled
  exact (List.append_inj_left hSplit hLength.symm).symm

/-- Among the sites with at least `start` characters before them the leftmost one. -/
structure IsLeftmostFrom (trigger text : List Char) (start : Nat) (before behind : List Char) :
    Prop where
  /-- It is a site. -/
  isSite : IsSite trigger text before behind
  /-- It has enough text before it. -/
  start_le : start ≤ before.length
  /-- No other one goes before it. -/
  leftmost : ∀ earlier rest, IsSite trigger text earlier rest → start ≤ earlier.length →
    before.length ≤ earlier.length

/-- Where there is no site, the search goes on behind the next character. -/
theorem isLeftmostFrom_succ_iff {trigger front : List Char} {c : Char}
    {rest before behind : List Char}
    (hNone : ∀ behind, ¬ IsSite trigger (front ++ c :: rest) front behind) :
    IsLeftmostFrom trigger (front ++ c :: rest) (front ++ [c]).length before behind ↔
      IsLeftmostFrom trigger (front ++ c :: rest) front.length before behind := by
  have hNext : (front ++ [c]).length = front.length + 1 := List.length_append
  have hLate : ∀ earlier behind, IsSite trigger (front ++ c :: rest) earlier behind →
      front.length ≤ earlier.length → front.length + 1 ≤ earlier.length := by
    intro earlier behind hSite hLe
    have hNe : earlier.length ≠ front.length := by
      intro hLength
      have hSame := hSite.before_eq hLength
      rw [hSame] at hSite
      exact hNone behind hSite
    omega
  rw [hNext]
  constructor
  · rintro ⟨hSite, hStart, hLeftmost⟩
    refine ⟨hSite, by omega, ?_⟩
    intro earlier behind hEarlier hLe
    exact hLeftmost earlier behind hEarlier (hLate earlier behind hEarlier hLe)
  · rintro ⟨hSite, hStart, hLeftmost⟩
    refine ⟨hSite, hLate before behind hSite hStart, ?_⟩
    intro earlier behind hEarlier hLe
    exact hLeftmost earlier behind hEarlier (by omega)

/-! ## What is found -/

section Sites

variable {trigger : List Char} (hTrigger : IsTrigger trigger)

include hTrigger

/-- The trigger starts and ends with a word character, however it is spelled. -/
theorem IsTrigger.edges {word : List Char} (hSame : SameLetters trigger word) :
    word ≠ [] ∧ (∀ rest, isWordAt (word ++ rest).head? = true) ∧
      ∀ before, isWordAt (word.getLast?.or before) = true := by
  have hLetters : ∀ c ∈ word, isWordCharacter c = true := by
    intro c hc
    obtain ⟨i, hi, rfl⟩ := List.getElem_of_mem hc
    have hLength := hSame.length_eq
    have hSameLetter : sameLetter trigger[i] word[i] = true := hSame.get (by omega) hi
    exact isWordCharacter_of_sameLetter (hTrigger.letters _ (List.getElem_mem _)) hSameLetter
  have hSome : word ≠ [] := by
    intro hNil
    rw [hNil] at hSame
    exact hTrigger.nonempty (List.forall₂_nil_right_iff.mp hSame)
  refine ⟨hSome, ?_, ?_⟩
  · intro rest
    obtain ⟨c, tail, rfl⟩ := List.exists_cons_of_ne_nil hSome
    exact hLetters c List.mem_cons_self
  · intro before
    rw [List.getLast?_eq_some_getLast hSome]
    exact hLetters _ (List.getLast_mem hSome)

/-- The word at a site. -/
theorem wordAtSite?_eq_some_iff {front rest word : List Char} :
    wordAtSite? trigger front.getLast? rest = some word ↔
      ∃ behind, IsSite trigger (front ++ rest) front behind ∧
        followingWord? behind = some word := by
  have hStarts : ∀ before after : Option Char, isWordAt after = true →
      (isBoundary before after = true ↔ isWordAt before = false) := by
    intro before after hAfter
    rw [isBoundary, hAfter]
    cases isWordAt before <;> decide
  constructor
  · intro h
    unfold wordAtSite? at h
    split at h
    · next hStart =>
        split at h
        · next last behind hAfter =>
            split at h
            · next hStop =>
                obtain ⟨spelled, hSame, rfl, rfl⟩ := (afterTrigger?_eq_some_iff trigger).mp hAfter
                have hEdges := hTrigger.edges hSame
                rw [hStarts _ _ (hEdges.2.1 behind)] at hStart
                exact ⟨behind, ⟨⟨spelled, hSame, rfl⟩, hStart,
                  exists_followingWord?_iff.mp ⟨word, h⟩⟩, h⟩
            · exact absurd h (by simp)
        · exact absurd h (by simp)
    · exact absurd h (by simp)
  · rintro ⟨behind, hSite, hWord⟩
    obtain ⟨spelled, hSame, hSplit⟩ := hSite.spelled
    obtain rfl := List.append_cancel_left hSplit
    obtain ⟨link, target, hLink⟩ := hSite.linked
    have hEdges := hTrigger.edges hSame
    have hAfter : afterTrigger? front.getLast? trigger (spelled ++ behind) =
        some (spelled.getLast?.or front.getLast?, behind) :=
      (afterTrigger?_eq_some_iff trigger).mpr ⟨spelled, hSame, rfl, rfl⟩
    have hStop : isBoundary (spelled.getLast?.or front.getLast?) behind.head? = true := by
      rw [isBoundary, hEdges.2.2, isWordAt_eq_false_of_linksTo hLink]
      rfl
    rw [wordAtSite?, if_pos ((hStarts _ _ (hEdges.2.1 behind)).mpr hSite.starts), hAfter]
    dsimp only
    rw [if_pos hStop, hWord]

theorem wordAtSite?_eq_none_iff {front rest : List Char} :
    wordAtSite? trigger front.getLast? rest = none ↔
      ∀ behind, ¬ IsSite trigger (front ++ rest) front behind := by
  rw [Option.eq_none_iff_forall_ne_some]
  constructor
  · intro h behind hSite
    obtain ⟨word, hWord⟩ := exists_followingWord?_iff.mpr hSite.linked
    exact h word ((wordAtSite?_eq_some_iff hTrigger).mpr ⟨behind, hSite, hWord⟩)
  · intro h word hWord
    obtain ⟨behind, hSite, -⟩ := (wordAtSite?_eq_some_iff hTrigger).mp hWord
    exact h behind hSite

/-- Behind all of the text there is no site. -/
theorem IsSite.length_lt {text before behind : List Char} (h : IsSite trigger text before behind) :
    before.length < text.length := by
  obtain ⟨word, hSame, rfl⟩ := h.spelled
  have hSome := List.length_pos_iff.mpr (hTrigger.edges hSame).1
  rw [List.length_append, List.length_append]
  omega

/-- At a place that is a site the search ends. -/
theorem eq_iff_of_wordAtSite? {front rest found word : List Char}
    (hFound : wordAtSite? trigger front.getLast? rest = some found) :
    found = word ↔ ∃ before behind,
      IsLeftmostFrom trigger (front ++ rest) front.length before behind ∧
        followingWord? behind = some word := by
  obtain ⟨behind, hSite, hBehind⟩ := (wordAtSite?_eq_some_iff hTrigger).mp hFound
  constructor
  · rintro rfl
    exact ⟨front, behind, ⟨hSite, Nat.le_refl _, fun _ _ _ hLe => hLe⟩, hBehind⟩
  · rintro ⟨before, other, hLeftmost, hWord⟩
    have hLe := hLeftmost.leftmost front behind hSite (Nat.le_refl _)
    have hOther := hLeftmost.isSite
    rw [hOther.before_eq (Nat.le_antisymm hLe hLeftmost.start_le)] at hOther
    have hSame := (wordAtSite?_eq_some_iff hTrigger).mpr ⟨other, hOther, hWord⟩
    rw [hFound] at hSame
    exact Option.some.inj hSame

/-- **The first word** is the one that follows the trigger at the leftmost site. -/
theorem firstWord?_eq_some_iff {word : List Char} (rest : List Char) :
    ∀ front, firstWord? trigger front.getLast? rest = some word ↔
      ∃ before behind, IsLeftmostFrom trigger (front ++ rest) front.length before behind ∧
        followingWord? behind = some word := by
  induction rest with
  | nil =>
      intro front
      rw [firstWord?_nil]
      cases hFound : wordAtSite? trigger front.getLast? [] with
      | some found => rw [Option.some_inj, eq_iff_of_wordAtSite? hTrigger hFound]
      | none =>
          constructor
          · intro h
            exact absurd h (by simp)
          · rintro ⟨before, behind, hLeftmost, -⟩
            have hLength := hLeftmost.isSite.length_lt hTrigger
            rw [List.append_nil] at hLength
            exact absurd hLeftmost.start_le (by omega)
  | cons c rest ih =>
      intro front
      rw [firstWord?_cons]
      cases hFound : wordAtSite? trigger front.getLast? (c :: rest) with
      | some found => rw [Option.some_or, Option.some_inj, eq_iff_of_wordAtSite? hTrigger hFound]
      | none =>
          have hNone := (wordAtSite?_eq_none_iff hTrigger).mp hFound
          have hNext := ih (front ++ [c])
          rw [List.getLast?_concat, List.append_assoc, List.singleton_append] at hNext
          rw [Option.none_or, hNext]
          simp only [isLeftmostFrom_succ_iff hNone]

/-- No word is found where there is no site. -/
theorem firstWord?_eq_none_iff (rest : List Char) :
    ∀ front, firstWord? trigger front.getLast? rest = none ↔
      ∀ before behind, IsSite trigger (front ++ rest) before behind →
        before.length < front.length := by
  induction rest with
  | nil =>
      intro front
      rw [firstWord?_nil, wordAtSite?_eq_none_iff hTrigger]
      constructor
      · intro _ before behind hSite
        have hLength := hSite.length_lt hTrigger
        rwa [List.append_nil] at hLength
      · intro h behind hSite
        exact absurd (h front behind hSite) (Nat.lt_irrefl _)
  | cons c rest ih =>
      intro front
      have hNext := ih (front ++ [c])
      rw [List.getLast?_concat, List.append_assoc, List.singleton_append] at hNext
      rw [firstWord?_cons, Option.or_eq_none_iff, hNext, wordAtSite?_eq_none_iff hTrigger,
        List.length_append, List.length_singleton]
      constructor
      · rintro ⟨hNone, hLate⟩ before behind hSite
        have hNe : before.length ≠ front.length := by
          intro hLength
          have hSame := hSite.before_eq hLength
          rw [hSame] at hSite
          exact hNone behind hSite
        have hLt := hLate before behind hSite
        omega
      · intro h
        refine ⟨fun behind hSite => absurd (h front behind hSite) (Nat.lt_irrefl _), ?_⟩
        intro before behind hSite
        have hLt := h before behind hSite
        omega

/-- **The reader finds the captured word** and no other. -/
theorem firstWord?_eq_some_iff_isCaptured {text word : List Char} :
    firstWord? trigger none text = some word ↔ IsCaptured trigger text word := by
  have hFirst : firstWord? trigger ([] : List Char).getLast? text = some word ↔ _ :=
    firstWord?_eq_some_iff hTrigger text []
  rw [List.getLast?_nil, List.nil_append] at hFirst
  rw [hFirst]
  constructor
  · rintro ⟨before, behind, hLeftmost, hWord⟩
    obtain ⟨link, target, hLink, hRun⟩ := followingWord?_eq_some_iff.mp hWord
    exact ⟨before, behind, link, target, hLeftmost.isSite,
      fun earlier rest hSite => hLeftmost.leftmost earlier rest hSite (Nat.zero_le _), hLink, hRun⟩
  · rintro ⟨before, behind, link, target, hSite, hLeftmost, hLink, hRun⟩
    exact ⟨before, behind, ⟨hSite, Nat.zero_le _, fun earlier rest hEarlier _ =>
      hLeftmost earlier rest hEarlier⟩, followingWord?_eq_some_iff.mpr ⟨link, target, hLink, hRun⟩⟩

theorem firstWord?_eq_none_iff_no_site {text : List Char} :
    firstWord? trigger none text = none ↔ ∀ before behind, ¬ IsSite trigger text before behind := by
  have hFirst := firstWord?_eq_none_iff hTrigger text []
  rw [List.getLast?_nil, List.nil_append] at hFirst
  rw [hFirst]
  constructor
  · intro h before behind hSite
    exact absurd (h before behind hSite) (Nat.not_lt_zero _)
  · intro h before behind hSite
    exact absurd hSite (h before behind)

end Sites

/-! ## The extractor -/

/-- What a captured word says about a field: nothing if it is a function word. -/
def readingOfWord (field : Field) : Option (List Char) → List (Field × Constraint)
  | none => []
  | some word =>
    if lowercase (String.ofList word) ∈ functionWords then []
    else [(field, .containsPattern (String.ofList word))]

theorem extract_capture (name : String) (field : Field) (trigger : String) (context : Context) :
    (Extractor.capture name field trigger).extract context =
      readingOfWord field (firstWord? trigger.toList none context.raw.toList) := by
  rw [Extractor.extract, Extractor.constraint?, capture?, Extractor.field]
  cases firstWord? trigger.toList none context.raw.toList with
  | none => rfl
  | some word =>
      simp only [readingOfWord, List.contains_iff_mem]
      split <;> rfl

/--
**What is captured.**  For a trigger of ASCII letters, the extractor yields what the pattern of its
sites captures, searched for from left to right with greedy repetitions and the left alternative
first.  That is: nothing if there is no site or the captured word is a function word, and else the
word behind the first link of the leftmost site.
-/
theorem extract_capture_iff {trigger : String} (hSome : trigger ≠ "")
    (hLetters : ∀ c ∈ trigger.toList, isAsciiLetter c = true) (name : String) (field : Field)
    (context : Context) :
    (Extractor.capture name field trigger).extract context =
        readingOfWord field (patternCapture? trigger.toList context.raw.toList) ∧
      ∀ found, (Extractor.capture name field trigger).extract context = found ↔
        CaptureReading trigger.toList context.raw.toList field found := by
  have hTrigger : IsTrigger trigger.toList := by
    refine ⟨?_, hLetters⟩
    intro hNil
    exact hSome (String.toList_eq_nil_iff.mp hNil)
  rw [patternCapture?_eq_firstWord?, extract_capture]
  refine ⟨rfl, ?_⟩
  intro found
  cases hFirst : firstWord? trigger.toList none context.raw.toList with
  | none =>
      have hNoSite := (firstWord?_eq_none_iff_no_site hTrigger).mp hFirst
      have hNoWord : ∀ word, ¬ IsCaptured trigger.toList context.raw.toList word := by
        rintro word ⟨before, behind, link, target, hSite, -⟩
        exact hNoSite before behind hSite
      constructor
      · rintro rfl
        exact .noSite hNoSite
      · intro hReading
        cases hReading with
        | noSite _ => rfl
        | functionWord hWord _ => exact absurd hWord (hNoWord _)
        | word hWord _ => exact absurd hWord (hNoWord _)
  | some word =>
      have hWord := (firstWord?_eq_some_iff_isCaptured hTrigger).mp hFirst
      have hOnly : ∀ other, IsCaptured trigger.toList context.raw.toList other →
          other = word := by
        intro other hOther
        have hSame := (firstWord?_eq_some_iff_isCaptured hTrigger).mpr hOther
        rw [hFirst] at hSame
        exact (Option.some.inj hSame).symm
      rw [readingOfWord]
      constructor
      · rintro rfl
        by_cases hFunction : lowercase (String.ofList word) ∈ functionWords
        · rw [if_pos hFunction]
          exact .functionWord hWord hFunction
        · rw [if_neg hFunction]
          exact .word hWord hFunction
      · intro hReading
        cases hReading with
        | noSite hNone =>
            obtain ⟨before, behind, link, target, hSite, -⟩ := hWord
            exact absurd hSite (hNone before behind)
        | functionWord hOther hFunction =>
            rw [hOnly _ hOther] at hFunction
            rw [if_pos hFunction]
        | word hOther hContent =>
            rw [hOnly _ hOther] at hContent ⊢
            rw [if_neg hContent]

/-- "Velocity" is no site, and at the second "city" the search has ended. -/
theorem extract_capture_city :
    CaptureReading "city".toList "Velocity 12, City of Houston, city: Rome".toList .city
      [(.city, .containsPattern "Houston")] := by
  have hSome : "city" ≠ "" := by decide
  have hLetters : ∀ c ∈ "city".toList, isAsciiLetter c = true := List.all_eq_true.mp rfl
  have hCity := extract_capture_iff hSome hLetters "capture:city" .city
    ⟨"Velocity 12, City of Houston, city: Rome", [], Instant.midnight ⟨2024, 1, 1, by decide⟩,
      Bindings.none⟩
  exact (hCity.2 _).mp (by decide +kernel)

end StaffSearch.Query
