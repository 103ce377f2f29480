import Mathlib.Data.List.Basic
import StaffSearch.Proofs.StableBindings

/-!
# Windows that are wider than the query

A window that is as wide as the query reaches from every anchor to both ends of it, so a wider one
should make no difference.  Before an anchor it makes none, because the window ends at the first
token at the latest.  Behind an anchor the end of the window is a sum of words, and where that
exceeds a word, the sum is so small that the anchor sees nothing behind it
(`placesAfter_of_overflow`).

So a wide window binds as one of the width of the query does if no anchor with a token behind it has
its window overflow (`bind_eq_of_covers`).  This is certain for the windows that make at most
`2 ^ 64` together with the number of tokens, and only for them: with a wider one, a word for the
salary can stand so far to the right that it misses the numeral next to it
(`get?_bind_of_overflow`).
-/

namespace StaffSearch.Query

open StaffSearch.Text

/-! ## What a wide window shows -/

section Places

variable {binder other : Binder} {count place : Nat}

/-- **Where the end of the window overflows**, nothing behind the anchor is searched. -/
theorem placesAfter_of_overflow (count : Nat) (hPlace : place + 1 < 2 ^ 64)
    (hOverflow : 2 ^ 64 ≤ place + 1 + binder.window.toNat) :
    binder.placesAfter count place = [] := by
  have hWord := binder.window.toNat_lt
  have hNext : (UInt64.ofNat (place + 1)).toNat = place + 1 := by
    rw [UInt64.toNat_ofNat']
    exact Nat.mod_eq_of_lt hPlace
  have hEnd : (UInt64.ofNat (place + 1) + binder.window).toNat ≤ place := by
    rw [UInt64.toNat_add, hNext]
    omega
  have hNone : min count (UInt64.ofNat (place + 1) + binder.window).toNat - (place + 1) = 0 := by
    omega
  rw [Binder.placesAfter, hNone]
  rfl

/-- Behind the last token there is nothing to search. -/
theorem placesAfter_of_last (binder : Binder) (hLast : place + 1 = count) :
    binder.placesAfter count place = [] := by
  have hNone : min count (UInt64.ofNat (place + 1) + binder.window).toNat - (place + 1) = 0 := by
    omega
  rw [Binder.placesAfter, hNone]
  rfl

/-- The window shows all that stands behind the place, or nothing stands there. -/
def Binder.ShowsBehind (binder : Binder) (count place : Nat) : Prop :=
  place + 1 < count → count ≤ place + 1 + binder.window.toNat ∧
    place + 1 + binder.window.toNat < 2 ^ 64

theorem Binder.ShowsBehind.placesAfter_eq (h : binder.ShowsBehind count place)
    (hPlace : place < count) :
    binder.placesAfter count place = List.range' (place + 1) (count - (place + 1)) := by
  rcases Nat.lt_or_eq_of_le (Nat.succ_le_of_lt hPlace) with hBehind | hLast
  · obtain ⟨hCovers, hSize⟩ := h hBehind
    rw [Query.placesAfter_eq count hSize]
    congr 1
    omega
  · have hNone : count - (place + 1) = 0 := by omega
    rw [placesAfter_of_last binder hLast, hNone]
    rfl

theorem placesBefore_of_covers (hCovers : place ≤ binder.window.toNat) :
    binder.placesBefore place = (List.range' 0 place).reverse := by
  have hFirst : place - binder.window.toNat = 0 := by omega
  rw [Binder.placesBefore, hFirst]
  rfl

/-- Two windows that show everything around an anchor show the same. -/
theorem sides_eq_of_covers (anchor : Anchor) (hPlace : place < count)
    (hBinder : binder.ShowsBehind count place) (hOther : other.ShowsBehind count place)
    (hCovers : place ≤ binder.window.toNat) (hOtherCovers : place ≤ other.window.toNat) :
    binder.sides count anchor place = other.sides count anchor place := by
  rw [Binder.sides, Binder.sides, hBinder.placesAfter_eq hPlace, hOther.placesAfter_eq hPlace,
    placesBefore_of_covers hCovers, placesBefore_of_covers hOtherCovers]

end Places

/-! ## Bindings with a wide window -/

section Bindings

variable {binder other : Binder} {tokens : List Token} {active : List Anchor}

/-- Bindings depend on the window only through what it shows around the anchors. -/
theorem bind_congr (h : ∀ place anchor, (place, anchor) ∈ anchorPlaces active tokens →
    binder.sides tokens.length anchor place = other.sides tokens.length anchor place) :
    binder.bind tokens active = other.bind tokens active := by
  apply List.foldl_ext
  intro bindings entry hMem
  show binder.bindOne tokens (anchorPlaces active tokens) bindings entry.1 entry.2 =
    other.bindOne tokens (anchorPlaces active tokens) bindings entry.1 entry.2
  rw [Binder.bindOne, Binder.bindOne, h entry.1 entry.2 hMem]

/-- **Two windows bind alike** if each shows everything around every anchor. -/
theorem bind_eq_of_covers (hWide : tokens.length ≤ binder.window.toNat)
    (hOtherWide : tokens.length ≤ other.window.toNat)
    (hShows : ∀ place, IsActiveAnchor tokens active place →
      binder.ShowsBehind tokens.length place ∧ other.ShowsBehind tokens.length place) :
    binder.bind tokens active = other.bind tokens active := by
  apply bind_congr
  intro place anchor hMem
  obtain ⟨hActive, hAnchor⟩ := mem_anchorPlaces_iff.mp hMem
  have hPlace := hAnchor.lt_length
  have hBoth := hShows place ⟨anchor, hActive, hAnchor⟩
  exact sides_eq_of_covers anchor hPlace hBoth.1 hBoth.2 (by omega) (by omega)

end Bindings

/-! ## A word for the salary that sees too little -/

section LoneAnchor

variable {binder : Binder} {front after : List Token} {word numeral : Token} {value : Nat}

/-- A query with one word for the salary, which has its numeral next to it. -/
structure IsLoneSalary (front : List Token) (word numeral : Token) (after : List Token)
    (value : Nat) : Prop where
  isAnchor : Anchor.ofStem? [.salary] word.stem = some .salary
  areQuietBefore : ∀ token ∈ front, Anchor.ofStem? [.salary] token.stem = none
  areQuietBehind : ∀ token ∈ numeral :: after, Anchor.ofStem? [.salary] token.stem = none
  areNoNumerals : ∀ token ∈ front, token.numeral? = none
  hasValue : numeral.numeral? = some value

theorem IsLoneSalary.anchorPlaces_eq (h : IsLoneSalary front word numeral after value) :
    anchorPlaces [.salary] (front ++ word :: numeral :: after) = [(front.length, .salary)] := by
  have hEnd := anchorPlacesFrom_quiet (numeral :: after) h.areQuietBehind []
    (front.length + 1)
  rw [List.append_nil] at hEnd
  show anchorPlacesFrom [.salary] 0 (front ++ word :: numeral :: after) = _
  rw [anchorPlacesFrom_quiet front h.areQuietBefore, Nat.zero_add,
    anchorPlacesFrom_anchor h.isAnchor, hEnd]
  rfl

theorem IsLoneSalary.bind_eq (h : IsLoneSalary front word numeral after value) :
    binder.bind (front ++ word :: numeral :: after) [.salary] =
      binder.bindOne (front ++ word :: numeral :: after) [(front.length, .salary)] Bindings.none
        front.length .salary := by
  rw [Binder.bind]
  dsimp only
  rw [h.anchorPlaces_eq]
  rfl

/-- The anchor takes the numeral next to it, if the end of its window is a word. -/
theorem IsLoneSalary.get?_bind (h : IsLoneSalary front word numeral after value)
    (hSize : front.length + 1 + binder.window.toNat < 2 ^ 64) :
    ((binder.bind (front ++ word :: numeral :: after) [.salary]).get? .salary).isSome = true := by
  have hBind : binder.bindOne (front ++ word :: ([] ++ numeral :: after))
      [(front.length, .salary)] Bindings.none front.length .salary =
        Bindings.none.set .salary
          { anchor := front.length, numeral := front.length + 1 + 0, value } := by
    have hNear : ([] : List Token).length < binder.window.toNat := binder.window_pos
    apply bindOne_forward rfl rfl (by simp) h.hasValue ?_ rfl hNear hSize
    intro other hMem
    rw [List.mem_singleton.mp hMem]
    exact Or.inl (Nat.le_refl _)
  rw [h.bind_eq]
  show ((binder.bindOne (front ++ word :: ([] ++ numeral :: after)) _ _ _ _).get? _).isSome = true
  rw [hBind]
  simp

theorem freeNumeral?_eq_none {tokens : List Token} {isAnchor isTaken : Nat → Bool}
    {side : List Nat} (h : ∀ place ∈ side, Binder.numeralAt? tokens place = none) :
    Binder.freeNumeral? tokens isAnchor isTaken side = none := by
  rw [Binder.freeNumeral?, List.findSome?_eq_none_iff]
  intro place hMem
  rw [h place ((List.takeWhile_sublist _).subset hMem)]
  split <;> rfl

/-- **The anchor misses the numeral next to it** if the end of its window overflows. -/
theorem IsLoneSalary.get?_bind_of_overflow (h : IsLoneSalary front word numeral after value)
    (hPlace : front.length + 1 < 2 ^ 64)
    (hOverflow : 2 ^ 64 ≤ front.length + 1 + binder.window.toNat) :
    (binder.bind (front ++ word :: numeral :: after) [.salary]).get? .salary = none := by
  have hBefore : ∀ place ∈ binder.placesBefore front.length,
      Binder.numeralAt? (front ++ word :: numeral :: after) place = none := by
    intro place hMem
    have hFront := (mem_placesBefore_iff.mp hMem).1
    rw [Binder.numeralAt?, List.getElem?_append_left hFront, List.getElem?_eq_getElem hFront]
    exact h.areNoNumerals _ (List.getElem_mem hFront)
  have hUnbound : ¬ (Bindings.none.get? .salary).isSome = true := by decide
  have hForward : Anchor.salary.looksForward = true := rfl
  rw [h.bind_eq, Binder.bindOne, if_neg hUnbound]
  dsimp only
  rw [Binder.sides, if_pos hForward, placesAfter_of_overflow _ hPlace hOverflow,
    List.findSome?_cons, freeNumeral?_eq_none (by simp), List.findSome?_cons,
    freeNumeral?_eq_none hBefore]
  rfl

end LoneAnchor

/-! ## The query -/

/-- So many words that mean nothing, then the salary and its numeral, then as many such words as
the second number says. -/
def paddedSalary (before behind : Nat) : String :=
  " ".intercalate (List.replicate before "x" ++ "salary" :: "5" :: List.replicate behind "x")

theorem wordsOf_paddedSalary (before behind : Nat) : wordsOf (paddedSalary before behind) =
    List.replicate before "x" ++ "salary" :: "5" :: List.replicate behind "x" := by
  have hAlone : wordsOf "x" = ["x"] ∧ wordsOf "salary" = ["salary"] ∧ wordsOf "5" = ["5"] := by
    decide +kernel
  have hFiller : ∀ count : Nat,
      (List.replicate count "x").flatMap wordsOf = List.replicate count "x" := by
    intro count
    rw [List.flatMap_replicate, hAlone.1, List.flatten_replicate_singleton]
  rw [paddedSalary, wordsOf_intercalate, List.flatMap_append, List.flatMap_cons, List.flatMap_cons,
    hFiller, hFiller, hAlone.2.1, hAlone.2.2]
  rfl

theorem exists_tokens_paddedSalary (before behind : Nat) :
    ∃ front word numeral after, tokenize (paddedSalary before behind) =
        front ++ word :: numeral :: after ∧ front.length = before ∧ after.length = behind ∧
      IsLoneSalary front word numeral after 5 := by
  obtain ⟨front, rest, hAll, hFront, hRest⟩ :=
    List.map_eq_append_iff.mp (wordsOf_paddedSalary before behind)
  obtain ⟨word, rest, rfl, hWord, hRest⟩ := List.map_eq_cons_iff.mp hRest
  obtain ⟨numeral, after, rfl, hNumeral, hAfter⟩ := List.map_eq_cons_iff.mp hRest
  have hStem : ∀ token ∈ front ++ word :: numeral :: after, token.stem = stem token.text := by
    intro token hMem
    rw [← hAll] at hMem
    exact stem_of_mem_tokenize hMem
  have hFiller : ∀ {count : Nat} {tokens : List Token},
      tokens.map (·.text) = List.replicate count "x" → ∀ token ∈ tokens, token.text = "x" := by
    intro count tokens hTexts token hMem
    have hText : token.text ∈ tokens.map (·.text) := List.mem_map_of_mem hMem
    rw [hTexts] at hText
    exact List.eq_of_mem_replicate hText
  have hQuiet : Anchor.ofStem? [.salary] (stem "x") = none ∧
      Anchor.ofStem? [.salary] (stem "5") = none ∧
      Anchor.ofStem? [.salary] (stem "salary") = some .salary := by decide +kernel
  refine ⟨front, word, numeral, after, hAll, ?_, ?_, ?_, ?_, ?_, ?_, ?_⟩
  · rw [← List.length_map (·.text), hFront, List.length_replicate]
  · rw [← List.length_map (·.text), hAfter, List.length_replicate]
  · rw [hStem word (by simp), hWord]
    exact hQuiet.2.2
  · intro token hMem
    rw [hStem token (by simp [hMem]), hFiller hFront token hMem]
    exact hQuiet.1
  · intro token hMem
    rw [hStem token (by simp [hMem])]
    rcases List.mem_cons.mp hMem with rfl | hBehind
    · rw [hNumeral]
      exact hQuiet.2.1
    · rw [hFiller hAfter token hBehind]
      exact hQuiet.1
  · intro token hMem
    rw [Token.numeral?, hFiller hFront token hMem]
    decide +kernel
  · rw [Token.numeral?, hNumeral]
    decide +kernel

/-! ## Exactly the windows that cannot be told apart -/

section Width

variable {count : Nat} {window : UInt64}

theorem toNat_ofWindow_ofNat (hSome : 1 ≤ count) (hWord : count < 2 ^ 64) :
    (Binder.ofWindow (UInt64.ofNat count)).window.toNat = count := by
  have hCount : (UInt64.ofNat count).toNat = count := by
    rw [UInt64.toNat_ofNat']
    exact Nat.mod_eq_of_lt hWord
  rw [Binder.window_ofWindow (by omega), hCount]

/-- **A wide window is as good as one of the width of the query**, if no anchor with a token behind
it lets the end of the window overflow. -/
theorem bind_ofWindow_eq (hSome : 1 ≤ count) (hWide : count ≤ window.toNat) {tokens : List Token}
    {active : List Anchor} (hLength : tokens.length = count)
    (hSmall : ∀ place, IsActiveAnchor tokens active place → place + 1 < count →
      place + 1 + window.toNat < 2 ^ 64) :
    (Binder.ofWindow window).bind tokens active =
      (Binder.ofWindow (UInt64.ofNat count)).bind tokens active := by
  have hWord := window.toNat_lt
  have hWindow := congrArg UInt64.toNat
    (Binder.window_ofWindow (show 0 < window.toNat by omega))
  have hNarrow := toNat_ofWindow_ofNat hSome (show count < 2 ^ 64 by omega)
  apply bind_eq_of_covers (by omega) (by omega)
  intro place hAnchor
  have hPlace := hSmall place hAnchor
  constructor
  · intro hBehind
    have hSize := hPlace (by omega)
    omega
  · intro hBehind
    have hSize := hPlace (by omega)
    omega

/-- **A window that is too wide** misses a salary that one of the width of the query finds: the word
for it stands at the first place whose window overflows. -/
theorem exists_bind_ne (hWide : count < window.toNat) (hSize : 2 ^ 64 < window.toNat + count) :
    ∃ query active, (tokenize query).length = count ∧
      (Binder.ofWindow window).bind (tokenize query) active ≠
        (Binder.ofWindow (UInt64.ofNat count)).bind (tokenize query) active := by
  have hWord := window.toNat_lt
  have hWindow := congrArg UInt64.toNat
    (Binder.window_ofWindow (show 0 < window.toNat by omega))
  have hNarrow := toNat_ofWindow_ofNat (show 1 ≤ count by omega) (show count < 2 ^ 64 by omega)
  obtain ⟨front, word, numeral, after, hTokens, hFront, hAfter, hLone⟩ :=
    exists_tokens_paddedSalary (2 ^ 64 - 1 - window.toNat)
      (count - (2 ^ 64 - 1 - window.toNat) - 2)
  have hLength : (front ++ word :: numeral :: after).length = count := by
    rw [List.length_append, List.length_cons, List.length_cons]
    omega
  have hMissed : ((Binder.ofWindow window).bind (front ++ word :: numeral :: after)
      [.salary]).get? .salary = none := hLone.get?_bind_of_overflow (by omega) (by omega)
  have hFound : (((Binder.ofWindow (UInt64.ofNat count)).bind (front ++ word :: numeral :: after)
      [.salary]).get? .salary).isSome = true := hLone.get?_bind (by omega)
  refine ⟨_, [.salary], by rw [hTokens]; exact hLength, ?_⟩
  intro hSame
  rw [hTokens] at hSame
  rw [← hSame, hMissed] at hFound
  exact absurd hFound (by decide)

/--
**Windows that are wider than the query.**  A window at least as wide as the query binds as one of
the width of the query does, if no active anchor that has a token behind it lets the end of the
window overflow.  That holds of all queries of so many tokens exactly if the window is no wider, or
the window and the number of tokens make no more than `2 ^ 64` together.
-/
theorem bind_wide_window (hSome : 1 ≤ count) (hWide : count ≤ window.toNat) :
    (∀ tokens active, tokens.length = count →
      (∀ place, IsActiveAnchor tokens active place → place + 1 < count →
        place + 1 + window.toNat < 2 ^ 64) →
      (Binder.ofWindow window).bind tokens active =
        (Binder.ofWindow (UInt64.ofNat count)).bind tokens active) ∧
    ((∀ query active, (tokenize query).length = count →
      (Binder.ofWindow window).bind (tokenize query) active =
        (Binder.ofWindow (UInt64.ofNat count)).bind (tokenize query) active) ↔
      window.toNat = count ∨ window.toNat + count ≤ 2 ^ 64) := by
  refine ⟨fun tokens active => bind_ofWindow_eq hSome hWide, ?_, ?_⟩
  · intro hAll
    by_contra hApart
    rw [not_or] at hApart
    obtain ⟨query, active, hLength, hNe⟩ :=
      exists_bind_ne (show count < window.toNat by omega) (by omega)
    exact hNe (hAll query active hLength)
  · intro hSize query active hLength
    rcases hSize with hEqual | hSize
    · rw [← hEqual, UInt64.ofNat_toNat]
    · apply bind_ofWindow_eq hSome hWide hLength
      intro place _ hBehind
      omega

end Width

/-- The widest window that two tokens cannot tell from one of their own number. -/
theorem bind_wide_window_salary :
    1 ≤ 2 ∧ 2 ≤ UInt64.toNat 18446744073709551614 ∧
      (Binder.ofWindow 18446744073709551614).bind (tokenize "salary 50,000") Anchor.all =
        (Binder.ofWindow 2).bind (tokenize "salary 50,000") Anchor.all ∧
      ((Binder.ofWindow 18446744073709551614).bind (tokenize "salary 50,000") Anchor.all).get?
        .salary = some { anchor := 0, numeral := 1, value := 50000 } := by
  have hWide : 2 ≤ UInt64.toNat 18446744073709551614 := by decide
  have hExact := bind_wide_window (by decide) hWide
  have hSize : UInt64.toNat 18446744073709551614 + 2 ≤ 2 ^ 64 := by decide
  have hLength : (tokenize "salary 50,000").length = 2 := by decide +kernel
  exact ⟨by decide, hWide, hExact.2.mpr (Or.inr hSize) _ Anchor.all hLength, by decide +kernel⟩

/-- The widest window of all misses the numeral next to the first word of a query of two tokens,
which a window of two finds. -/
theorem widest_window_misses_salary :
    ((Binder.ofWindow 18446744073709551615).bind (tokenize "salary 50000") Anchor.all).get?
        .salary = none ∧
      ((Binder.ofWindow 2).bind (tokenize "salary 50000") Anchor.all).get? .salary =
        some { anchor := 0, numeral := 1, value := 50000 } := by
  decide +kernel

end StaffSearch.Query
