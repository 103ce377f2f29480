import StaffSearch.Document.Selection

/-!
# Patterns that stand for one text

A query document asks for a text by a pattern in which every sign is escaped.  Such a pattern has
one literal piece for every character of the text and no other piece (`patternPieces?_escapeList`),
so matching it is comparing characters.  Behind an end mark and a beginning mark the comparison has
to reach both ends.

* `patternMatches_escape`: an escaped text matches where the text occurs, up to the case of ASCII
  letters.
* `patternMatches_whole`: between the two marks it matches the text itself and no other, up to the
  case of ASCII letters.
-/

namespace StaffSearch.Document

open StaffSearch.Text

/-! ## Reading an escaped text -/

/-- The pieces that stand for the characters of a text. -/
def literals (text : List Char) : List PatternPiece := text.map .literal

@[simp] theorem literals_cons (c : Char) (text : List Char) :
    literals (c :: text) = .literal c :: literals text := rfl

theorem patternPieces?_escapeChar (c : Char) (rest : List Char) :
    patternPieces? (escapeChar c ++ rest) = (patternPieces? rest).map (.literal c :: ·) := by
  by_cases hSign : patternSigns.contains c = true
  · rw [escapeChar, if_pos hSign]
    change patternPieces? ('\\' :: c :: rest) = _
    rw [patternPieces?, if_pos hSign]
  · have hOrdinary : ∀ sign ∈ patternSigns, c ≠ sign := by
      intro sign hMem hSame
      subst hSame
      exact hSign (List.contains_iff_mem.mpr hMem)
    have hBackslash : c ≠ '\\' := hOrdinary _ (by decide)
    have hCaret : c ≠ '^' := hOrdinary _ (by decide)
    have hDollar : c ≠ '$' := hOrdinary _ (by decide)
    rw [escapeChar, if_neg hSign]
    change patternPieces? (c :: rest) = _
    rw [patternPieces?.eq_3 _ _ fun _ _ h _ => hBackslash h, if_neg hCaret, if_neg hDollar,
      Bool.eq_false_iff.mpr hSign]
    rfl

/-- **An escaped text is read as its own characters**, whatever stands behind it. -/
theorem patternPieces?_escapeList (text rest : List Char) :
    patternPieces? (escapeList text ++ rest) =
      (patternPieces? rest).map (literals text ++ ·) := by
  induction text with
  | nil => simp [escapeList, literals]
  | cons c text ih =>
      have hSplit : escapeList (c :: text) = escapeChar c ++ escapeList text := rfl
      rw [hSplit, List.append_assoc, patternPieces?_escapeChar, ih, Option.map_map]
      rfl

/-! ## Matching literal pieces -/

theorem matchesHere_literals (needle : List Char) :
    ∀ (atBeginning : Bool) (text : List Char), matchesHere atBeginning (literals needle) text =
      (needle.map lowerAscii).isPrefixOf (text.map lowerAscii) := by
  induction needle with
  | nil =>
      intro atBeginning text
      simp [literals, matchesHere]
  | cons c needle ih =>
      intro atBeginning text
      cases text with
      | nil => rfl
      | cons d text =>
          rw [literals_cons, matchesHere, ih false text]
          rfl

theorem matchesSomewhere_literals (needle text : List Char) :
    ∀ atBeginning : Bool, matchesSomewhere atBeginning (literals needle) text =
      occursIn (needle.map lowerAscii) (text.map lowerAscii) := by
  induction text with
  | nil =>
      intro atBeginning
      rw [matchesSomewhere, matchesHere_literals]
      cases needle <;> rfl
  | cons c text ih =>
      intro atBeginning
      rw [matchesSomewhere, ih false, matchesHere_literals]
      rfl

theorem matchesHere_literals_ending (needle : List Char) :
    ∀ (atBeginning : Bool) (text : List Char),
      matchesHere atBeginning (literals needle ++ [.ending]) text =
        (needle.map lowerAscii == text.map lowerAscii) := by
  induction needle with
  | nil =>
      intro atBeginning text
      cases text <;> simp [literals, matchesHere]
  | cons c needle ih =>
      intro atBeginning text
      cases text with
      | nil => rfl
      | cons d text =>
          rw [literals_cons, List.cons_append, matchesHere, ih false text]
          rfl

/-- Once the beginning lies behind, a pattern with a beginning mark matches nowhere. -/
theorem matchesSomewhere_beginning (pieces : List PatternPiece) (text : List Char) :
    matchesSomewhere false (.beginning :: pieces) text = false := by
  induction text with
  | nil => rfl
  | cons c text ih =>
      rw [matchesSomewhere, ih]
      rfl

/-! ## Matching an escaped text -/

/-- **An escaped text matches where the text occurs**, up to the case of ASCII letters. -/
theorem patternMatches_escape (pattern text : String) :
    patternMatches (escape pattern) text =
      occursIn (pattern.toList.map lowerAscii) (text.toList.map lowerAscii) := by
  have hPieces : patternPieces? (escape pattern).toList = some (literals pattern.toList) := by
    have h := patternPieces?_escapeList pattern.toList []
    rw [List.append_nil] at h
    rw [escape, String.toList_ofList, h]
    simp [patternPieces?]
  rw [patternMatches, hPieces]
  exact matchesSomewhere_literals pattern.toList text.toList true

/-- **Between the marks an escaped text matches the text itself**, up to the case of ASCII
letters. -/
theorem patternMatches_whole (element text : String) :
    patternMatches ("^" ++ escape element ++ "$") text = equalIgnoringAsciiCase element text := by
  have hPieces : patternPieces? ("^" ++ escape element ++ "$").toList =
      some (.beginning :: (literals element.toList ++ [.ending])) := by
    have hChars : ("^" ++ escape element ++ "$").toList =
        '^' :: (escapeList element.toList ++ ['$']) := by
      simp [escape]
    have hMark : patternPieces? ['$'] = some [.ending] := by decide
    rw [hChars, patternPieces?.eq_3 _ _ (by simp), if_pos rfl, patternPieces?_escapeList, hMark]
    rfl
  have hHere := matchesHere_literals_ending element.toList true text.toList
  rw [patternMatches, hPieces, equalIgnoringAsciiCase, ← hHere]
  cases text.toList with
  | nil => rfl
  | cons c rest =>
      dsimp only
      rw [matchesSomewhere, matchesSomewhere_beginning, Bool.or_false]
      rfl

end StaffSearch.Document
