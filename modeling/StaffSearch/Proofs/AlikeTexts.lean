import StaffSearch.Proofs.Tokens

/-!
# Texts that are read alike

The scan looks at a character in four ways: whether it is a letter or number, whether it is a digit,
whether it is a comma, and what its lowercase form is.  Characters that agree in these are read
alike.  When every character of a text is replaced by one that is read alike, the tokens stay the
same but for their places, and the places stay the same where the sizes do.

* `map_scan_map` — two such texts side by side, through any view of the tokens.
* `tokenizeList_map_of_size` — replacements of the same size keep the tokens as they are.
* `map_stem_tokenizeList_map` — all of them keep the stems.
-/

namespace StaffSearch.Query

open StaffSearch.Text

/-- The scan does not tell the characters apart, except by their sizes. -/
structure ReadAlike (c d : Char) : Prop extends SameKind c d where
  /-- The lowercase form. -/
  lower : lowerChar d = lowerChar c

/-- The two texts under way are the same and start at related places, or none is under way. -/
def OpenAlike (related : Nat → Nat → Prop) : Option OpenToken → Option OpenToken → Prop
  | none, none => True
  | some token, some other => token.text = other.text ∧ related token.start other.start
  | none, some _ | some _, none => False

section SideBySide

variable {α : Type} {f : Char → Char} {related : Nat → Nat → Prop} {view : Token → α}

theorem startsDigitGroup_map {text : List Char}
    (hDigit : ∀ c ∈ text, isAsciiDigit (f c) = isAsciiDigit c) :
    startsDigitGroup (text.map f) = startsDigitGroup text := by
  match text with
  | [] | [_] | [_, _] => rfl
  | [a, b, c] => simp [startsDigitGroup, hDigit]
  | a :: b :: c :: d :: rest => simp [startsDigitGroup, hDigit]

theorem OpenAlike.push {token other : Option OpenToken} {position place : Nat} {c d : Char}
    (hAlike : OpenAlike related token other) (hPlaces : related position place)
    (hLower : lowerChar d = lowerChar c) :
    OpenAlike related (some (OpenToken.push position c token))
      (some (OpenToken.push place d other)) := by
  match token, other, hAlike with
  | none, none, _ => exact ⟨hLower.symm, hPlaces⟩
  | some _, some _, ⟨hText, hStart⟩ =>
      refine ⟨?_, hStart⟩
      show _ ++ lowerChar c = _ ++ lowerChar d
      rw [hText, hLower]

theorem OpenAlike.continuesAt {token other : Option OpenToken}
    (hAlike : OpenAlike related token other) {rest behind : List Char}
    (hGroup : startsDigitGroup behind = startsDigitGroup rest) :
    OpenToken.continuesAt behind other = OpenToken.continuesAt rest token := by
  match token, other, hAlike with
  | none, none, _ => rfl
  | some _, some _, ⟨hText, _⟩ => simp only [OpenToken.continuesAt, hText, hGroup]

theorem OpenAlike.map_close {token other : Option OpenToken} {position place : Nat}
    (hView : ∀ text start start' stop stop', related start start' → related stop stop' →
      view (Token.of text start stop) = view (Token.of text start' stop'))
    (hAlike : OpenAlike related token other) (hPlaces : related position place) :
    (OpenToken.close place other).map view = (OpenToken.close position token).map view := by
  match token, other, hAlike with
  | none, none, _ => rfl
  | some token, some other, ⟨hText, hStart⟩ =>
      show [view (Token.of other.text other.start place)] = [view _]
      rw [← hText, hView _ _ _ _ _ hStart hPlaces]

/--
**Two scans side by side**: a text, and the text with every character replaced by one that is read
alike.  A view of tokens that does not tell related places apart sees the same tokens.
-/
theorem map_scan_map (related : Nat → Nat → Prop) (view : Token → α)
    (hView : ∀ text start start' stop stop', related start start' → related stop stop' →
      view (Token.of text start stop) = view (Token.of text start' stop'))
    (text : List Char) :
    (∀ c ∈ text, ReadAlike c (f c)) →
      (∀ c ∈ text, ∀ position place, related position place →
        related (position + c.utf8Size) (place + (f c).utf8Size)) →
      ∀ (position place : Nat) (token other : Option OpenToken), related position place →
        OpenAlike related token other →
          (scan place other (text.map f)).map view = (scan position token text).map view := by
  induction text with
  | nil =>
      intro _ _ position place token other hPlaces hAlike
      exact hAlike.map_close hView hPlaces
  | cons c rest ih =>
      intro hText hSizes position place token other hPlaces hAlike
      have hc := hText c List.mem_cons_self
      have hRest : ∀ d ∈ rest, ReadAlike d (f d) := fun d hMem =>
        hText d (List.mem_cons_of_mem c hMem)
      have hNext := hSizes c List.mem_cons_self _ _ hPlaces
      have hStep := ih hRest fun d hMem => hSizes d (List.mem_cons_of_mem c hMem)
      have hOn := hAlike.continuesAt
        (startsDigitGroup_map fun d hMem => (hRest d hMem).digit)
      rw [List.map_cons, scan_cons, scan_cons, hc.alphanumeric, hOn]
      simp only [hc.comma]
      split
      · exact hStep _ _ _ _ hNext (hAlike.push hPlaces hc.lower)
      · split
        · exact hStep _ _ _ _ hNext hAlike
        · rw [List.map_append, List.map_append, hAlike.map_close hView hPlaces,
            hStep _ _ none none hNext trivial]

end SideBySide

/-! ## Tokens and stems -/

/-- Replacements of the same size keep the tokens as they are. -/
theorem tokenizeList_map_of_size {f : Char → Char} {text : List Char}
    (hText : ∀ c ∈ text, ReadAlike c (f c))
    (hSizes : ∀ c ∈ text, (f c).utf8Size = c.utf8Size) :
    tokenizeList (text.map f) = tokenizeList text := by
  have hView : ∀ text start start' stop stop', start = start' → stop = stop' →
      id (Token.of text start stop) = id (Token.of text start' stop') := by
    rintro text start _ stop _ rfl rfl
    rfl
  have hPlaces : ∀ c ∈ text, ∀ position place, position = place →
      position + c.utf8Size = place + (f c).utf8Size := by
    rintro c hMem position _ rfl
    rw [hSizes c hMem]
  have hSame := map_scan_map Eq id hView text hText hPlaces 0 0 none none rfl trivial
  rw [List.map_id, List.map_id] at hSame
  exact hSame

/-- Replacements of any size keep the stems. -/
theorem map_stem_tokenizeList_map {f : Char → Char} {text : List Char}
    (hText : ∀ c ∈ text, ReadAlike c (f c)) :
    (tokenizeList (text.map f)).map (·.stem) = (tokenizeList text).map (·.stem) :=
  map_scan_map (fun _ _ => True) (·.stem) (fun _ _ _ _ _ _ _ => rfl) text hText
    (fun _ _ _ _ _ => trivial) 0 0 none none trivial trivial

end StaffSearch.Query
