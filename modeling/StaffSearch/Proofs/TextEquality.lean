import Mathlib.Data.List.Forall2
import StaffSearch.Filter.Constraint
import StaffSearch.Proofs.AsciiCase
import StaffSearch.Proofs.OwnSpelling

/-!
# Two kinds of equality up to case

A comparison takes texts for equal if their lowercase forms are the same.  A set takes them for
equal if they are the same up to the case of ASCII letters, and that is a narrower notion: `é` and
`É` have the same lowercase form, but differ in a letter that is not ASCII.

What is missing is said exactly.  Texts that are equal in the first sense are equal in the second
one if and only if they agree beyond ASCII: they have the same characters in the same places, except
where both have ASCII characters (`equalIgnoringAsciiCase_iff_lowercase`).

A skill is held in lowercase by a filter.  Hence a record that holds the skill in another letter
case is found only if that agrees beyond ASCII with the lowercase form.
-/

namespace StaffSearch

open StaffSearch.Query StaffSearch.Text

namespace Text

/-! ## Texts that agree beyond ASCII -/

/-- The characters are the same, or both are ASCII. -/
def AlikeBeyondAscii (c d : Char) : Prop := c = d ∨ c.toNat < 128 ∧ d.toNat < 128

/-- The texts have the same characters in the same places, except where both have ASCII
characters. -/
def AgreesBeyondAscii (a b : String) : Prop :=
  List.Forall₂ AlikeBeyondAscii a.toList b.toList

instance : DecidableRel AlikeBeyondAscii :=
  fun c d => inferInstanceAs (Decidable (c = d ∨ c.toNat < 128 ∧ d.toNat < 128))

instance : DecidableRel AgreesBeyondAscii :=
  fun a b => inferInstanceAs (Decidable (List.Forall₂ AlikeBeyondAscii a.toList b.toList))

theorem alikeBeyondAscii_of_lowerAscii {c d : Char} (h : lowerAscii c = lowerAscii d) :
    AlikeBeyondAscii c d := by
  have hSmall : ∀ c : Char, c.toNat < 128 ↔ (lowerAscii c).toNat < 128 := by
    intro c
    rw [toNat_lowerAscii]
    split <;> omega
  by_cases hc : c.toNat < 128
  · right
    refine ⟨hc, ?_⟩
    rw [hSmall, ← h, ← hSmall]
    exact hc
  · left
    have hd : ¬ d.toNat < 128 := by
      rw [hSmall, ← h, ← hSmall]
      exact hc
    rwa [lowerAscii_of_not_capital (by omega), lowerAscii_of_not_capital (by omega)] at h

/-- Where the texts agree beyond ASCII, equal lowercase forms are equal up to ASCII letters.  The
texts in front of the two do not matter. -/
theorem map_lowerAscii_eq_of_lowerAfter {a b : List Char}
    (hAgrees : List.Forall₂ AlikeBeyondAscii a b) :
    ∀ before behind : List Char, lowerAfter before a = lowerAfter behind b →
      a.map lowerAscii = b.map lowerAscii := by
  induction hAgrees with
  | nil =>
      intro before behind _
      rfl
  | @cons c d restA restB hAlike _ ih =>
      intro before behind hLower
      rw [List.map_cons, List.map_cons]
      rcases hAlike with rfl | ⟨hc, hd⟩
      · by_cases hDotted : c = 'İ'
        · subst hDotted
          rw [lowerAfter_cons_dotted, lowerAfter_cons_dotted] at hLower
          rw [ih _ _ (List.cons.inj (List.cons.inj hLower).2).2]
        · rw [lowerAfter_cons hDotted, lowerAfter_cons hDotted] at hLower
          rw [ih _ _ (List.cons.inj hLower).2]
      · have hAscii : ∀ {c : Char}, c.toNat < 128 → ∀ before rest : List Char,
            lowerAfter before (c :: rest) = lowerAscii c :: lowerAfter (c :: before) rest := by
          intro c hc before rest
          have hSigma : c ≠ 'Σ' := by
            rintro rfl
            exact absurd hc (by decide)
          rw [lowerAfter, if_neg hSigma, lowerChar_of_lt hc, List.singleton_append]
        rw [hAscii hc, hAscii hd] at hLower
        obtain ⟨hHead, hTail⟩ := List.cons.inj hLower
        rw [hHead, ih _ _ hTail]

/-- **Equality up to ASCII letters** is equality of lowercase forms among texts that agree beyond
ASCII. -/
theorem equalIgnoringAsciiCase_iff_lowercase {a b : String} :
    equalIgnoringAsciiCase a b = true ↔ lowercase a = lowercase b ∧ AgreesBeyondAscii a b := by
  constructor
  · intro h
    constructor
    · rw [← lowercase_lowercaseAscii, equalIgnoringAsciiCase_iff.mp h, lowercase_lowercaseAscii]
    · have hMap : a.toList.map lowerAscii = b.toList.map lowerAscii := beq_iff_eq.mp h
      have hSame : List.Forall₂ Eq (a.toList.map lowerAscii) (b.toList.map lowerAscii) := by
        rw [hMap]
        exact List.forall₂_same.mpr fun _ _ => rfl
      rw [List.forall₂_map_left_iff, List.forall₂_map_right_iff] at hSame
      exact hSame.imp fun c d => alikeBeyondAscii_of_lowerAscii
  · rintro ⟨hLower, hAgrees⟩
    have hLists : lowerList a.toList = lowerList b.toList := String.ofList_inj.mp hLower
    exact beq_iff_eq.mpr (map_lowerAscii_eq_of_lowerAfter hAgrees [] [] hLists)

/-! ## Lowercasing twice -/

/-- Every character of a lowercase form is its own lowercase form. -/
theorem lowered_of_mem_lowerAfter (text : List Char) :
    ∀ before : List Char, ∀ c ∈ lowerAfter before text, c ≠ 'Σ' ∧ lowerChar c = [c] := by
  have hSigma : ∀ c : Char, lowerChar c = [c] → c ≠ 'Σ' := by
    rintro c hc rfl
    exact absurd hc (by decide +kernel)
  induction text with
  | nil =>
      intro before c hMem
      exact absurd hMem List.not_mem_nil
  | cons d rest ih =>
      intro before c hMem
      by_cases hDotted : d = 'İ'
      · subst hDotted
        rw [lowerAfter_cons_dotted, List.mem_cons, List.mem_cons] at hMem
        rcases hMem with rfl | rfl | hMem
        · decide +kernel
        · decide +kernel
        · exact ih _ c hMem
      · rw [lowerAfter_cons hDotted, List.mem_cons] at hMem
        rcases hMem with rfl | hMem
        · have hLowered : lowerChar (lowerWithin before d rest) =
              [lowerWithin before d rest] := by
            by_cases hCapital : d = 'Σ'
            · subst hCapital
              rw [lowerWithin, if_pos rfl]
              split <;> decide +kernel
            · rw [lowerWithin_of_ne hCapital, lowerChar_lowerLetter,
                lowerChar_of_ne_dotted hDotted]
          exact ⟨hSigma _ hLowered, hLowered⟩
        · exact ih _ c hMem

theorem lowerAfter_of_lowered {text : List Char} (h : ∀ c ∈ text, c ≠ 'Σ' ∧ lowerChar c = [c]) :
    ∀ before : List Char, lowerAfter before text = text := by
  induction text with
  | nil =>
      intro before
      rfl
  | cons c rest ih =>
      intro before
      obtain ⟨hc, hRest⟩ := List.forall_mem_cons.mp h
      rw [lowerAfter, if_neg hc.1, hc.2, ih hRest, List.singleton_append]

/-- **Lowercasing twice** is lowercasing once. -/
theorem lowercase_lowercase (text : String) : lowercase (lowercase text) = lowercase text := by
  rw [lowercase, lowercase, String.toList_ofList, lowerList, lowerList]
  congr 1
  exact lowerAfter_of_lowered (lowered_of_mem_lowerAfter text.toList []) []

end Text

/-! ## Constraints -/

/-- The constraint holds of texts with the same lowercase form. -/
theorem holdsOf_equals_text (text value : String) :
    (Constraint.equals (.text text)).holdsOf (.text value) = true ↔
      lowercase text = lowercase value := by
  show (some (compare (lowercase value) (lowercase text))).any (· == .eq) = true ↔ _
  rw [Option.any_some, beq_iff_eq, Std.LawfulEqOrd.compare_eq_iff_eq, eq_comm]

/-- A set admits a text that equals one of its elements and agrees with it beyond ASCII. -/
theorem admits_iff {set : TextSet} {value : String} :
    set.admits value = true ↔ ∃ text ∈ set.elements,
      (Constraint.equals (.text text)).holdsOf (.text value) = true ∧
        AgreesBeyondAscii text value := by
  rw [TextSet.admits, List.any_eq_true]
  simp only [equalIgnoringAsciiCase_iff_lowercase, holdsOf_equals_text]

theorem holdsOf_oneOf_singleton (text value : String) :
    (Constraint.oneOf (TextSet.ofList [text])).holdsOf (.text value) = true ↔
      (Constraint.equals (.text text)).holdsOf (.text value) = true ∧
        AgreesBeyondAscii text value := by
  show (TextSet.ofList [text]).admits value = true ↔ _
  rw [admits_iff]
  simp only [TextSet.mem_ofList, List.mem_singleton, exists_eq_left]

theorem holdsOf_oneOf_list (set : TextSet) (values : List String) :
    (Constraint.oneOf set).holdsOf (.list values) = true ↔
      ∃ value ∈ values, ∃ text ∈ set.elements,
        (Constraint.equals (.text text)).holdsOf (.text value) = true ∧
          AgreesBeyondAscii text value := by
  show values.any set.admits = true ↔ _
  rw [List.any_eq_true]
  simp only [admits_iff]

/--
**Comparisons and sets** agree on texts that agree beyond ASCII, and on no others: a set is the
narrower one.  So a skill that a record holds in another letter case is found, by the value that the
vocabulary has for it, if and only if the record agrees beyond ASCII with that value.
-/
theorem holdsOf_oneOf_iff_equals (text value : String) (set : TextSet) (values : List String)
    (aliases : List String) :
    ((Constraint.oneOf (TextSet.ofList [text])).holdsOf (.text value) = true ↔
      (Constraint.equals (.text text)).holdsOf (.text value) = true ∧
        AgreesBeyondAscii text value) ∧
    ((Constraint.oneOf set).holdsOf (.list values) = true ↔
      ∃ held ∈ values, ∃ element ∈ set.elements,
        (Constraint.equals (.text element)).holdsOf (.text held) = true ∧
          AgreesBeyondAscii element held) ∧
    (lowercase (trim text) = lowercase value →
      ((Constraint.oneOf (TextSet.ofList [(Term.of text aliases).value])).holdsOf
        (.list [value]) = true ↔ AgreesBeyondAscii (lowercase (trim text)) value)) := by
  refine ⟨holdsOf_oneOf_singleton text value, holdsOf_oneOf_list set values, ?_⟩
  intro hSame
  have hEqual : lowercase (lowercase (trim text)) = lowercase value := by
    rw [lowercase_lowercase, hSame]
  rw [Term.value_of, holdsOf_oneOf_list]
  simp only [TextSet.mem_ofList, List.mem_singleton, exists_eq_left, holdsOf_equals_text, hEqual,
    true_and]

/-- A skill without accents is found in capitals. -/
theorem holdsOf_oneOf_capitals :
    lowercase (trim "Rust") = lowercase "RUST" ∧
      (Constraint.oneOf (TextSet.ofList [(Term.of "Rust" []).value])).holdsOf
        (.list ["RUST"]) = true := by
  have hSame : lowercase (trim "Rust") = lowercase "RUST" := by decide +kernel
  have hExact := holdsOf_oneOf_iff_equals "Rust" "RUST" (TextSet.ofList []) [] []
  exact ⟨hSame, (hExact.2.2 hSame).mpr (by decide +kernel)⟩

/-- An accented capital is equal to its lowercase form, but it is not in the set of it, and a skill
that is configured and held with it is not found. -/
theorem oneOf_narrower_accent :
    (Constraint.equals (.text "é")).holdsOf (.text "É") = true ∧
      (Constraint.oneOf (TextSet.ofList ["é"])).holdsOf (.text "É") = false ∧
      (Constraint.oneOf (TextSet.ofList [(Term.of "CRÊPE" []).value])).holdsOf
        (.list ["CRÊPE"]) = false := by
  decide +kernel

end StaffSearch
