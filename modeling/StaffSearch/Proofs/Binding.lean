import StaffSearch.Query.Binding

/-!
# What a binding says

Bindings are made anchor by anchor, in a fold whose state is the record of what has been bound so
far.  A property of every binding is therefore proved in two steps: one anchor keeps it
(`fromTokens_bindOne`), hence so does the whole fold (`fromTokens_bind`).

The property here is that a binding does not invent its number: the value is that of the numeral at
the place which the binding names, and so it fits a signed 64-bit word.
-/

namespace StaffSearch.Query

open StaffSearch.Text

/-! ## Numerals -/

/-- A numeral fits a signed 64-bit word. -/
theorem lt_of_numeralOf? {text : List Char} {value : Nat} (h : numeralOf? text = some value) :
    value < Word.count 63 := by
  have hDigits : ∀ (digits : List Char) (unit : Nat),
      (if digits.isEmpty || !digits.all isAsciiDigit then none
        else if Word.fitsUnsigned 63 (decimalValue digits * unit) then
          some (decimalValue digits * unit)
        else none) = some value → value < Word.count 63 := by
    intro digits unit h
    split at h
    · exact absurd h (by simp)
    · split at h
      · next hFits =>
          have hLt := Word.fitsUnsigned_iff.mp hFits
          cases h
          exact hLt
      · exact absurd h (by simp)
  exact hDigits _ _ h

theorem lt_of_numeralAt? {tokens : List Token} {place value : Nat}
    (h : Binder.numeralAt? tokens place = some value) : value < Word.count 63 := by
  obtain ⟨token, -, hValue⟩ := Option.bind_eq_some_iff.mp h
  exact lt_of_numeralOf? hValue

/-! ## Every binding holds the value of its numeral -/

/-- Each binding holds the value of the numeral at the place it names. -/
def FromTokens (tokens : List Token) (bindings : Bindings) : Prop :=
  ∀ anchor binding, bindings.get? anchor = some binding →
    Binder.numeralAt? tokens binding.numeral = some binding.value

theorem numeralAt?_of_freeNumeral? {tokens : List Token} {isAnchor isTaken : Nat → Bool}
    {side : List Nat} {place value : Nat}
    (h : Binder.freeNumeral? tokens isAnchor isTaken side = some (place, value)) :
    Binder.numeralAt? tokens place = some value := by
  obtain ⟨other, -, hOther⟩ := List.exists_of_findSome?_eq_some h
  split at hOther
  · exact absurd hOther (by simp)
  · obtain ⟨number, hNumber, hPair⟩ := Option.map_eq_some_iff.mp hOther
    cases hPair
    exact hNumber

/-- One anchor keeps the property: what it adds is the numeral it has found. -/
theorem fromTokens_bindOne {binder : Binder} {tokens : List Token}
    {anchors : List (Nat × Anchor)} {bindings : Bindings} (place : Nat) (anchor : Anchor)
    (hBindings : FromTokens tokens bindings) :
    FromTokens tokens (binder.bindOne tokens anchors bindings place anchor) := by
  unfold Binder.bindOne
  split
  · exact hBindings
  · dsimp only
    split
    · next numeral value hFound =>
        obtain ⟨side, -, hSide⟩ := List.exists_of_findSome?_eq_some hFound
        intro a binding hGet
        by_cases hSame : a = anchor
        · subst hSame
          rw [Bindings.set_self] at hGet
          cases hGet
          exact numeralAt?_of_freeNumeral? hSide
        · rw [Bindings.set_of_ne bindings hSame] at hGet
          exact hBindings a binding hGet
    · exact hBindings

theorem fromTokens_foldl {binder : Binder} {tokens : List Token} {all : List (Nat × Anchor)}
    (anchors : List (Nat × Anchor)) :
    ∀ bindings, FromTokens tokens bindings →
      FromTokens tokens (anchors.foldl
        (fun bindings (place, anchor) => binder.bindOne tokens all bindings place anchor)
        bindings) := by
  induction anchors with
  | nil =>
      intro bindings hBindings
      exact hBindings
  | cons entry anchors ih =>
      intro bindings hBindings
      exact ih _ (fromTokens_bindOne entry.1 entry.2 hBindings)

/-- **Bindings do not invent numbers.** -/
theorem fromTokens_bind (binder : Binder) (tokens : List Token) (active : List Anchor) :
    FromTokens tokens (binder.bind tokens active) := by
  apply fromTokens_foldl
  intro anchor binding hGet
  exact absurd hGet (by simp)

theorem lt_of_bind {binder : Binder} {tokens : List Token} {active : List Anchor}
    {anchor : Anchor} {binding : Binding}
    (h : (binder.bind tokens active).get? anchor = some binding) : binding.value < Word.count 63 :=
  lt_of_numeralAt? (fromTokens_bind binder tokens active anchor binding h)

end StaffSearch.Query
