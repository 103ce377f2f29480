/-!
# Finding and cutting

A text can be looked for inside another one, at its start or at its end, and a text can be cut at a
separator.

## Main results

* `occursIn_iff` — the search finds `needle` exactly when it is a contiguous part of the text.
* `beforeEnd?_eq_some_iff` — what is left of a text by taking off its ending.
* `cutAtLast?_append` — where the cut falls when the separator does not occur behind it.
* `cutAtLast?_eq_some` — the pieces make up the text again, and the last one has no separator.
* `cutAtLast?_eq_none_iff` — there is nothing to cut exactly when the separator does not occur.
-/

namespace StaffSearch.Text

/-! ## Finding one text inside another -/

/-- Whether `needle` occurs as a contiguous part of a text. -/
def occursIn (needle : List Char) : List Char → Bool
  | [] => needle.isEmpty
  | c :: rest => needle.isPrefixOf (c :: rest) || occursIn needle rest

theorem occursIn_iff (needle text : List Char) :
    occursIn needle text = true ↔ needle <:+: text := by
  induction text with
  | nil => simp [occursIn]
  | cons c rest ih =>
    rw [occursIn, Bool.or_eq_true, ih, List.isPrefixOf_iff_prefix, List.infix_cons_iff]

/-- The rest of the text after `start`, if the text starts with it. -/
def afterStart? (start text : List Char) : Option (List Char) :=
  if start.isPrefixOf text then some (text.drop start.length) else none

/-- What stands before `ending`, if the text ends with it. -/
def beforeEnd? (ending text : List Char) : Option (List Char) :=
  if ending.isSuffixOf text then some (text.take (text.length - ending.length)) else none

theorem beforeEnd?_eq_some_iff (ending text base : List Char) :
    beforeEnd? ending text = some base ↔ text = base ++ ending := by
  unfold beforeEnd?
  split
  · next h =>
    obtain ⟨front, rfl⟩ := List.isSuffixOf_iff_suffix.mp h
    simp
  · next h =>
    constructor
    · simp
    · rintro rfl
      simp at h

/-! ## Cutting a text at a separator -/

/-- The pieces of a text between the separators; there is one more of them than separators. -/
def pieces (separator : Char) : List Char → List (List Char)
  | [] => [[]]
  | c :: rest =>
    if c = separator then [] :: pieces separator rest
    else
      match pieces separator rest with
      | [] => [[c]]
      | piece :: others => (c :: piece) :: others

/-- What stands before and behind the first separator. -/
def cutAtFirst? (separator : Char) : List Char → Option (List Char × List Char)
  | [] => none
  | c :: rest =>
    if c = separator then some ([], rest)
    else (cutAtFirst? separator rest).map fun (before, behind) => (c :: before, behind)

/-- What stands before and behind the last separator. -/
def cutAtLast? (separator : Char) : List Char → Option (List Char × List Char)
  | [] => none
  | c :: rest =>
    match cutAtLast? separator rest with
    | some (before, behind) => some (c :: before, behind)
    | none => if c = separator then some ([], rest) else none

@[simp] theorem cutAtLast?_eq_none_iff {separator : Char} {text : List Char} :
    cutAtLast? separator text = none ↔ separator ∉ text := by
  induction text with
  | nil => simp [cutAtLast?]
  | cons c rest ih =>
    rw [cutAtLast?]
    cases hcut : cutAtLast? separator rest with
    | none =>
      have hrest := ih.mp hcut
      by_cases h : c = separator
      · simp [h]
      · simp [h, hrest, Ne.symm h]
    | some cut =>
      have hrest : separator ∈ rest := by
        by_cases h : separator ∈ rest
        · exact h
        · exact absurd (ih.mpr h) (by simp [hcut])
      simp [hrest]

theorem cutAtLast?_append {separator : Char} {behind : List Char} (h : separator ∉ behind)
    (before : List Char) :
    cutAtLast? separator (before ++ separator :: behind) = some (before, behind) := by
  induction before with
  | nil => simp [cutAtLast?, cutAtLast?_eq_none_iff.mpr h]
  | cons c rest ih => simp [cutAtLast?, ih]

theorem cutAtLast?_eq_some {separator : Char} {text before behind : List Char}
    (h : cutAtLast? separator text = some (before, behind)) :
    text = before ++ separator :: behind ∧ separator ∉ behind := by
  induction text generalizing before with
  | nil => simp [cutAtLast?] at h
  | cons c rest ih =>
    rw [cutAtLast?] at h
    cases hcut : cutAtLast? separator rest with
    | some cut =>
      obtain ⟨front, back⟩ := cut
      simp only [hcut, Option.some.injEq, Prod.mk.injEq] at h
      obtain ⟨rfl, rfl⟩ := h
      obtain ⟨hrest, hback⟩ := ih hcut
      exact ⟨by rw [hrest, List.cons_append], hback⟩
    | none =>
      simp only [hcut] at h
      split at h
      · next hc =>
        cases h
        exact ⟨by rw [hc, List.nil_append], cutAtLast?_eq_none_iff.mp hcut⟩
      · cases h

end StaffSearch.Text
