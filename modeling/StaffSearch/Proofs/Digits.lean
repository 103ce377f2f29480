import Mathlib.Algebra.Ring.Nat
import StaffSearch.Calendar.Printer
import StaffSearch.Calendar.Reader
import StaffSearch.Proofs.Letters
import StaffSearch.Text.CharacterClass

/-!
# Numbers in decimal digits

Numbers are written by `Nat.toDigits`, in dates with zeros in front, and they are read by summing up
a run of digits.  This file connects the two.  A reader takes digits while there are any, so it
finds the number again when what stands behind the digits is no digit (`StopsDigits`).

* `decimalValue_toDigits`, `decimalValue_paddedDigits`: digits denote the number they were written
  for.
* `toDigits_eq_cons_zero`: only zero is written with a zero in front.
* `readNumber_append`, `readNumber_paddedDigits`: a run of digits is read off the input.
* `digits?_eq_some_iff`, `natural?_eq_some_iff`: the texts that are numbers as a whole.
-/

namespace StaffSearch.Text

/-! ## Digits -/

/-- What stands behind a run of digits: no further digit. -/
def StopsDigits (rest : List Char) : Prop := ∀ c, rest.head? = some c → isAsciiDigit c = false

@[simp] theorem stopsDigits_nil : StopsDigits [] := by
  intro c hHead
  exact absurd hHead (by simp)

@[simp] theorem stopsDigits_cons {c : Char} {rest : List Char} (h : isAsciiDigit c = false) :
    StopsDigits (c :: rest) := by
  intro d hHead
  cases hHead
  exact h

theorem isAsciiDigit_of_isDigit {c : Char} (h : c.isDigit = true) : isAsciiDigit c = true := by
  rw [isAsciiDigit_iff]
  simpa [Char.isDigit, UInt32.le_iff_toNat_le] using h

theorem isAsciiDigit_of_mem_toDigits {n : Nat} {c : Char} (h : c ∈ Nat.toDigits 10 n) :
    isAsciiDigit c = true :=
  isAsciiDigit_of_isDigit (Nat.isDigit_of_mem_toDigits (by decide) (by decide) h)

theorem decimalValue_eq (digits : List Char) :
    decimalValue digits = Nat.ofDigitChars 10 digits 0 :=
  Nat.ofDigitChars_eq_foldl.symm

/-- **Digits denote the number they were written for.** -/
@[simp] theorem decimalValue_toDigits (n : Nat) : decimalValue (Nat.toDigits 10 n) = n := by
  rw [decimalValue_eq, Nat.ofDigitChars_ten_toDigits]

/-- Only zero is written with a zero in front. -/
theorem toDigits_eq_cons_zero {n : Nat} :
    ∀ {rest : List Char}, Nat.toDigits 10 n = '0' :: rest → rest = [] := by
  induction n using Nat.strongRecOn with
  | ind n ih =>
      intro rest h
      by_cases hSmall : n < 10
      · rw [Nat.toDigits_of_lt_base hSmall] at h
        injection h with _ hRest
        exact hRest.symm
      · -- the digits but the last are those of a smaller number, which is not zero
        rw [Nat.toDigits_of_base_le (by decide) (by omega)] at h
        cases hFront : Nat.toDigits 10 (n / 10) with
        | nil => exact absurd hFront Nat.toDigits_ne_nil
        | cons c front =>
            rw [hFront] at h
            injection h with hZero _
            subst hZero
            have hNil := ih (n / 10) (by omega) hFront
            have hValue := decimalValue_toDigits (n / 10)
            rw [hFront, hNil] at hValue
            have hNone : n / 10 = 0 := hValue.symm
            omega

/-! ## Digits up to a width -/

theorem isAsciiDigit_of_mem_paddedDigits {width n : Nat} {c : Char}
    (h : c ∈ paddedDigits width n) : isAsciiDigit c = true := by
  rcases List.mem_append.mp h with hZero | hDigit
  · rw [List.eq_of_mem_replicate hZero]
    rfl
  · exact isAsciiDigit_of_mem_toDigits hDigit

@[simp] theorem decimalValue_paddedDigits (width n : Nat) :
    decimalValue (paddedDigits width n) = n := by
  unfold paddedDigits
  rw [decimalValue_eq, Nat.ofDigitChars_append, Nat.ofDigitChars_replicate_zero, Nat.mul_zero,
    Nat.ofDigitChars_ten_toDigits]

theorem length_paddedDigits (width n : Nat) :
    (paddedDigits width n).length = max width (Nat.toDigits 10 n).length := by
  unfold paddedDigits
  rw [List.length_append, List.length_replicate]
  omega

/-- A number that fits the width is written in just that many digits. -/
theorem length_paddedDigits_of_lt {width n : Nat} (hWidth : 0 < width) (h : n < 10 ^ width) :
    (paddedDigits width n).length = width := by
  have hDigits := (Nat.length_toDigits_le_iff (by decide) hWidth).mpr h
  rw [length_paddedDigits]
  omega

theorem paddedDigits_ne_nil (width n : Nat) : paddedDigits width n ≠ [] := by
  intro h
  exact Nat.toDigits_ne_nil (List.append_eq_nil_iff.mp h).2

/-! ## Reading a run of digits -/

theorem takeWhile_digits {digits rest : List Char} (hDigits : ∀ c ∈ digits, isAsciiDigit c = true)
    (hStop : StopsDigits rest) : (digits ++ rest).takeWhile isAsciiDigit = digits := by
  rw [List.takeWhile_append_of_pos hDigits]
  cases rest with
  | nil => exact List.append_nil digits
  | cons c rest =>
      rw [List.takeWhile_cons_of_neg, List.append_nil]
      rw [hStop c rfl]
      exact Bool.false_ne_true

theorem isBlank_eq_false_of_digit {c : Char} (hc : isAsciiDigit c = true) : isBlank c = false := by
  rw [Bool.eq_false_iff]
  intro hBlank
  have h := isAlphanumeric_eq_false_of_isBlank hBlank
  rw [isAlphanumeric_of_isAsciiDigit hc] at h
  exact absurd h (by decide)

/-- Nothing is trimmed off in front of digits. -/
theorem trimStart_digits {digits rest : List Char} (hDigits : ∀ c ∈ digits, isAsciiDigit c = true)
    (hSome : digits ≠ []) : trimStart (digits ++ rest) = digits ++ rest := by
  cases digits with
  | nil => exact absurd rfl hSome
  | cons c digits =>
      exact trimStart_cons (isBlank_eq_false_of_digit (hDigits c List.mem_cons_self))

/-- **A run of digits is read off the input.** -/
theorem readNumber_append {least most : Nat} {digits rest : List Char}
    (hDigits : ∀ c ∈ digits, isAsciiDigit c = true) (hStop : StopsDigits rest)
    (hSome : digits ≠ []) (hLeast : least ≤ digits.length) (hMost : digits.length ≤ most) :
    Calendar.readNumber least most (digits ++ rest) = some (decimalValue digits, rest) := by
  have hEnough : ¬ (digits.length < least ∨ digits = []) := by
    rintro (hShort | hNone)
    · omega
    · exact hSome hNone
  simp only [Calendar.readNumber, takeWhile_digits hDigits hStop, List.take_of_length_le hMost,
    if_neg hEnough, List.drop_left]

theorem readNumber_paddedDigits {least most width n : Nat} {rest : List Char}
    (hStop : StopsDigits rest) (hLeast : least ≤ (paddedDigits width n).length)
    (hMost : (paddedDigits width n).length ≤ most) :
    Calendar.readNumber least most (paddedDigits width n ++ rest) = some (n, rest) := by
  rw [readNumber_append (fun _ hMem => isAsciiDigit_of_mem_paddedDigits hMem) hStop
    (paddedDigits_ne_nil width n) hLeast hMost, decimalValue_paddedDigits]

/-! ## Reading a whole text -/

theorem digits?_eq_some_iff {text : List Char} {value : Nat} :
    digits? text = some value ↔
      text ≠ [] ∧ (∀ c ∈ text, isAsciiDigit c = true) ∧ decimalValue text = value := by
  have hReads : (text.isEmpty || !text.all isAsciiDigit) = true ↔
      ¬ (text ≠ [] ∧ ∀ c ∈ text, isAsciiDigit c = true) := by
    rw [Bool.or_eq_true, List.isEmpty_iff, Bool.not_eq_true', ← Bool.not_eq_true, List.all_eq_true,
      not_and_or, not_not]
  unfold digits?
  split
  · next hOther =>
      rw [hReads] at hOther
      exact ⟨fun h => absurd h (by simp), fun h => absurd ⟨h.1, h.2.1⟩ hOther⟩
  · next hDigits =>
      rw [hReads, not_not] at hDigits
      rw [Option.some.injEq]
      exact ⟨fun h => ⟨hDigits.1, hDigits.2, h⟩, fun h => h.2.2⟩

@[simp] theorem digits?_toDigits (n : Nat) : digits? (Nat.toDigits 10 n) = some n := by
  rw [digits?_eq_some_iff]
  exact ⟨Nat.toDigits_ne_nil, fun c hMem => isAsciiDigit_of_mem_toDigits hMem,
    decimalValue_toDigits n⟩

theorem natural?_eq_some_iff {text : List Char} {value : Nat} :
    natural? text = some value ↔
      ∃ digits, (text = digits ∨ text = '+' :: digits) ∧ digits? digits = some value := by
  unfold natural?
  split
  · next rest =>
      constructor
      · intro h
        exact ⟨rest, Or.inr rfl, h⟩
      · rintro ⟨digits, rfl | hText, h⟩
        -- a plus sign is no digit
        · have hSign := (digits?_eq_some_iff.mp h).2.1 '+' List.mem_cons_self
          exact absurd hSign (by decide)
        · cases hText
          exact h
  · next hNoSign =>
      constructor
      · intro h
        exact ⟨text, Or.inl rfl, h⟩
      · rintro ⟨digits, rfl | hText, h⟩
        · exact h
        · exact absurd hText (hNoSign digits)

end StaffSearch.Text
