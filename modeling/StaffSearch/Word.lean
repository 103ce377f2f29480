/-!
# Words of so many bits

Numbers are kept and written in words of 16, 32 or 64 bits. A word without a sign holds the whole
numbers from zero up to, not including, two to the number of its bits; one with a sign gives its
highest bit to the sign.

## Main results

* `fitsUnsigned_iff`, `fitsSigned_iff` — the numbers that fit a word.
* `toInt64_toInt` — a number that fits its word is found in it again.
-/

namespace StaffSearch.Word

/-- How many values a word of `bits` bits has. -/
def count (bits : Nat) : Nat := Nat.pow 2 bits

/-- Whether a number fits a word of `bits` bits without a sign. -/
def fitsUnsigned (bits value : Nat) : Bool := decide (value < count bits)

/-- Whether a number fits a word of `bits` bits with a sign. -/
def fitsSigned (bits : Nat) (value : Int) : Bool :=
  decide (-(count (bits - 1) : Int) ≤ value) && decide (value < (count (bits - 1) : Int))

/-! ## Properties -/

theorem count_succ (bits : Nat) : count (bits + 1) = 2 * count bits := by
  simp only [count, Nat.pow_eq, Nat.pow_succ, Nat.mul_comm]

@[simp] theorem fitsUnsigned_iff {bits value : Nat} :
    fitsUnsigned bits value = true ↔ value < count bits := by
  simp [fitsUnsigned]

@[simp] theorem fitsSigned_iff {bits : Nat} {value : Int} :
    fitsSigned bits value = true ↔
      -(count (bits - 1) : Int) ≤ value ∧ value < (count (bits - 1) : Int) := by
  simp [fitsSigned]

/-- A number that fits a 64-bit word with a sign is the number of that word. -/
theorem toInt64_toInt {value : Int} (h : fitsSigned 64 value = true) :
    (Int64.ofInt value).toInt = value := by
  obtain ⟨hlow, hhigh⟩ := fitsSigned_iff.1 h
  have hcount : count (64 - 1) = 9223372036854775808 := by decide
  rw [hcount] at hlow hhigh
  exact Int64.toInt_ofInt_of_le (by simpa using hlow) (by simpa using hhigh)

/-- Every number of a 64-bit word with a sign fits it. -/
theorem fitsSigned_toInt (value : Int64) : fitsSigned 64 value.toInt = true := by
  have hcount : count (64 - 1) = 9223372036854775808 := by decide
  rw [fitsSigned_iff, hcount]
  exact ⟨by simpa using value.le_toInt, by simpa using value.toInt_lt⟩

end StaffSearch.Word
