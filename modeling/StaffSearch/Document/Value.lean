import StaffSearch.Text.CharacterClass
import StaffSearch.Text.Case

/-!
# Document values

The values that documents of a document store are made of, as far as records and queries use them.
Values of the kinds that are never looked at are all `other`.

## Main results

* `ObjectId.parse?_hex` — an identifier is read back from its written form.
-/

namespace StaffSearch.Document

open StaffSearch.Text

/-! ## Identifiers -/

/-- One of the digits of a written identifier. -/
def isIdDigit (c : Char) : Bool :=
  isAsciiDigit c || (decide ('a' ≤ c) && decide (c ≤ 'f'))

/-- An identifier: 24 hexadecimal digits, the letters in lowercase. -/
structure ObjectId where
  /-- The digits. -/
  hex : String
  /-- There are 24 of them, in lowercase. -/
  isHex : hex.toList.length = 24 ∧ hex.toList.all isIdDigit = true
  deriving DecidableEq

/-- The identifier that 24 hexadecimal digits in any letter case denote. -/
def ObjectId.parse? (text : String) : Option ObjectId :=
  let hex := lowercaseAscii text
  if h : hex.toList.length = 24 ∧ hex.toList.all isIdDigit = true then some ⟨hex, h⟩ else none

theorem lowerAscii_of_isIdDigit {c : Char} (h : isIdDigit c = true) : lowerAscii c = c := by
  unfold lowerAscii
  split
  · next hc =>
    simp only [isIdDigit, isAsciiDigit, Bool.or_eq_true, Bool.and_eq_true, decide_eq_true_eq] at h
    have h1 : 'A'.toNat ≤ c.toNat := hc.1
    have h2 : c.toNat ≤ 'Z'.toNat := hc.2
    rcases h with ⟨_, h4⟩ | ⟨h3, _⟩
    · have h4 : c.toNat ≤ '9'.toNat := h4
      simp at h1 h2 h4
      omega
    · have h3 : 'a'.toNat ≤ c.toNat := h3
      simp at h1 h2 h3
      omega
  · rfl

theorem ObjectId.parse?_hex (id : ObjectId) : ObjectId.parse? id.hex = some id := by
  have hmap : id.hex.toList.map lowerAscii = id.hex.toList := by
    conv => rhs; rw [← List.map_id id.hex.toList]
    apply List.map_congr_left
    intro c hc
    exact lowerAscii_of_isIdDigit (List.all_eq_true.mp id.isHex.2 c hc)
  have hlower : lowercaseAscii id.hex = id.hex := by
    rw [lowercaseAscii, hmap, String.ofList_toList]
  unfold ObjectId.parse?
  simp only [hlower]
  exact dif_pos id.isHex

/-! ## Values -/

/-- A value in a document. -/
inductive Value where
  /-- A double. -/
  | double (value : Float)
  /-- A signed 32-bit number. -/
  | int32 (value : Int)
  /-- A signed 64-bit number. -/
  | int64 (value : Int64)
  /-- A text. -/
  | text (value : String)
  /-- A truth value. -/
  | boolean (value : Bool)
  /-- The missing value. -/
  | null
  /-- An identifier. -/
  | id (value : ObjectId)
  /-- A moment in milliseconds since the beginning of 1970. -/
  | date (millis : Int64)
  /-- A text pattern with its options. -/
  | pattern (source options : String)
  /-- A list. -/
  | list (values : List Value)
  /-- A document inside the document. -/
  | document (entries : List (String × Value))
  /-- Any other kind of value. -/
  | other
  deriving Inhabited

/-- A document: named values in order. -/
abbrev Entries := List (String × Value)

/-- The value of an entry; the last one of that name counts. -/
def Entries.get? (entries : Entries) (name : String) : Option Value :=
  entries.foldl (fun found entry => if entry.1 == name then some entry.2 else found) none

end StaffSearch.Document
