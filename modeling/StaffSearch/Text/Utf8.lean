/-!
# UTF-8

Characters are written as one to four bytes. A list of bytes is read as a list of symbols: each
well-formed group of bytes is a character, and a byte that belongs to none stands for itself as
`none`. Overlong groups and halves of pairs are not well-formed.
-/

namespace StaffSearch.Text

/-- Whether a byte continues a group. -/
def isContinuation (byte : UInt8) : Bool := 0x80 ≤ byte && byte ≤ 0xBF

/-- The six bits that a continuing byte adds. -/
def continuationBits (byte : UInt8) : Nat := byte.toNat % 64

/-- The character of a code point, unless there is none or a shorter group would do. -/
def characterFrom? (least code : Nat) : Option Char :=
  if least ≤ code ∧ (code < 0xD800 ∨ (0xDFFF < code ∧ code < 0x110000)) then some (Char.ofNat code)
  else none

/-- The character whose group the bytes start with, and the number of its further bytes. -/
def characterAt? : List UInt8 → Option (Char × Nat)
  | a :: rest =>
    if a < 0x80 then some (Char.ofNat a.toNat, 0)
    else if a < 0xE0 then
      match rest with
      | b :: _ =>
        if 0xC0 ≤ a && isContinuation b then
          (characterFrom? 0x80 (a.toNat % 32 * 64 + continuationBits b)).map (·, 1)
        else none
      | _ => none
    else if a < 0xF0 then
      match rest with
      | b :: c :: _ =>
        if isContinuation b && isContinuation c then
          (characterFrom? 0x800
            ((a.toNat % 16 * 64 + continuationBits b) * 64 + continuationBits c)).map (·, 2)
        else none
      | _ => none
    else if a < 0xF8 then
      match rest with
      | b :: c :: d :: _ =>
        if isContinuation b && isContinuation c && isContinuation d then
          (characterFrom? 0x10000
            (((a.toNat % 8 * 64 + continuationBits b) * 64 + continuationBits c) * 64 +
              continuationBits d)).map (·, 3)
        else none
      | _ => none
    else none
  | [] => none

/-- The symbols of the bytes behind the first `skipped` ones. -/
def decodeAfter (skipped : Nat) : List UInt8 → List (Option Char)
  | [] => []
  | byte :: rest =>
    match skipped with
    | left + 1 => decodeAfter left rest
    | 0 =>
      match characterAt? (byte :: rest) with
      | some (c, more) => some c :: decodeAfter more rest
      | none => none :: decodeAfter 0 rest

/-- The symbols of a list of bytes. -/
def decode (bytes : List UInt8) : List (Option Char) := decodeAfter 0 bytes

end StaffSearch.Text
