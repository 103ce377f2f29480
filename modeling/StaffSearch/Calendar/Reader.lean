import StaffSearch.Calendar.Instant
import StaffSearch.Text.CharacterClass

/-!
# Reading moments

Two grammars for a date and a time of day with an offset from universal time.

The *lenient* one allows blanks before every number, before every separator, before the offset and
at the end; a year of up to four digits, or a sign and any number of digits; one or two digits for
the other numbers; `T`, `t` or a blank between date and time; any run of colons and blanks inside
the offset; and the word `UTC` as an offset.

The *strict* one fixes the number of digits, allows no blanks, and wants a colon inside the offset.

In both, the fraction of a second needs a digit, digits after the ninth do not count, second 60 is a
leap second, and a minus sign of an offset may also be the mathematical one.
-/

namespace StaffSearch

open StaffSearch.Text

namespace Calendar

/-! ## Pieces -/

/-- Reads a number of at least `least` and at most `most` digits. -/
def readNumber (least most : Nat) (input : List Char) : Option (Nat × List Char) :=
  let digits := (input.takeWhile isAsciiDigit).take most
  if digits.length < least ∨ digits = [] then none
  else some (decimalValue digits, input.drop digits.length)

/-- Reads one given character. -/
def readChar (c : Char) : List Char → Option (List Char)
  | [] => none
  | d :: rest => if d = c then some rest else none

/-- Reads the letter between date and time. -/
def readDivider : List Char → Option (List Char)
  | [] => none
  | c :: rest => if c = 'T' ∨ c = 't' ∨ c = ' ' then some rest else none

/-- Reads a fraction of a second, zero if there is none. -/
def readFraction : List Char → Option (Nat × List Char)
  | '.' :: rest =>
    let digits := rest.takeWhile isAsciiDigit
    if digits = [] then none
    else
      let counted := digits.take 9
      some (decimalValue counted * Nat.pow 10 (9 - counted.length), rest.drop digits.length)
  | input => some (0, input)

/-- Reads the sign of an offset: whether clocks are behind universal time. -/
def readOffsetSign : List Char → Option (Bool × List Char)
  | [] => none
  | c :: rest =>
    if c = '+' then some (false, rest)
    else if c = '-' ∨ c = '−' then some (true, rest)
    else none

/-- Reads the hours and minutes of an offset; `between` reads what stands between them. -/
def readOffset (between : List Char → Option (List Char)) (input : List Char) :
    Option (Int × List Char) := do
  let (behind, input) ← readOffsetSign input
  let (hours, input) ← readNumber 2 2 input
  let input ← between input
  let (minutes, input) ← readNumber 2 2 input
  if minutes < 60 ∧ hours < 24 then
    let total : Int := hours * 60 + minutes
    some (if behind then -total else total, input)
  else none

/-! ## The lenient grammar -/

/-- Reads a number after blanks. -/
def readSpacedNumber (most : Nat) (input : List Char) : Option (Nat × List Char) :=
  readNumber 1 most (trimStart input)

/-- Reads a separator after blanks. -/
def readSpacedChar (c : Char) (input : List Char) : Option (List Char) :=
  readChar c (trimStart input)

/-- Reads a year after blanks. -/
def readYear (input : List Char) : Option (Int × List Char) :=
  match trimStart input with
  | '-' :: rest => (readNumber 1 rest.length rest).map fun (n, after) => (-(n : Int), after)
  | '+' :: rest => (readNumber 1 rest.length rest).map fun (n, after) => ((n : Int), after)
  | input => (readNumber 1 4 input).map fun (n, after) => ((n : Int), after)

/-- Skips colons and blanks. -/
def skipColons (input : List Char) : Option (List Char) :=
  some (input.dropWhile fun c => c == ':' || isBlank c)

/-- Reads an offset after blanks: a letter, the word for universal time, or hours and minutes. -/
def readZone (input : List Char) : Option (Int × List Char) :=
  match trimStart input with
  | a :: b :: c :: rest =>
    if (a = 'U' ∨ a = 'u') ∧ (b = 'T' ∨ b = 't') ∧ (c = 'C' ∨ c = 'c') then some (0, rest)
    else if a = 'Z' ∨ a = 'z' then some (0, b :: c :: rest)
    else readOffset skipColons (a :: b :: c :: rest)
  | a :: rest => if a = 'Z' ∨ a = 'z' then some (0, rest) else none
  | [] => none

/-- Reads a moment in the lenient grammar. -/
def readLenient (input : List Char) : Option Instant := do
  let (year, input) ← readYear input
  let input ← readSpacedChar '-' input
  let (month, input) ← readSpacedNumber 2 input
  let input ← readSpacedChar '-' input
  let (day, input) ← readSpacedNumber 2 input
  let input ← readDivider input
  let (hour, input) ← readSpacedNumber 2 input
  let input ← readSpacedChar ':' input
  let (minute, input) ← readSpacedNumber 2 input
  let input ← readSpacedChar ':' input
  let (second, input) ← readSpacedNumber 2 input
  let (nano, input) ← readFraction input
  let (offset, input) ← readZone input
  if trimStart input = [] then
    let date ← Date.ofCivil? year month day
    let shown ← Instant.ofClock? date hour minute second nano
    Instant.ofOffset? shown offset
  else none

/-! ## The strict grammar -/

/-- Reads an offset: a letter, or hours and minutes with a colon between them. -/
def readStrictZone : List Char → Option (Int × List Char)
  | 'Z' :: rest | 'z' :: rest => some (0, rest)
  | input => readOffset (readChar ':') input

/-- Reads a moment in the strict grammar. -/
def readStrict (input : List Char) : Option Instant := do
  let (year, input) ← readNumber 4 4 input
  let input ← readChar '-' input
  let (month, input) ← readNumber 2 2 input
  let input ← readChar '-' input
  let (day, input) ← readNumber 2 2 input
  let input ← readDivider input
  let (hour, input) ← readNumber 2 2 input
  let input ← readChar ':' input
  let (minute, input) ← readNumber 2 2 input
  let input ← readChar ':' input
  let (second, input) ← readNumber 2 2 input
  let (nano, input) ← readFraction input
  let (offset, input) ← readStrictZone input
  if input = [] then
    let date ← Date.ofCivil? year month day
    let shown ← Instant.ofClock? date hour minute second nano
    Instant.ofOffset? shown offset
  else none

end Calendar

/-- The moment a text denotes in the lenient grammar. -/
def Instant.read? (text : String) : Option Instant := Calendar.readLenient text.toList

/-- The moment a text denotes in the strict grammar. -/
def Instant.readStrict? (text : String) : Option Instant := Calendar.readStrict text.toList

end StaffSearch
