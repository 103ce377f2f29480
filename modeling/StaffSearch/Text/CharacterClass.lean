import StaffSearch.Text.Alphabetic

/-!
# Classes of characters

Two notions of "part of a word" live side by side, and they do not agree:

* `isAlphanumeric` — letters and numbers of every kind; queries are cut into tokens along it;
* `isWordCharacter` — letters, combining marks, decimal digits, connecting punctuation such as the
  underscore, and the two joiners; captured words are cut along it.

A superscript two is alphanumeric and no word character; an underscore is a word character and not
alphanumeric. The remaining classes are the blank characters, those with the Unicode property
`White_Space`, and the ASCII ones. Trimming removes the blank characters at both ends of a text and
nothing else.

Whole numbers are written with ASCII digits: a run of any length, with any number of zeros in front.
Each reading of a number takes the whole text or nothing.
-/

namespace StaffSearch.Text

/-- A letter or a number of any kind. -/
def isAlphanumeric (c : Char) : Bool := isAlphabetic c || isNumber c

/-- Code points of the category `Pc`: the underscore and its relatives. -/
def connectorRanges : CodeRanges := [
  (0x5F, 0x5F), (0x203F, 0x2040), (0x2054, 0x2054), (0xFE33, 0xFE34), (0xFE4D, 0xFE4F),
  (0xFF3F, 0xFF3F)]

/-- Code points with the property `Join_Control`: the zero-width joiner and non-joiner. -/
def joinControlRanges : CodeRanges := [(0x200C, 0x200D)]

/-- A letter, mark, decimal digit, connecting punctuation or joiner. -/
def isWordCharacter (c : Char) : Bool :=
  isAlphabetic c || isMark c || isDecimalDigit c || connectorRanges.contains c ||
    joinControlRanges.contains c

/-- One of the digits from `0` to `9`. -/
def isAsciiDigit (c : Char) : Bool := decide ('0' ≤ c) && decide (c ≤ '9')

/-- One of the 52 letters of the ASCII alphabet. -/
def isAsciiLetter (c : Char) : Bool :=
  (decide ('a' ≤ c) && decide (c ≤ 'z')) || (decide ('A' ≤ c) && decide (c ≤ 'Z'))

/-- One of the sixteen hexadecimal digits, in either letter case. -/
def isHexDigit (c : Char) : Bool :=
  isAsciiDigit c || (decide ('a' ≤ c) && decide (c ≤ 'f')) || (decide ('A' ≤ c) && decide (c ≤ 'F'))

/-- The value of a digit from `0` to `9`. -/
def digitValue (c : Char) : Nat := c.toNat - '0'.toNat

/-- The value of a hexadecimal digit. -/
def hexValue (c : Char) : Nat :=
  if c ≤ '9' then c.toNat - '0'.toNat
  else if c ≤ 'F' then c.toNat - 'A'.toNat + 10
  else c.toNat - 'a'.toNat + 10

/-- The number that a run of decimal digits denotes. -/
def decimalValue (digits : List Char) : Nat :=
  digits.foldl (fun value c => 10 * value + digitValue c) 0

/-! ## Blank characters and trimming -/

/-- Code points with the property `White_Space`. -/
def blankRanges : CodeRanges := [
  (0x09, 0x0D), (0x20, 0x20), (0x85, 0x85), (0xA0, 0xA0), (0x1680, 0x1680), (0x2000, 0x200A),
  (0x2028, 0x2029), (0x202F, 0x202F), (0x205F, 0x205F), (0x3000, 0x3000)]

/-- A blank character: space, tab, line break or one of the wider Unicode spaces. -/
def isBlank (c : Char) : Bool := blankRanges.contains c

/-- The text without the blank characters it starts with. -/
def trimStart (text : List Char) : List Char := text.dropWhile isBlank

/-- The text without the blank characters it ends with. -/
def trimEnd (text : List Char) : List Char := (trimStart text.reverse).reverse

/-- The text without the blank characters at either end. -/
def trimList (text : List Char) : List Char := trimEnd (trimStart text)

/-- The text without the blank characters at either end. -/
def trim (text : String) : String := String.ofList (trimList text.toList)

/-- A text with no character other than blank ones; in particular the empty text. -/
def isBlankText (text : String) : Bool := text.toList.all isBlank

/-! ## Whole numbers as texts -/

/-- The number that a text of digits denotes. -/
def digits? (text : List Char) : Option Nat :=
  if text.isEmpty || !text.all isAsciiDigit then none else some (decimalValue text)

/-- The number that digits with an optional plus sign denote. -/
def natural? (text : List Char) : Option Nat :=
  match text with
  | '+' :: rest => digits? rest
  | _ => digits? text

/-- The number that digits with an optional sign denote. -/
def integer? (text : List Char) : Option Int :=
  match text with
  | '-' :: rest => (digits? rest).map fun size => -(size : Int)
  | _ => (natural? text).map fun size => (size : Int)

end StaffSearch.Text
