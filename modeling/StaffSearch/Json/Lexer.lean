import StaffSearch.Text.CharacterClass
import StaffSearch.Word

/-!
# The lexical grammar of JSON

JSON is read from a list of symbols. A symbol is a character, or `none` for a byte of the input that
is not part of any UTF-8 character: such a byte is harmless inside a string that is skipped, and an
error everywhere else.

A literal that is not an integer of 64 bits is rounded in two steps: as many of its digits as fit
into an unsigned 64-bit word, those before the point and then those behind it, are rounded to a
double, and the result is scaled by powers of ten.
-/

namespace StaffSearch.Json

open StaffSearch.Text

/-- A character of the input, or a byte that belongs to no character. -/
abbrev Symbol := Option Char

/-- The symbols of a text. -/
def symbols (text : String) : List Symbol := text.toList.map some

/-- The four blank characters of JSON. -/
def isSpace (symbol : Symbol) : Bool :=
  [some ' ', some '\n', some '\t', some '\r'].contains symbol

/-- The input without the blanks it starts with. -/
def skipSpace (input : List Symbol) : List Symbol := input.dropWhile isSpace

/-- A symbol that is one of the ten digits. -/
def isDigitSymbol (symbol : Symbol) : Bool := symbol.any isAsciiDigit

/-- The input behind a fixed word. -/
def afterWord? (word : List Char) (input : List Symbol) : Option (List Symbol) :=
  if (word.map some).isPrefixOf input then some (input.drop word.length) else none

/-! ## Strings -/

/-- The symbols of a string up to its closing quote, escapes untouched, and what follows the quote.
Control characters may not stand in a string. -/
def cutString : List Symbol → Option (List Symbol × List Symbol)
  | [] => none
  | some '"' :: rest => some ([], rest)
  | some '\\' :: symbol :: rest =>
    (cutString rest).map fun (content, after) => (some '\\' :: symbol :: content, after)
  | symbol :: rest =>
    if symbol.any (fun c => decide (c.toNat < 0x20)) then none
    else (cutString rest).map fun (content, after) => (symbol :: content, after)

/-- The number that four hexadecimal digits denote. -/
def hexQuad? : Symbol → Symbol → Symbol → Symbol → Option Nat
  | some a, some b, some c, some d =>
    if isHexDigit a && isHexDigit b && isHexDigit c && isHexDigit d then
      some (((hexValue a * 16 + hexValue b) * 16 + hexValue c) * 16 + hexValue d)
    else none
  | _, _, _, _ => none

/-- The character of a one-letter escape. -/
def shortEscape? : Char → Option Char
  | '"' => some '"'
  | '\\' => some '\\'
  | '/' => some '/'
  | 'b' => some '\x08'
  | 'f' => some '\x0c'
  | 'n' => some '\n'
  | 'r' => some '\r'
  | 't' => some '\t'
  | _ => none

/-- The first half of a code point beyond the basic plane. -/
def isLeadingSurrogate (unit : Nat) : Bool := decide (0xD800 ≤ unit) && decide (unit ≤ 0xDBFF)

/-- The second half of a code point beyond the basic plane. -/
def isTrailingSurrogate (unit : Nat) : Bool := decide (0xDC00 ≤ unit) && decide (unit ≤ 0xDFFF)

/-- The characters of a string: escapes are resolved, two escaped halves make one character, and a
half on its own is an error. -/
def unescape : List Symbol → Option (List Char)
  | [] => some []
  | some '\\' :: some 'u' :: a :: b :: c :: d :: rest =>
    match hexQuad? a b c d with
    | none => none
    | some unit =>
      if isLeadingSurrogate unit then
        match rest with
        | some '\\' :: some 'u' :: e :: f :: g :: h :: rest' =>
          match hexQuad? e f g h with
          | none => none
          | some next =>
            if isTrailingSurrogate next then
              (unescape rest').map
                (Char.ofNat (0x10000 + (unit - 0xD800) * 0x400 + (next - 0xDC00)) :: ·)
            else none
        | _ => none
      else if isTrailingSurrogate unit then none
      else (unescape rest).map (Char.ofNat unit :: ·)
  | some '\\' :: some letter :: rest =>
    match shortEscape? letter with
    | none => none
    | some c => (unescape rest).map (c :: ·)
  | some '\\' :: _ => none
  | none :: _ => none
  | some c :: rest => (unescape rest).map (c :: ·)

/-- Whether every escape of a string is spelled correctly, without regard to what it denotes. -/
def escapesAreSpelled : List Symbol → Bool
  | [] => true
  | some '\\' :: some 'u' :: a :: b :: c :: d :: rest =>
    (hexQuad? a b c d).isSome && escapesAreSpelled rest
  | some '\\' :: some letter :: rest => (shortEscape? letter).isSome && escapesAreSpelled rest
  | some '\\' :: _ => false
  | _ :: rest => escapesAreSpelled rest

/-- Reads a string behind its opening quote. -/
def readString (input : List Symbol) : Option (String × List Symbol) :=
  match cutString input with
  | none => none
  | some (content, rest) => (unescape content).map fun text => (String.ofList text, rest)

/-- Skips a string behind its opening quote. -/
def skipString (input : List Symbol) : Option (List Symbol) :=
  match cutString input with
  | none => none
  | some (content, rest) => if escapesAreSpelled content then some rest else none

/-! ## Numbers -/

/-- The digits an input starts with, and what follows them. -/
def spanDigits (input : List Symbol) : List Char × List Symbol :=
  ((input.takeWhile isDigitSymbol).filterMap id, input.dropWhile isDigitSymbol)

/-- The parts of a number as written. -/
structure NumberLiteral where
  /-- Whether a minus sign stands in front. -/
  negative : Bool
  /-- The digits before the point. -/
  whole : List Char
  /-- The digits behind the point, if there is one. -/
  fraction : List Char
  /-- The power of ten. -/
  exponent : Int
  /-- Whether there is neither point nor exponent. -/
  isWhole : Bool

/-- The exponent part of a number, behind its letter. -/
def scanExponent (input : List Symbol) : Option (Int × List Symbol) :=
  let (negative, unsigned) := match input with
    | some '-' :: rest => (true, rest)
    | some '+' :: rest => (false, rest)
    | _ => (false, input)
  let (digits, rest) := spanDigits unsigned
  if digits.isEmpty then none
  else
    let size : Int := decimalValue digits
    some (if negative then -size else size, rest)

/-- The exponent of a number, zero if none is written, and whether one is. -/
def scanOptionalExponent (input : List Symbol) : Option (Int × Bool × List Symbol) :=
  match input with
  | some 'e' :: rest | some 'E' :: rest =>
    (scanExponent rest).map fun (exponent, after) => (exponent, true, after)
  | _ => some (0, false, input)

/-- Cuts a number off the input: a minus sign, digits without a needless zero in front, a fraction
and an exponent, of which only the digits must be there. -/
def scanNumber (input : List Symbol) : Option (NumberLiteral × List Symbol) :=
  let (negative, unsigned) := match input with
    | some '-' :: rest => (true, rest)
    | _ => (false, input)
  let (whole, afterWhole) := spanDigits unsigned
  if whole.isEmpty || (whole.head? == some '0' && 1 < whole.length) then none
  else
    match afterWhole with
    | some '.' :: rest =>
      let (fraction, afterFraction) := spanDigits rest
      if fraction.isEmpty then none
      else
        (scanOptionalExponent afterFraction).map fun (exponent, _, after) =>
          ({ negative, whole, fraction, exponent, isWhole := false }, after)
    | _ =>
      (scanOptionalExponent afterWhole).map fun (exponent, hasExponent, after) =>
        ({ negative, whole, fraction := [], exponent, isWhole := !hasExponent }, after)

/-- A number with as many digits put behind it as an unsigned 64-bit word holds, and how many digits
are left out. -/
def leadingWord (value : Nat) : List Char → Nat × Nat
  | [] => (value, 0)
  | c :: rest =>
    let next := 10 * value + digitValue c
    if Word.fitsUnsigned 64 next then leadingWord next rest
    else (value, rest.length + 1)

/-- The nearest double to a power of ten. -/
def powerOfTen (power : Nat) : Float := Float.ofScientific 1 false power

/-- Divides by `10 ^ power`, in steps that a double can hold. -/
def divideByPowerOfTen (x : Float) (power : Nat) : Float :=
  if power ≤ 308 then x / powerOfTen power
  else if x == 0.0 then x
  else divideByPowerOfTen (x / powerOfTen 308) (power - 308)
termination_by power

/-- The double of a significand and a power of ten; none if it is too large. -/
def scaleByPowerOfTen? (significand : Nat) (power : Int) : Option Float :=
  let x := Float.ofNat significand
  if power < 0 then some (divideByPowerOfTen x (-power).toNat)
  else if power ≤ 308 then
    let scaled := x * powerOfTen power.toNat
    if scaled.isInf then none else some scaled
  else if significand = 0 then some x
  else none

/-- A number as it is read: an integer of 64 bits or a double. -/
inductive Numeral where
  /-- A whole number within a 64-bit word. -/
  | integer (value : Int)
  /-- Any other number. -/
  | decimal (value : Float)

/-- The double a literal denotes; none if it is too large. -/
def NumberLiteral.decimal? (literal : NumberLiteral) : Option Float :=
  let (word, droppedBefore) := leadingWord 0 literal.whole
  let (significand, droppedBehind) := leadingWord word literal.fraction
  let dropped : Int := droppedBefore + droppedBehind
  let power := literal.exponent + dropped - (literal.fraction.length : Int)
  (scaleByPowerOfTen? significand power).map fun x => if literal.negative then -x else x

/-- The number a literal denotes; none if it is too large. Zero with a minus sign is a double. -/
def NumberLiteral.value? (literal : NumberLiteral) : Option Numeral :=
  let size := decimalValue literal.whole
  if literal.isWhole && !literal.negative && Word.fitsUnsigned 64 size then some (.integer size)
  else if literal.isWhole && literal.negative && 0 < size && Word.fitsSigned 64 (-size) then
    some (.integer (-size))
  else literal.decimal?.map .decimal

/-- Reads a number. -/
def readNumber (input : List Symbol) : Option (Numeral × List Symbol) :=
  match scanNumber input with
  | none => none
  | some (literal, rest) => literal.value?.map fun value => (value, rest)

end StaffSearch.Json
