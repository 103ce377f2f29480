import StaffSearch.Calendar.Date
import StaffSearch.Decimal.Layout
import StaffSearch.Decimal.Reader
import StaffSearch.Settings.Tree
import StaffSearch.Word

/-!
# The lexical grammar of TOML

A text in TOML is read line by line; here are the parts of a line: blanks and comments, strings of
the four kinds, keys, and the values that are single words. Each reading takes the input and answers
with what it has read and with the rest.
-/

namespace StaffSearch.Toml

open StaffSearch.Text

/-! ## Blanks and comments -/

/-- A space or a tab. -/
def isGap (c : Char) : Bool := c == ' ' || c == '\t'

/-- The input without the spaces and tabs it starts with. -/
def skipBlanks (input : List Char) : List Char := input.dropWhile isGap

/-- A character that may stand in a comment or a string: no control character but the tab. -/
def isPlain (c : Char) : Bool := c == '\t' || (decide (0x20 ≤ c.toNat) && c.toNat != 0x7F)

/-- The input behind a comment, if it starts with one. -/
def skipComment (input : List Char) : List Char :=
  match input with
  | '#' :: rest => rest.dropWhile isPlain
  | _ => input

/-- The input behind a line break. -/
def afterLineBreak? : List Char → Option (List Char)
  | '\n' :: rest => some rest
  | '\r' :: '\n' :: rest => some rest
  | _ => none

/-- The input behind the rest of a line, on which only a comment may stand. -/
def afterLine? (input : List Char) : Option (List Char) :=
  match skipComment (skipBlanks input) with
  | [] => some []
  | rest => afterLineBreak? rest

/-- The input without blanks, comments and line breaks, within `steps` lines. -/
def skipLines : Nat → List Char → List Char
  | 0, input => input
  | steps + 1, input =>
    let rest := skipComment (skipBlanks input)
    match afterLineBreak? rest with
    | some next => skipLines steps next
    | none => rest

/-! ## Strings -/

/-- The character of a code point in hexadecimal, with nothing but digits. -/
def codePoint? (digits : List Char) : Option Char :=
  if digits.all isHexDigit then
    let code := digits.foldl (fun value c => 16 * value + hexValue c) 0
    if code < 0xD800 ∨ (0xDFFF < code ∧ code ≤ 0x10FFFF) then some (Char.ofNat code) else none
  else none

/-- The character of an escape behind its backslash, and the rest. -/
def readEscape : List Char → Option (Char × List Char)
  | 'b' :: rest => some ('\x08', rest)
  | 't' :: rest => some ('\t', rest)
  | 'n' :: rest => some ('\n', rest)
  | 'f' :: rest => some ('\x0c', rest)
  | 'r' :: rest => some ('\r', rest)
  | '"' :: rest => some ('"', rest)
  | '\\' :: rest => some ('\\', rest)
  | 'u' :: a :: b :: c :: d :: rest => (codePoint? [a, b, c, d]).map (·, rest)
  | 'U' :: a :: b :: c :: d :: e :: f :: g :: h :: rest =>
    (codePoint? [a, b, c, d, e, f, g, h]).map (·, rest)
  | _ => none

/-- A string with escapes on one line, behind its opening quote. -/
def readBasic : Nat → List Char → Option (List Char × List Char)
  | 0, _ => none
  | _ + 1, [] => none
  | _ + 1, '"' :: rest => some ([], rest)
  | steps + 1, '\\' :: rest => do
    let (c, rest) ← readEscape rest
    let (content, rest) ← readBasic steps rest
    return (c :: content, rest)
  | steps + 1, c :: rest =>
    if isPlain c then (readBasic steps rest).map fun (content, rest) => (c :: content, rest)
    else none

/-- A string without escapes on one line, behind its opening quote. -/
def readLiteral (input : List Char) : Option (List Char × List Char) :=
  let content := input.takeWhile fun c => c != '\'' && isPlain c
  match input.drop content.length with
  | '\'' :: rest => some (content, rest)
  | _ => none

/-- The input behind the blanks and line breaks that a backslash at the end of a line takes away. -/
def afterLineEnd? (input : List Char) : Option (List Char) :=
  match afterLineBreak? (skipBlanks input) with
  | none => none
  | some rest => some (rest.dropWhile fun c => isGap c || c == '\n' || c == '\r')

/-- The closing quotes of a string over several lines: three quotes, of which up to two more belong
to the string. -/
def readClosing (quote : Char) (input : List Char) : Option (List Char × List Char) :=
  let quotes := (input.takeWhile (· == quote)).length
  if quotes < 3 then none
  else
    let extra := min (quotes - 3) 2
    some (List.replicate extra quote, input.drop (extra + 3))

/-- A string over several lines, behind its opening quotes; escapes count if `escapes` holds. -/
def readLong (quote : Char) (escapes : Bool) : Nat → List Char → Option (List Char × List Char)
  | 0, _ => none
  | _ + 1, [] => none
  | steps + 1, c :: rest =>
    match readClosing quote (c :: rest), afterLineBreak? (c :: rest) with
    | some found, _ => some found
    | none, some next =>
      (readLong quote escapes steps next).map fun (content, rest) => ('\n' :: content, rest)
    | none, none =>
      if c = '\\' ∧ escapes = true then
        match afterLineEnd? rest with
        | some next => readLong quote escapes steps next
        | none => do
          let (c, rest) ← readEscape rest
          let (content, rest) ← readLong quote escapes steps rest
          return (c :: content, rest)
      else if isPlain c then
        (readLong quote escapes steps rest).map fun (content, rest) => (c :: content, rest)
      else none

/-- The input without the line break right behind the opening quotes of a long string. -/
def skipFirstBreak (input : List Char) : List Char := (afterLineBreak? input).getD input

/-- A string of any kind. -/
def readString (input : List Char) : Option (String × List Char) :=
  let found := match input with
    | '"' :: '"' :: '"' :: rest => readLong '"' true (rest.length + 1) (skipFirstBreak rest)
    | '\'' :: '\'' :: '\'' :: rest => readLong '\'' false (rest.length + 1) (skipFirstBreak rest)
    | '"' :: rest => readBasic (rest.length + 1) rest
    | '\'' :: rest => readLiteral rest
    | _ => none
  found.map fun (content, rest) => (String.ofList content, rest)

/-! ## Keys -/

/-- A single key: a bare word, or a string on one line. -/
def readKey (input : List Char) : Option (String × List Char) :=
  match input with
  | '"' :: rest =>
    (readBasic (rest.length + 1) rest).map fun (content, rest) => (String.ofList content, rest)
  | '\'' :: rest => (readLiteral rest).map fun (content, rest) => (String.ofList content, rest)
  | _ =>
    let word := input.takeWhile Tree.isNameCharacter
    if word.isEmpty then none else some (String.ofList word, input.drop word.length)

/-- Keys with points between them: the first, the others, and the rest of the input. -/
def readPath : Nat → List Char → Option (String × List String × List Char)
  | 0, _ => none
  | steps + 1, input => do
    let (key, rest) ← readKey (skipBlanks input)
    match skipBlanks rest with
    | '.' :: rest =>
      let (next, others, rest) ← readPath steps rest
      return (key, next :: others, rest)
    | rest => return (key, [], rest)

/-! ## Single words -/

/-- Digits without the underscores between them; each underscore has a digit on both sides. -/
def digitsBetween? (isDigit : Char → Bool) : List Char → Option (List Char)
  | [] => none
  | [c] => if isDigit c then some [c] else none
  | c :: '_' :: rest => if isDigit c then (digitsBetween? isDigit rest).map (c :: ·) else none
  | c :: rest => if isDigit c then (digitsBetween? isDigit rest).map (c :: ·) else none

/-- Decimal digits without needless zeros in front. -/
def decimalDigits? (text : List Char) : Option (List Char) :=
  (digitsBetween? isAsciiDigit text).filter fun digits =>
    digits.length = 1 ∨ digits.head? ≠ some '0'

/-- The number of digits in a base. -/
def numberInBase (base : Nat) (digits : List Char) : Nat :=
  digits.foldl (fun value c => base * value + hexValue c) 0

/-- The whole number of a word without sign. -/
def unsigned? : List Char → Option Nat
  | '0' :: 'x' :: digits => (digitsBetween? isHexDigit digits).map (numberInBase 16)
  | '0' :: 'o' :: digits =>
    (digitsBetween? (fun c => isAsciiDigit c && c ≤ '7') digits).map (numberInBase 8)
  | '0' :: 'b' :: digits =>
    (digitsBetween? (fun c => c == '0' || c == '1') digits).map (numberInBase 2)
  | digits => (decimalDigits? digits).map (numberInBase 10)

/-- The whole number of a word. -/
def whole? (word : List Char) : Option Int :=
  match word with
  | '-' :: digits => (decimalDigits? digits).map fun digits => -(numberInBase 10 digits : Int)
  | '+' :: digits => (decimalDigits? digits).map fun digits => (numberInBase 10 digits : Int)
  | _ => (unsigned? word).map fun size => (size : Int)

/-- The digits of a number with a point or an exponent, without underscores. -/
def plainDecimal? (word : List Char) : Option (List Char) :=
  let isExponent := fun c => c == 'e' || c == 'E'
  let mantissa := word.takeWhile fun c => !isExponent c
  let exponent := word.drop mantissa.length
  let whole := mantissa.takeWhile (· != '.')
  let fraction := mantissa.drop whole.length
  do
    let whole ← decimalDigits? whole
    let fraction ← match fraction with
      | [] => some []
      | _ :: digits => (digitsBetween? isAsciiDigit digits).map ('.' :: ·)
    let exponent ← match exponent with
      | [] => some []
      | _ :: '-' :: digits => (digitsBetween? isAsciiDigit digits).map fun d => 'e' :: '-' :: d
      | _ :: '+' :: digits => (digitsBetween? isAsciiDigit digits).map ('e' :: ·)
      | _ :: digits => (digitsBetween? isAsciiDigit digits).map ('e' :: ·)
    if fraction.isEmpty && exponent.isEmpty then none else some (whole ++ fraction ++ exponent)

/-- The number of a word with a point or an exponent, or of a word for no finite number. -/
def decimalOf? (word : List Char) : Option Float :=
  let (negative, size) := match word with
    | '-' :: rest => (true, rest)
    | '+' :: rest => (false, rest)
    | _ => (false, word)
  let value :=
    if size == ['i', 'n', 'f'] || size == ['n', 'a', 'n'] then Decimal.readUnsigned? size
    else ((plainDecimal? size).bind Decimal.readDigits?).filter Decimal.isFinite
  value.map fun value => if negative then -value else value

/-! ### Moments -/

/-- The number of exactly two digits, within bounds. -/
def twoDigits? (low high : Nat) (a b : Char) : Option Nat :=
  (digits? [a, b]).filter fun value => low ≤ value ∧ value ≤ high

/-- Whether a word is a date of the calendar. -/
def isDate (word : List Char) : Bool :=
  match word with
  | [a, b, c, d, '-', e, f, '-', g, h] =>
    match digits? [a, b, c, d], digits? [e, f], digits? [g, h] with
    | some year, some month, some day => (Date.ofCivil? year month day).isSome
    | _, _, _ => false
  | _ => false

/-- The written form of a time of day, with the fraction to nine digits and without its last zeros.
-/
def timeText? (word : List Char) : Option (List Char) :=
  match word with
  | a :: b :: ':' :: c :: d :: ':' :: e :: f :: rest =>
    if (twoDigits? 0 23 a b).isSome && (twoDigits? 0 59 c d).isSome &&
        (twoDigits? 0 60 e f).isSome then
      let clock := [a, b, ':', c, d, ':', e, f]
      match rest with
      | [] => some clock
      | '.' :: digits =>
        if digits.isEmpty || !digits.all isAsciiDigit then none
        else
          let fraction := ((digits.take 9).reverse.dropWhile (· == '0')).reverse
          some (if fraction.isEmpty then clock else clock ++ '.' :: fraction)
      | _ => none
    else none
  | _ => none

/-- The written form of a time of day with an offset behind it, or without. -/
def timeAndOffset? (word : List Char) : Option (List Char) :=
  let isSign := fun c => c == 'Z' || c == 'z' || c == '+' || c == '-'
  let time := word.takeWhile fun c => !isSign c
  match timeText? time, word.drop time.length with
  | some time, [] => some time
  | some time, ['Z'] | some time, ['z'] => some (time ++ ['Z'])
  | some time, [sign, a, b, ':', c, d] =>
    if (twoDigits? 0 23 a b).isSome && (twoDigits? 0 59 c d).isSome then
      some (time ++ [sign, a, b, ':', c, d])
    else none
  | _, _ => none

/-- The written form of a date, a time, or both. -/
def momentText? (word : List Char) : Option (List Char) :=
  let date := word.take 10
  if isDate date then
    match word.drop 10 with
    | [] => some date
    | c :: time =>
      if c == 'T' || c == 't' || c == ' ' then
        (timeAndOffset? time).map fun time => date ++ 'T' :: time
      else none
  else timeText? word

/-! ### Words -/

/-- A character of a word. -/
def isWordPart (c : Char) : Bool :=
  isAsciiLetter c || isAsciiDigit c || ['+', '-', '_', '.', ':'].contains c

/-- Cuts a word off the input; a date and the time behind one space are one word. -/
def cutWord (input : List Char) : List Char × List Char :=
  let word := input.takeWhile isWordPart
  match input.drop word.length with
  | ' ' :: c :: rest =>
    if isDate word && isAsciiDigit c then
      let time := (c :: rest).takeWhile isWordPart
      (word ++ ' ' :: time, (c :: rest).drop time.length)
    else (word, ' ' :: c :: rest)
  | rest => (word, rest)

/-- The value of a word. -/
def valueOfWord? (word : List Char) : Option Tree :=
  if word == ['t', 'r', 'u', 'e'] then some (.boolean true)
  else if word == ['f', 'a', 'l', 's', 'e'] then some (.boolean false)
  else
    match whole? word, decimalOf? word, momentText? word with
    | some value, _, _ =>
      if Word.fitsSigned 64 value then some (.integer value) else none
    | none, some value, _ => some (.decimal value)
    | none, none, some text => some (.text (String.ofList text))
    | none, none, none => none

end StaffSearch.Toml
