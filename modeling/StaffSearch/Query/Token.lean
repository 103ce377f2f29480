import StaffSearch.Query.Stem
import StaffSearch.Text.Case
import StaffSearch.Word

/-!
# Tokens

A query is read as a sequence of tokens: maximal runs of letters and numbers, in lowercase, each
with its stem and with the bytes of the query it covers. A comma that separates groups of three
digits inside a numeral belongs to the numeral's bytes but not to its text, so `60,000` is one token
with the text `60000`; every other character ends the token before it.

Positions count the bytes of the text in UTF-8.

## Main results

* `scan_nil`, `scan_cons_alphanumeric` — how the end and one letter or number move the scan.
-/

namespace StaffSearch.Query

open StaffSearch.Text

/-! ## Tokens -/

/-- A word or numeral of a query. -/
structure Token where
  /-- The characters of the token in lowercase, without the commas between digit groups. -/
  text : String
  /-- The stem of the text. -/
  stem : String
  /-- The number of bytes before the token. -/
  start : Nat
  /-- The number of bytes up to the end of the token. -/
  stop : Nat
  deriving DecidableEq, Repr

/-- The token with the given text and place. -/
def Token.of (text : List Char) (start stop : Nat) : Token :=
  { text := String.ofList text, stem := Query.stem (String.ofList text), start, stop }

/-- The same token, `offset` bytes later. -/
def Token.shift (offset : Nat) (token : Token) : Token :=
  { token with start := token.start + offset, stop := token.stop + offset }

/-! ## Cutting a text into tokens -/

/-- Whether a text starts with three digits that no fourth digit follows. -/
def startsDigitGroup : List Char → Bool
  | a :: b :: c :: rest =>
    isAsciiDigit a && isAsciiDigit b && isAsciiDigit c && !rest.head?.any isAsciiDigit
  | _ => false

/-- The part of a token that has been read: where it starts, and its text so far. -/
structure OpenToken where
  /-- The number of bytes before the token. -/
  start : Nat
  /-- The text read so far, in lowercase. -/
  text : List Char

/-- Adds a character to the token that is being read, or starts one at `position`. -/
def OpenToken.push (position : Nat) (c : Char) : Option OpenToken → OpenToken
  | none => { start := position, text := lowerChar c }
  | some token => { token with text := token.text ++ lowerChar c }

/-- The finished token, if one was being read up to `position`. -/
def OpenToken.close (position : Nat) : Option OpenToken → List Token
  | none => []
  | some token => [Token.of token.text token.start position]

/-- Whether a comma with `rest` behind it separates two digit groups of the token being read. -/
def OpenToken.continuesAt (rest : List Char) : Option OpenToken → Bool
  | none => false
  | some token => token.text.all isAsciiDigit && startsDigitGroup rest

/-- Reads tokens from `position` on, `token` being the one under way. -/
def scan (position : Nat) (token : Option OpenToken) : List Char → List Token
  | [] => OpenToken.close position token
  | c :: rest =>
    if isAlphanumeric c then
      scan (position + c.utf8Size) (some (OpenToken.push position c token)) rest
    else if c = ',' ∧ OpenToken.continuesAt rest token = true then
      scan (position + c.utf8Size) token rest
    else OpenToken.close position token ++ scan (position + c.utf8Size) none rest

/-- The tokens of a text. -/
def tokenizeList (text : List Char) : List Token := scan 0 none text

/-- The tokens of a text. -/
def tokenize (text : String) : List Token := tokenizeList text.toList

@[simp] theorem scan_nil (position : Nat) (token : Option OpenToken) :
    scan position token [] = OpenToken.close position token := rfl

theorem scan_cons_alphanumeric {c : Char} (h : isAlphanumeric c = true) (position : Nat)
    (token : Option OpenToken) (rest : List Char) :
    scan position token (c :: rest) =
      scan (position + c.utf8Size) (some (OpenToken.push position c token)) rest := by
  simp [scan, h]

/-! ## Numerals -/

/-- The value of a numeral: digits, or digits and a `k` that stands for thousands. Values that do
not fit into a signed 64-bit word are no numerals. -/
def numeralOf? (text : List Char) : Option Nat :=
  let (digits, unit) := match beforeEnd? ['k'] text with
    | some digits => (digits, 1000)
    | none => (text, 1)
  if digits.isEmpty || !digits.all isAsciiDigit then none
  else if Word.fitsUnsigned 63 (decimalValue digits * unit) then some (decimalValue digits * unit)
  else none

/-- The value of a token that is a numeral. -/
def Token.numeral? (token : Token) : Option Nat := numeralOf? token.text.toList

/-- Whether the token is a numeral. -/
def Token.isNumeral (token : Token) : Bool := token.numeral?.isSome

/-! ## Looking tokens up -/

/-- Whether some token has one of the texts. -/
def containsText (words : List String) (tokens : List Token) : Bool :=
  tokens.any fun token => words.contains token.text

/-- Whether some token has the stem. -/
def containsStem (stem : String) (tokens : List Token) : Bool :=
  tokens.any fun token => token.stem == stem

/-- The stems of the tokens of a phrase. -/
def stems (phrase : String) : List String := (tokenize phrase).map (·.stem)

/-- The number of elements before the first place where `part` stands in a list. -/
def firstPlace? {α : Type} [BEq α] (part : List α) : List α → Option Nat
  | [] => none
  | x :: rest =>
    if part.isPrefixOf (x :: rest) then some 0 else (firstPlace? part rest).map (· + 1)

/-- The first token of the first run of tokens that has the given stems, which must be some. -/
def findStems? (stems : List String) (tokens : List Token) : Option Nat :=
  if stems.isEmpty then none else firstPlace? stems (tokens.map (·.stem))

end StaffSearch.Query
