import StaffSearch.Text.Case
import StaffSearch.Text.CharacterClass
import StaffSearch.Text.Split

/-!
# Media types

The type of a body is given as a kind and a form with a slash between them and parameters behind
semicolons. A form may name a more general form behind a plus sign. All names are words of token
characters; the value of a parameter may also stand in quotes.

## Main results

* `isJson_plain` — the plain type of JSON is one.
-/

namespace StaffSearch.Http

open StaffSearch.Text

/-- A character of a name. -/
def isTokenCharacter (c : Char) : Bool :=
  isAsciiLetter c || isAsciiDigit c ||
    ['!', '#', '$', '%', '&', '\'', '*', '+', '-', '.', '^', '_', '\x60', '|', '~'].contains c

/-- A printable ASCII character. -/
def isPrintable (c : Char) : Bool := decide (0x20 ≤ c.toNat) && decide (c.toNat ≤ 0x7E)

/-! ## Parameters -/

/-- Where in a list of parameters a character stands. -/
inductive ParameterPlace where
  /-- Before a name. -/
  | start
  /-- In a name. -/
  | name
  /-- Behind the sign between name and value. -/
  | valueStart
  /-- In a value. -/
  | value
  /-- Behind an opening quote. -/
  | quoteStart
  /-- In quotes. -/
  | quoted
  /-- Behind a closing quote. -/
  | behindQuote
  deriving DecidableEq, Repr

/-- The place behind a character. The first character in quotes is never taken for the closing
quote. -/
def ParameterPlace.next? (place : ParameterPlace) (c : Char) : Option ParameterPlace :=
  match place with
  | start => if c = ' ' then some start else if isTokenCharacter c then some name else none
  | name => if c = '=' then some valueStart else if isTokenCharacter c then some name else none
  | valueStart =>
    if c = '"' then some quoteStart else if isTokenCharacter c then some value else none
  | value => if c = ';' then some start else if isTokenCharacter c then some value else none
  | quoteStart => if isPrintable c then some quoted else none
  | quoted => if c = '"' then some behindQuote else if isPrintable c then some quoted else none
  | behindQuote => if c = ';' then some start else if c = ' ' then some behindQuote else none

/-- Whether a list of parameters may end at a place. -/
def ParameterPlace.mayEnd : ParameterPlace → Bool
  | start | valueStart | value | behindQuote => true
  | name | quoteStart | quoted => false

/-- Whether a text is a list of parameters, from a place on. -/
def areParameters (place : ParameterPlace) : List Char → Bool
  | [] => place.mayEnd
  | c :: rest =>
    match place.next? c with
    | some place => areParameters place rest
    | none => false

/-! ## Types -/

/-- A media type without its parameters, in lowercase. -/
structure MediaType where
  /-- The kind. -/
  kind : String
  /-- The form, up to its last plus sign. -/
  form : String
  /-- The more general form behind the plus sign. -/
  general : Option String
  deriving DecidableEq, Repr

/-- The media type of a kind and a form with its plus signs; one at the start of the form does not
count. -/
def MediaType.of (kind form : List Char) : MediaType :=
  let name := fun text => lowercaseAscii (String.ofList text)
  match cutAtLast? '+' form with
  | none | some ([], _) => { kind := name kind, form := name form, general := none }
  | some (special, general) =>
    { kind := name kind, form := name special, general := some (name general) }

/-- The media type that a text denotes. -/
def MediaType.parse? (text : List Char) : Option MediaType :=
  let kind := text.takeWhile isTokenCharacter
  match text.drop kind.length with
  | '/' :: rest =>
    let form := rest.takeWhile isTokenCharacter
    match rest.drop form.length with
    | [] => if kind.isEmpty then none else some (MediaType.of kind form)
    | ';' :: parameters =>
      if kind.isEmpty || form.isEmpty || !areParameters .start parameters then none
      else some (MediaType.of kind form)
    | _ => none
  | _ => none

/-- Whether a text is the type of bodies in JSON. -/
def isJson (text : String) : Bool :=
  match MediaType.parse? text.toList with
  | some type => type.kind == "application" && (type.form == "json" || type.general == some "json")
  | none => false

theorem isJson_plain : isJson "application/json" = true := by decide +kernel

end StaffSearch.Http
