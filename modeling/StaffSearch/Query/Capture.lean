import StaffSearch.Text.Case
import StaffSearch.Text.CharacterClass

/-!
# Words behind a trigger

A city has no vocabulary; it is the word that follows the word "city". In general, a *site* of a
trigger is a place where the trigger stands as a word of its own, in any letter case, and is
followed in one of three ways by a word:

* (A) a colon or an equals sign, blanks being allowed before and after it,
* (B) blanks, one of the words "of" and "is", and blanks,
* (C) blanks.

The leftmost site counts, and there the first of the three that applies. What is captured is the
longest run of word characters, as spelled in the text, unless it is a function word.
-/

namespace StaffSearch.Query

open StaffSearch.Text

/-! ## Pieces of a site -/

/-- Whether there is a character and it is part of a word. -/
def isWordAt (c : Option Char) : Bool := c.any isWordCharacter

/-- Whether a word begins or ends between two neighbouring characters. -/
def isBoundary (before after : Option Char) : Bool := isWordAt before != isWordAt after

/-- What follows the trigger, and the last character before that, if the text starts with the
trigger in any letter case. -/
def afterTrigger? (before : Option Char) : List Char → List Char → Option (Option Char × List Char)
  | [], text => some (before, text)
  | _ :: _, [] => none
  | t :: trigger, c :: text => if sameLetter t c then afterTrigger? (some c) trigger text else none

/-- The word that a text starts with. -/
def leadingWord? (text : List Char) : Option (List Char) :=
  match text.takeWhile isWordCharacter with
  | [] => none
  | word => some word

/-- What follows the blanks a text starts with, of which there must be one. -/
def afterBlanks? : List Char → Option (List Char)
  | [] => none
  | c :: rest => if isBlank c then some (trimStart rest) else none

/-- What follows a link word. -/
def afterLink? : List Char → Option (List Char)
  | a :: b :: rest =>
    if sameLetter 'o' a && sameLetter 'f' b then some rest
    else if sameLetter 'i' a && sameLetter 's' b then some rest
    else none
  | _ => none

/-! ## The three ways to a word -/

/-- The word behind a colon or an equals sign. -/
def wordAfterSign? (text : List Char) : Option (List Char) :=
  match trimStart text with
  | c :: rest => if c = ':' ∨ c = '=' then leadingWord? (trimStart rest) else none
  | [] => none

/-- The word behind a link word. -/
def wordAfterLink? (text : List Char) : Option (List Char) :=
  ((afterBlanks? text).bind afterLink?).bind fun rest => (afterBlanks? rest).bind leadingWord?

/-- The word behind blanks. -/
def wordAfterBlanks? (text : List Char) : Option (List Char) :=
  (afterBlanks? text).bind leadingWord?

/-- The word that follows a trigger. -/
def followingWord? (text : List Char) : Option (List Char) :=
  ((wordAfterSign? text).or (wordAfterLink? text)).or (wordAfterBlanks? text)

/-! ## Sites -/

/-- The word at a site, if `text`, with `before` in front of it, is one. -/
def wordAtSite? (trigger : List Char) (before : Option Char) (text : List Char) :
    Option (List Char) :=
  if isBoundary before text.head? then
    match afterTrigger? before trigger text with
    | some (last, rest) => if isBoundary last rest.head? then followingWord? rest else none
    | none => none
  else none

/-- The word at the leftmost site. -/
def firstWord? (trigger : List Char) (before : Option Char) (text : List Char) :
    Option (List Char) :=
  match wordAtSite? trigger before text, text with
  | some word, _ => some word
  | none, [] => none
  | none, c :: rest => firstWord? trigger (some c) rest

/-- Words that are never captured. -/
def functionWords : List String :=
  ["a", "an", "the", "and", "or", "with", "in", "of", "for", "who", "that", "is", "are"]

/-- The word that a trigger captures in a text. -/
def capture? (trigger text : String) : Option String :=
  match firstWord? trigger.toList none text.toList with
  | none => none
  | some word =>
    if functionWords.contains (lowercase (String.ofList word)) then none
    else some (String.ofList word)

end StaffSearch.Query
