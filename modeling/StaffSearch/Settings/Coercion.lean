import StaffSearch.Decimal.Layout
import StaffSearch.Settings.Json
import StaffSearch.Settings.Tree
import StaffSearch.Text.Case
import StaffSearch.Word

/-!
# Settings from layered values

Sources like the environment know texts only, so the reading of layered values turns one kind into
another: a number stands for its text, some words stand for truth values, a number other than zero
is true, and a number with a fraction is rounded to a whole one. Missing values, lists and tables
stand for nothing but themselves.
-/

namespace StaffSearch.Tree

open StaffSearch.Text

/-- The text of a value. -/
def textOf? : Tree → Option String
  | text value => some value
  | boolean value => some (if value then "true" else "false")
  | integer value => some (toString value)
  | decimal value => some (Decimal.Layout.setting.render value)
  | missing | list _ | table _ => none

/-- The words for true and false. -/
def truthOfWord? (word : String) : Option Bool :=
  if ["true", "on", "yes"].contains word then some true
  else if ["false", "off", "no"].contains word then some false
  else none

/-- The truth value of a value. -/
def booleanOf? : Tree → Option Bool
  | boolean value => some value
  | integer value => some (value != 0)
  | decimal value => some (value != 0.0)
  | text value =>
    let word := lowercase value
    if word == "1" then some true
    else if word == "0" then some false
    else truthOfWord? word
  | missing | list _ | table _ => none

/-- The whole number nearest to a double, halves going away from zero, within 64 bits without sign.
-/
def roundToWord (value : Float) : UInt64 := value.round.toUInt64

/-- The unsigned 64-bit number of a value. -/
def wordOf? : Tree → Option UInt64
  | integer value =>
    if 0 ≤ value && Word.fitsUnsigned 64 value.toNat then some (UInt64.ofNat value.toNat) else none
  | boolean value => some (if value then 1 else 0)
  | decimal value => some (roundToWord value)
  | text value =>
    match truthOfWord? (lowercase value) with
    | some truth => some (if truth then 1 else 0)
    | none => ((natural? value.toList).filter (Word.fitsUnsigned 64)).map UInt64.ofNat
  | missing | list _ | table _ => none

/-- A text, or nothing for a missing value. -/
def optionalTextOf? : Tree → Option (Option String)
  | missing => some none
  | value => (textOf? value).map some

/-- The texts of a list. -/
def textsOf? : Tree → Option (List String)
  | list items => items.mapM textOf?
  | _ => none

/-- Lists of texts by name. -/
def termListsOf? : Tree → Option (List (String × List String))
  | table entries =>
    entries.mapM fun (name, value) => (textsOf? value).map fun terms => (name, terms)
  | _ => none

/-- The choice that a value names, by a text or as the only name of a table. -/
def choiceOf? {α : Type} (ofLabel? : String → Option α) : Tree → Option α
  | text label => ofLabel? label
  | table [(label, _)] => ofLabel? label
  | _ => none

/-- Reads a structure from a table, or from a list, of which surplus values do not count. -/
def structureOf? {α : Type} (schema : Schema Tree α) (default : α) : Tree → Option α
  | table entries => schema.readNamed? (find? · entries) default
  | list values => schema.readListed? (values.take schema.length) default
  | _ => none

/-! ## Sections -/

/-- The members of the log settings. -/
def logSchema : Schema Tree LogSettings := [
  ("level", fun logging value => (textOf? value).map fun level => { logging with level }),
  ("format", fun logging value =>
    (choiceOf? LogFormat.ofLabel? value).map fun format => { logging with format }),
  ("file_dir", fun logging value =>
    (optionalTextOf? value).map fun directory => { logging with directory }),
  ("rotation", fun logging value =>
    (choiceOf? Rotation.ofLabel? value).map fun rotation => { logging with rotation })]

/-- The members of the server settings. -/
def serverSchema : Schema Tree ServerSettings := [
  ("bind_addr", fun server value =>
    (textOf? value).map fun bindAddress => { server with bindAddress }),
  ("cors_enabled", fun server value =>
    (booleanOf? value).map fun allowsAnyOrigin => { server with allowsAnyOrigin })]

/-- The members of the store settings. -/
def storeSchema : Schema Tree StoreSettings := [
  ("backend", fun store value =>
    (choiceOf? Backend.ofLabel? value).map fun backend => { store with backend }),
  ("uri", fun store value => (textOf? value).map fun uri => { store with uri }),
  ("database", fun store value => (textOf? value).map fun database => { store with database }),
  ("collection", fun store value =>
    (textOf? value).map fun collection => { store with collection }),
  ("seed_when_empty", fun store value =>
    (booleanOf? value).map fun seedsWhenEmpty => { store with seedsWhenEmpty }),
  ("seed_count", fun store value => (wordOf? value).map fun seedCount => { store with seedCount })]

/-- The members of the search settings. -/
def searchSchema : Schema Tree SearchSettings := [
  ("numeral_window", fun search value => (wordOf? value).map fun window => { search with window }),
  ("blocked_terms", fun search value =>
    (textsOf? value).map fun blockedTerms => { search with blockedTerms }),
  ("extra_terms", fun search value =>
    (termListsOf? value).map fun extraTerms => { search with extraTerms })]

/-- The sections of the settings. -/
def settingsSchema : Schema Tree Settings := [
  ("server", fun settings value =>
    (structureOf? serverSchema {} value).map fun server => { settings with server }),
  ("store", fun settings value =>
    (structureOf? storeSchema {} value).map fun store => { settings with store }),
  ("search", fun settings value =>
    (structureOf? searchSchema {} value).map fun search => { settings with search }),
  ("logging", fun settings value =>
    (structureOf? logSchema {} value).map fun logging => { settings with logging })]

/-- The settings that a tree stands for. -/
def settings? (tree : Tree) : Option Settings := structureOf? settingsSchema {} tree

/-- The tree of the default settings, below all others. -/
def ofDefaults : Tree := ofJson (Settings.toJson {})

end StaffSearch.Tree
