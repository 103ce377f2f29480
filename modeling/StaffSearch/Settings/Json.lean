import StaffSearch.Json.Value
import StaffSearch.Schema
import StaffSearch.Settings.Basic
import StaffSearch.Word

/-!
# Settings as JSON

Settings are written as an object with an object for each section. Reading is strict about kinds: a
number is no text and a text no number. Every member may be missing, unknown ones do not count, and
a section may also be an array with its values in order.
-/

namespace StaffSearch

/-! ## Words for choices -/

/-- The name of a kind of store. -/
def Backend.label : Backend → String
  | mongodb => "mongodb"
  | memory => "memory"

/-- Every kind of store. -/
def Backend.all : List Backend := [mongodb, memory]

/-- The kind of store with this name. -/
def Backend.ofLabel? (text : String) : Option Backend :=
  all.find? fun backend => backend.label == text

/-- The name of a form. -/
def LogFormat.label : LogFormat → String
  | pretty => "pretty"
  | json => "json"

/-- The form with this name. -/
def LogFormat.ofLabel? (text : String) : Option LogFormat :=
  [pretty, json].find? fun format => format.label == text

/-- The name of a rhythm. -/
def Rotation.label : Rotation → String
  | daily => "daily"
  | hourly => "hourly"
  | never => "never"

/-- The rhythm with this name. -/
def Rotation.ofLabel? (text : String) : Option Rotation :=
  [daily, hourly, never].find? fun rotation => rotation.label == text

namespace Settings

/-! ## Writing -/

/-- The written form of the log settings. -/
def logToJson (logging : LogSettings) : Json :=
  .object [
    ("level", .text logging.level),
    ("format", .text logging.format.label),
    ("file_dir", match logging.directory with
      | some directory => .text directory
      | none => .null),
    ("rotation", .text logging.rotation.label)]

/-- The written form of the server settings. -/
def serverToJson (server : ServerSettings) : Json :=
  .object [
    ("bind_addr", .text server.bindAddress),
    ("cors_enabled", .boolean server.allowsAnyOrigin)]

/-- The written form of the store settings. -/
def storeToJson (store : StoreSettings) : Json :=
  .object [
    ("backend", .text store.backend.label),
    ("uri", .text store.uri),
    ("database", .text store.database),
    ("collection", .text store.collection),
    ("seed_when_empty", .boolean store.seedsWhenEmpty),
    ("seed_count", .integer store.seedCount.toNat)]

/-- The written form of the search settings. -/
def searchToJson (search : SearchSettings) : Json :=
  .object [
    ("numeral_window", .integer search.window.toNat),
    ("blocked_terms", .list (search.blockedTerms.map .text)),
    ("extra_terms", .object (search.extraTerms.map fun entry =>
      (entry.1, .list (entry.2.map .text))))]

/-- The written form of the settings. -/
def toJson (settings : Settings) : Json :=
  .object [
    ("server", serverToJson settings.server),
    ("store", storeToJson settings.store),
    ("search", searchToJson settings.search),
    ("logging", logToJson settings.logging)]

/-! ## Reading -/

/-- Reads a structure from an object, or from an array of values in order. -/
def structureOfJson? {α : Type} (schema : Schema Json α) (default : α) : Json → Option α
  | .object members => schema.readNamed? (Json.member? · (.object members)) default
  | .list values => schema.readListed? values default
  | _ => none

/-- The truth value of a JSON value. -/
def boolean? : Json → Option Bool
  | .boolean value => some value
  | _ => none

/-- The unsigned 64-bit number of a JSON value. -/
def word? : Json → Option UInt64
  | .integer value =>
    if 0 ≤ value && Word.fitsUnsigned 64 value.toNat then some (UInt64.ofNat value.toNat) else none
  | _ => none

/-- The choice of a JSON value: its name, or an object with that name and nothing else. -/
def choice? {α : Type} (ofLabel? : String → Option α) : Json → Option α
  | .text label => ofLabel? label
  | .object [(label, .null)] => ofLabel? label
  | _ => none

/-- A text, or nothing. -/
def optionalText? : Json → Option (Option String)
  | .null => some none
  | .text value => some (some value)
  | _ => none

/-- Lists of terms by name; the last list of a name counts. -/
def termLists? : Json → Option (List (String × List String))
  | .object members =>
    members.foldlM (fun lists (name, value) =>
      value.texts?.map fun terms =>
        lists.filter (fun entry => entry.1 != name) ++ [(name, terms)]) []
  | _ => none

/-- The members of the log settings. -/
def logSchema : Schema Json LogSettings := [
  ("level", fun logging value => value.text?.map fun level => { logging with level }),
  ("format", fun logging value =>
    (choice? LogFormat.ofLabel? value).map fun format => { logging with format }),
  ("file_dir", fun logging value =>
    (optionalText? value).map fun directory => { logging with directory }),
  ("rotation", fun logging value =>
    (choice? Rotation.ofLabel? value).map fun rotation => { logging with rotation })]

/-- The members of the server settings. -/
def serverSchema : Schema Json ServerSettings := [
  ("bind_addr", fun server value =>
    value.text?.map fun bindAddress => { server with bindAddress }),
  ("cors_enabled", fun server value =>
    (boolean? value).map fun allowsAnyOrigin => { server with allowsAnyOrigin })]

/-- The members of the store settings. -/
def storeSchema : Schema Json StoreSettings := [
  ("backend", fun store value =>
    (choice? Backend.ofLabel? value).map fun backend => { store with backend }),
  ("uri", fun store value => value.text?.map fun uri => { store with uri }),
  ("database", fun store value => value.text?.map fun database => { store with database }),
  ("collection", fun store value => value.text?.map fun collection => { store with collection }),
  ("seed_when_empty", fun store value =>
    (boolean? value).map fun seedsWhenEmpty => { store with seedsWhenEmpty }),
  ("seed_count", fun store value => (word? value).map fun seedCount => { store with seedCount })]

/-- The members of the search settings. -/
def searchSchema : Schema Json SearchSettings := [
  ("numeral_window", fun search value => (word? value).map fun window => { search with window }),
  ("blocked_terms", fun search value =>
    value.texts?.map fun blockedTerms => { search with blockedTerms }),
  ("extra_terms", fun search value =>
    (termLists? value).map fun extraTerms => { search with extraTerms })]

/-- The log settings that a JSON value denotes. -/
def logOfJson? : Json → Option LogSettings := structureOfJson? logSchema {}

/-- The sections of the settings. -/
def schema : Schema Json Settings := [
  ("server", fun settings value =>
    (structureOfJson? serverSchema {} value).map fun server => { settings with server }),
  ("store", fun settings value =>
    (structureOfJson? storeSchema {} value).map fun store => { settings with store }),
  ("search", fun settings value =>
    (structureOfJson? searchSchema {} value).map fun search => { settings with search }),
  ("logging", fun settings value =>
    (logOfJson? value).map fun logging => { settings with logging })]

/-- The settings that a JSON value denotes. -/
def ofJson? : Json → Option Settings := structureOfJson? schema {}

end Settings

end StaffSearch
