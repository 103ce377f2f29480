import StaffSearch.Json.Value
import StaffSearch.Text.CharacterClass
import StaffSearch.Word

/-!
# Layers of settings

Settings come from several sources. Each source is a tree of values, and the trees are laid over
each other: a table is laid over a table name by name, and any other value replaces what was there.

A source names its values by paths: names with points between them, and numbers in brackets for
places in a list. A place below zero counts from the end. A name that is no path stands for itself.
-/

namespace StaffSearch

open StaffSearch.Text

/-- A value in a source of settings. -/
inductive Tree where
  /-- No value. -/
  | missing
  /-- A truth value. -/
  | boolean (value : Bool)
  /-- A whole number. -/
  | integer (value : Int)
  /-- Any other number. -/
  | decimal (value : Float)
  /-- A text. -/
  | text (value : String)
  /-- A list. -/
  | list (items : List Tree)
  /-- Named values, of which the first one of a name counts. A table is filled by `Tree.assign`, or
  with a name that no value has yet, so that a name does not come twice. -/
  | table (entries : List (String × Tree))
  deriving Inhabited

namespace Tree

/-! ## Tables -/

/-- The value of a name. -/
def find? (name : String) (entries : List (String × Tree)) : Option Tree := entries.lookup name

/-- The entries with a value for a name, in the place of the old one or else at the end. -/
def assign (name : String) (value : Tree) : List (String × Tree) → List (String × Tree)
  | [] => [(name, value)]
  | (key, old) :: rest =>
    if name = key then (key, value) :: rest else (key, old) :: assign name value rest

/-- The entries of a table; other values have none. -/
def entries : Tree → List (String × Tree)
  | table entries => entries
  | _ => []

/-- The items of a list; other values have none. -/
def items : Tree → List Tree
  | list items => items
  | _ => []

/-! ## Laying one value over another -/

mutual

/-- The value `above` laid over the value `below`. -/
def overlay (below : Tree) : Tree → Tree
  | table above => table (overlayEntries below.entries above)
  | above => above

/-- Entries laid over other entries. -/
def overlayEntries (below : List (String × Tree)) : List (String × Tree) → List (String × Tree)
  | [] => below
  | (name, value) :: rest =>
    overlayEntries (assign name (overlay ((find? name below).getD missing) value) below) rest

end

/-! ## Paths -/

/-- A step from a value to a part of it. -/
inductive Step where
  /-- The value of a name. -/
  | name (name : String)
  /-- The item at a place, from the end if it is below zero. -/
  | place (place : Int)
  deriving DecidableEq, Repr

/-- A character of a name in a path. -/
def isNameCharacter (c : Char) : Bool :=
  isAsciiLetter c || isAsciiDigit c || c == '_' || c == '-'

/-- The place that a text between brackets denotes. -/
def place? (text : List Char) : Option Int :=
  let isGap := fun c => c == ' ' || c == '\t'
  let trimmed := ((text.dropWhile isGap).reverse.dropWhile isGap).reverse
  match trimmed with
  | '-' :: rest => ((digits? rest).map fun size => -(size : Int)).filter (Word.fitsSigned 64)
  | _ => ((digits? trimmed).map fun size => (size : Int)).filter (Word.fitsSigned 64)

/-- The steps of the rest of a path, each of them behind a point or in brackets. -/
def steps? (fuel : Nat) (text : List Char) : Option (List Step) :=
  match fuel, text with
  | _, [] => some []
  | 0, _ => none
  | fuel + 1, '.' :: rest =>
    let name := rest.takeWhile isNameCharacter
    if name.isEmpty then none
    else
      (steps? fuel (rest.dropWhile isNameCharacter)).map (.name (String.ofList name) :: ·)
  | fuel + 1, '[' :: rest =>
    match rest.dropWhile (· != ']') with
    | _ :: behind =>
      match place? (rest.takeWhile (· != ']')), steps? fuel behind with
      | some place, some steps => some (.place place :: steps)
      | _, _ => none
    | [] => none
  | _, _ => none

/-- The steps that a name of a source stands for. -/
def stepsOf (name : String) : List Step :=
  match steps? (name.length + 1) ('.' :: name.toList) with
  | some steps => steps
  | none => [.name name]

/-- The list with an item replaced, or put in front of or behind the others, with missing values in
between, where there is no such place. -/
def replaceAt (place : Int) (replace : Tree → Tree) (items : List Tree) : List Tree :=
  let index := if place < 0 then place + items.length else place
  if index < 0 then
    replace missing :: (List.replicate ((-index).toNat - 1) missing ++ items)
  else
    let items := items ++ List.replicate (index.toNat + 1 - items.length) missing
    items.mapIdx fun i item => if i = index.toNat then replace item else item

/-- The tree with the value behind some steps replaced; what stands in the way gives way. -/
def update (replace : Tree → Tree) : List Step → Tree → Tree
  | [], tree => replace tree
  | .name name :: steps, tree =>
    let old := (find? name tree.entries).getD missing
    table (assign name (update replace steps old) tree.entries)
  | .place place :: steps, tree => list (replaceAt place (update replace steps) tree.items)

/-- Lays a source over a tree. -/
def addSource (tree : Tree) (source : List (String × Tree)) : Tree :=
  source.foldl (fun tree (name, value) =>
    tree.update (fun old => old.overlay value) (stepsOf name)) tree

/-! ## Sources in JSON -/

mutual

/-- The tree of a JSON value. A whole number beyond the signed 64-bit words is no integer here. -/
def ofJson : Json → Tree
  | .null => missing
  | .boolean value => boolean value
  | .integer value =>
    if Word.fitsSigned 64 value then integer value else decimal (Float.ofInt value)
  | .decimal value => decimal value
  | .text value => text value
  | .list values => list (ofItems values)
  | .object members => table (ofMembers [] members)

/-- The trees of the items of an array. -/
def ofItems : List Json → List Tree
  | [] => []
  | item :: rest => ofJson item :: ofItems rest

/-- Entries with the members of an object; the last value of a name counts. -/
def ofMembers (entries : List (String × Tree)) : List (String × Json) → List (String × Tree)
  | [] => entries
  | (name, value) :: rest => ofMembers (assign name (ofJson value) entries) rest

end

end Tree

end StaffSearch
