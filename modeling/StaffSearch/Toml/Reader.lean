import StaffSearch.Toml.Lexer
import StaffSearch.Toml.Table

/-!
# Reading TOML

A text in TOML is a table of values. A line holds a key with its value, or a header that says to
which table the keys below it belong; between two brackets on each side, a header opens the next
table of a list.
-/

namespace StaffSearch.Toml

/-! ## Values -/

mutual

/-- Reads a value within `steps` steps. -/
def readValue (steps : Nat) (input : List Char) : Option (Tree × List Char) :=
  match steps with
  | 0 => none
  | steps + 1 =>
    match input with
    | '"' :: _ | '\'' :: _ => (readString input).map fun (text, rest) => (.text text, rest)
    | '[' :: rest =>
      (readItems steps (skipLines rest.length rest)).map fun (items, rest) => (.list items, rest)
    | '{' :: rest =>
      match skipBlanks rest with
      | '}' :: rest => some (.table [], rest)
      | rest => (readPairs steps [] rest).map fun (nodes, rest) => (.table (treesOf nodes), rest)
    | _ =>
      let (word, rest) := cutWord input
      (valueOfWord? word).map fun value => (value, rest)

/-- Reads the items of a list up to its closing bracket; a comma may stand behind the last one. -/
def readItems (steps : Nat) (input : List Char) : Option (List Tree × List Char) :=
  match steps with
  | 0 => none
  | steps + 1 =>
    match input with
    | ']' :: rest => some ([], rest)
    | _ => do
      let (item, rest) ← readValue steps input
      match skipLines rest.length rest with
      | ',' :: rest =>
        let (items, rest) ← readItems steps (skipLines rest.length rest)
        return (item :: items, rest)
      | ']' :: rest => return ([item], rest)
      | _ => none

/-- Reads the keys and values of a table in braces up to its closing brace. -/
def readPairs (steps : Nat) (nodes : Nodes) (input : List Char) : Option (Nodes × List Char) :=
  match steps with
  | 0 => none
  | steps + 1 => do
    let (key, others, rest) ← readPath (input.length + 1) input
    match skipBlanks rest with
    | '=' :: rest =>
      let (value, rest) ← readValue steps (skipBlanks rest)
      let nodes ← addValue (.value value) key others nodes
      match skipBlanks rest with
      | ',' :: rest => readPairs steps nodes rest
      | '}' :: rest => return (nodes, rest)
      | _ => none
    | _ => none

end

/-! ## Lines -/

/-- What has been read: the nodes of the whole text and the path of the last header. -/
structure Progress where
  /-- The nodes of the text. -/
  nodes : Nodes := []
  /-- The keys that lead to the table of the last header. -/
  path : List String := []

/-- Reads a header behind its brackets: opens its table, and moves there. -/
def readHeader (opensNext : Bool) (progress : Progress) (input : List Char) :
    Option (Progress × List Char) := do
  let (key, others, rest) ← readPath (input.length + 1) input
  let path := key :: others
  let openLast := fun nodes =>
    match path.getLast? with
    | some last => if opensNext then openNext last nodes else openTable last nodes
    | none => none
  let nodes ← changeAt openLast path.dropLast progress.nodes
  match skipBlanks rest, opensNext with
  | ']' :: ']' :: rest, true => return ({ nodes, path }, rest)
  | ']' :: rest, false => return ({ nodes, path }, rest)
  | _, _ => none

/-- Reads a key with its value into the table of the last header. -/
def readPair (progress : Progress) (input : List Char) : Option (Progress × List Char) := do
  let (key, others, rest) ← readPath (input.length + 1) input
  match skipBlanks rest with
  | '=' :: rest =>
    let (value, rest) ← readValue (2 * rest.length + 2) (skipBlanks rest)
    let nodes ← changeAt (addValue (.value value) key others) progress.path progress.nodes
    return ({ progress with nodes }, rest)
  | _ => none

/-- Reads lines to the end of the input, within `steps` lines. -/
def readLines : Nat → Progress → List Char → Option Progress
  | 0, _, _ => none
  | steps + 1, progress, input =>
    match skipLines input.length input with
    | [] => some progress
    | input =>
      let found := match input with
        | '[' :: '[' :: rest => readHeader true progress rest
        | '[' :: rest => readHeader false progress rest
        | _ => readPair progress input
      match found with
      | none => none
      | some (progress, rest) =>
        match afterLine? rest with
        | none => none
        | some rest => readLines steps progress rest

/-- The table that a text denotes. -/
def parse? (text : String) : Option (List (String × Tree)) :=
  let input := match text.toList with
    | '\uFEFF' :: rest => rest
    | input => input
  (readLines (input.length + 1) {} input).map fun progress => treesOf progress.nodes

end StaffSearch.Toml
