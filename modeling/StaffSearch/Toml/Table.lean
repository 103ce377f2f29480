import StaffSearch.Settings.Tree

/-!
# Tables under construction

A text in TOML fills tables in three ways: a header opens one, a key with points in it makes one on
the way, and a value in braces is one. Each may be extended in its own way only, so a table under
construction remembers how it came about. Values are closed: nothing is ever added to them.
-/

namespace StaffSearch.Toml

/-- How a table came about. -/
inductive Origin where
  /-- On the way to the table of a header. -/
  | implied
  /-- By a header of its own. -/
  | header
  /-- By a key with points in it. -/
  | dotted
  deriving DecidableEq, Repr

/-- A value under construction. -/
inductive Node where
  /-- A closed value. -/
  | value (tree : Tree)
  /-- A table. -/
  | table (origin : Origin) (entries : List (String × Node))
  /-- A list of tables that headers have opened. -/
  | tables (items : List (List (String × Node)))
  deriving Inhabited

/-- Named values under construction. -/
abbrev Nodes := List (String × Node)

/-- The nodes with another node for a name that is there. -/
def replaceNode (name : String) (node : Node) (nodes : Nodes) : Nodes :=
  nodes.map fun entry => if entry.1 = name then (name, node) else entry

/-- Adds a value under the last of some keys. The tables on the way must not have a header of their
own; the one that gets the value must have come about by keys like these. -/
def addValue (node : Node) (key : String) : List String → Nodes → Option Nodes
  | [], nodes =>
    match nodes.lookup key with
    | none => some (nodes ++ [(key, node)])
    | some _ => none
  | next :: rest, nodes =>
    match nodes.lookup key with
    | none => do
      let inner ← addValue node next rest []
      return nodes ++ [(key, .table .dotted inner)]
    | some (.table origin inner) =>
      if origin = .header ∨ (rest.isEmpty = true ∧ origin ≠ .dotted) then none
      else do
        let inner ← addValue node next rest inner
        return replaceNode key (.table origin inner) nodes
    | some (.tables items) =>
      match rest.isEmpty, items.getLast? with
      | false, some last => do
        let inner ← addValue node next rest last
        return replaceNode key (.tables (items.dropLast ++ [inner])) nodes
      | _, _ => none
    | some (.value _) => none

/-- Changes the nodes of the table at the end of a path of headers, making the tables on the way. -/
def changeAt (change : Nodes → Option Nodes) : List String → Nodes → Option Nodes
  | [], nodes => change nodes
  | key :: rest, nodes =>
    match nodes.lookup key with
    | none => do
      let inner ← changeAt change rest []
      return nodes ++ [(key, .table .implied inner)]
    | some (.table origin inner) => do
      let inner ← changeAt change rest inner
      return replaceNode key (.table origin inner) nodes
    | some (.tables items) =>
      match items.getLast? with
      | some last => do
        let inner ← changeAt change rest last
        return replaceNode key (.tables (items.dropLast ++ [inner])) nodes
      | none => none
    | some (.value _) => none

/-- Opens the table of a header; a table can be opened once. -/
def openTable (key : String) (nodes : Nodes) : Option Nodes :=
  match nodes.lookup key with
  | none => some (nodes ++ [(key, .table .header [])])
  | some (.table .implied inner) => some (replaceNode key (.table .header inner) nodes)
  | some _ => none

/-- Opens the next table of a list of tables. -/
def openNext (key : String) (nodes : Nodes) : Option Nodes :=
  match nodes.lookup key with
  | none => some (nodes ++ [(key, .tables [[]])])
  | some (.tables items) => some (replaceNode key (.tables (items ++ [[]])) nodes)
  | some _ => none

mutual

/-- The finished value of a node. -/
def Node.toTree : Node → Tree
  | .value tree => tree
  | .table _ entries => .table (treesOf entries)
  | .tables items => .list (tablesOf items)

/-- The finished values of named nodes. -/
def treesOf : List (String × Node) → List (String × Tree)
  | [] => []
  | (name, node) :: rest => (name, node.toTree) :: treesOf rest

/-- The finished tables of a list of tables. -/
def tablesOf : List (List (String × Node)) → List Tree
  | [] => []
  | entries :: rest => .table (treesOf entries) :: tablesOf rest

end

end StaffSearch.Toml
