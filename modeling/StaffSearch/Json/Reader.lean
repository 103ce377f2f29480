import StaffSearch.Json.Lexer
import StaffSearch.Json.Value

/-!
# Reading JSON

Reading is by descent. Every step takes at least one symbol off the input, so the number of symbols
bounds the number of steps; nesting is limited as well.
-/

namespace StaffSearch.Json

/-- Arrays and objects may be nested less deeply than this. -/
def nestingLimit : Nat := 128

/-- The value of a number. -/
def Numeral.toJson : Numeral → Json
  | .integer value => .integer value
  | .decimal value => .decimal value

mutual

/-- Reads a value within `steps` steps, `depth` levels of nesting being left. -/
def readValue (steps depth : Nat) (input : List Symbol) : Option (Json × List Symbol) :=
  match steps with
  | 0 => none
  | steps + 1 =>
    match skipSpace input with
    | some 'n' :: rest => (afterWord? ['u', 'l', 'l'] rest).map (Json.null, ·)
    | some 't' :: rest => (afterWord? ['r', 'u', 'e'] rest).map (Json.boolean true, ·)
    | some 'f' :: rest => (afterWord? ['a', 'l', 's', 'e'] rest).map (Json.boolean false, ·)
    | some '"' :: rest => (readString rest).map fun (content, after) => (Json.text content, after)
    | some '[' :: rest =>
      if depth ≤ 1 then none
      else
        match skipSpace rest with
        | some ']' :: after => some (Json.list [], after)
        | rest =>
          (readItems steps (depth - 1) rest).map fun (items, after) => (Json.list items, after)
    | some '{' :: rest =>
      if depth ≤ 1 then none
      else
        match skipSpace rest with
        | some '}' :: after => some (Json.object [], after)
        | rest =>
          (readMembers steps (depth - 1) rest).map fun (members, after) =>
            (Json.object members, after)
    | input => (readNumber input).map fun (number, after) => (number.toJson, after)

/-- Reads the items of an array up to its closing bracket. -/
def readItems (steps depth : Nat) (input : List Symbol) : Option (List Json × List Symbol) :=
  match steps with
  | 0 => none
  | steps + 1 =>
    match readValue steps depth input with
    | none => none
    | some (item, rest) =>
      match skipSpace rest with
      | some ',' :: rest =>
        (readItems steps depth rest).map fun (items, after) => (item :: items, after)
      | some ']' :: after => some ([item], after)
      | _ => none

/-- Reads the members of an object up to its closing brace. -/
def readMembers (steps depth : Nat) (input : List Symbol) :
    Option (List (String × Json) × List Symbol) :=
  match steps with
  | 0 => none
  | steps + 1 =>
    match skipSpace input with
    | some '"' :: rest =>
      match readString rest with
      | none => none
      | some (name, rest) =>
        match skipSpace rest with
        | some ':' :: rest =>
          match readValue steps depth rest with
          | none => none
          | some (value, rest) =>
            match skipSpace rest with
            | some ',' :: rest =>
              (readMembers steps depth rest).map fun (members, after) =>
                ((name, value) :: members, after)
            | some '}' :: after => some ([(name, value)], after)
            | _ => none
        | _ => none
    | _ => none

end

/-- Reads a text that holds one value and nothing else but blanks. -/
def parse? (input : String) : Option Json :=
  let input := symbols input
  match readValue (2 * input.length + 2) nestingLimit input with
  | some (value, rest) => if (skipSpace rest).isEmpty then some value else none
  | none => none

end StaffSearch.Json
