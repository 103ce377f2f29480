import StaffSearch.Json.Lexer

/-!
# The body of a search

The body of a search is an object in JSON with a member `query`, a text or nothing; an array with
one such value will do as well. The member may be missing, other members do not count.

The body is read from its start to its end, and the first fault decides: what is no JSON, or what is
JSON but not what is asked for. Values that do not count are skipped, and skipping is lenient: the
size of a number, the nesting of values and the meaning of escapes play no role there.
-/

namespace StaffSearch.Http

open StaffSearch.Json

/-- What can be wrong with a body. -/
inductive BodyFault where
  /-- It is no JSON. -/
  | malformed
  /-- It is not what is asked for. -/
  | unexpected
  deriving DecidableEq, Repr

/-- How the description of a fault begins. -/
def BodyFault.describe : BodyFault → String
  | malformed => "Failed to parse the request body as JSON"
  | unexpected => "Failed to deserialize the JSON body into the target type"

/-- How the description of the fault in a body goes on: where it is, and what was expected there.
The words are those of the reader of JSON, and nothing but the description depends on them. -/
abbrev FaultDetail := List UInt8 → String

/-- Nothing is said about the fault. -/
def FaultDetail.none : FaultDetail := fun _ => ""

/-! ## Skipping -/

mutual

/-- Skips a value within `steps` steps. -/
def skipValue (steps : Nat) (input : List Symbol) : Option (List Symbol) :=
  match steps with
  | 0 => none
  | steps + 1 =>
    match skipSpace input with
    | some 'n' :: rest => afterWord? ['u', 'l', 'l'] rest
    | some 't' :: rest => afterWord? ['r', 'u', 'e'] rest
    | some 'f' :: rest => afterWord? ['a', 'l', 's', 'e'] rest
    | some '"' :: rest => skipString rest
    | some '[' :: rest =>
      match skipSpace rest with
      | some ']' :: after => some after
      | rest => skipItems steps rest
    | some '{' :: rest =>
      match skipSpace rest with
      | some '}' :: after => some after
      | rest => skipMembers steps rest
    | input => (scanNumber input).map fun (_, after) => after

/-- Skips the items of an array up to its closing bracket. -/
def skipItems (steps : Nat) (input : List Symbol) : Option (List Symbol) :=
  match steps with
  | 0 => none
  | steps + 1 =>
    match skipValue steps input with
    | none => none
    | some rest =>
      match skipSpace rest with
      | some ',' :: rest => skipItems steps rest
      | some ']' :: after => some after
      | _ => none

/-- Skips the members of an object up to its closing brace. -/
def skipMembers (steps : Nat) (input : List Symbol) : Option (List Symbol) :=
  match steps with
  | 0 => none
  | steps + 1 =>
    match skipSpace input with
    | some '"' :: rest =>
      match (skipString rest).map skipSpace with
      | some (some ':' :: rest) =>
        match skipValue steps rest with
        | none => none
        | some rest =>
          match skipSpace rest with
          | some ',' :: rest => skipMembers steps rest
          | some '}' :: after => some after
          | _ => none
      | _ => none
    | _ => none

end

/-! ## Reading -/

/-- A fault, or what has been read. -/
abbrev Reading := Except BodyFault

/-- What has been read, or else the body is no JSON. -/
def wellFormed {α : Type} : Option α → Reading α
  | some found => .ok found
  | none => .error .malformed

/-- The fault of a value that is not what is asked for: a single value must at least be JSON. -/
def faultOf (input : List Symbol) : BodyFault :=
  let faultUnless := fun (isWellFormed : Bool) =>
    if isWellFormed then BodyFault.unexpected else BodyFault.malformed
  match skipSpace input with
  | some 'n' :: rest => faultUnless (afterWord? ['u', 'l', 'l'] rest).isSome
  | some 't' :: rest => faultUnless (afterWord? ['r', 'u', 'e'] rest).isSome
  | some 'f' :: rest => faultUnless (afterWord? ['a', 'l', 's', 'e'] rest).isSome
  | some '"' :: rest => faultUnless (readString rest).isSome
  | some '[' :: _ | some '{' :: _ => .unexpected
  | input => faultUnless (readNumber input).isSome

/-- Reads a text or nothing. -/
def readQuery (input : List Symbol) : Reading (Option String × List Symbol) :=
  match skipSpace input with
  | some 'n' :: rest => wellFormed ((afterWord? ['u', 'l', 'l'] rest).map (none, ·))
  | some '"' :: rest =>
    wellFormed ((readString rest).map fun (content, rest) => (some content, rest))
  | input => .error (faultOf input)

/-- Reads the value behind the colon of a member. -/
def readMemberQuery (input : List Symbol) : Reading (Option String × List Symbol) :=
  match skipSpace input with
  | some ':' :: rest => readQuery rest
  | _ => .error .malformed

/-- Skips the colon and the value of a member. -/
def skipMember (input : List Symbol) : Reading (List Symbol) :=
  match skipSpace input with
  | some ':' :: rest => wellFormed (skipValue (2 * rest.length + 2) rest)
  | _ => .error .malformed

/-- Reads the members of an object from a key on; `query` is what the member has been so far. A key
may not come twice. -/
def readObject (steps : Nat) (query : Option (Option String)) (input : List Symbol) :
    Reading (Option String × List Symbol) :=
  match steps with
  | 0 => .error .malformed
  | steps + 1 =>
    match skipSpace input with
    | some '"' :: rest => do
      let (key, rest) ← wellFormed (readString rest)
      let (query, rest) ←
        if key == "query" then
          match query with
          | some _ => .error .unexpected
          | none => (readMemberQuery rest).map fun (found, rest) => (some found, rest)
        else (skipMember rest).map fun rest => (query, rest)
      match skipSpace rest with
      | some ',' :: rest => readObject steps query rest
      | some '}' :: after => return (query.getD none, after)
      | _ => .error .malformed
    | _ => .error .malformed

/-- Reads an array with one value, behind its opening bracket. -/
def readSingleton (input : List Symbol) : Reading (Option String × List Symbol) :=
  match skipSpace input with
  | some ']' :: _ => .error .unexpected
  | [] => .error .malformed
  | input => do
    let (query, rest) ← readQuery input
    match skipSpace rest with
    | some ']' :: after => return (query, after)
    | _ => .error .malformed

/-- Reads the value of the body. -/
def readRequest (input : List Symbol) : Reading (Option String × List Symbol) :=
  match skipSpace input with
  | some '[' :: rest => readSingleton rest
  | some '{' :: rest =>
    match skipSpace rest with
    | some '}' :: after => .ok (none, after)
    | rest => readObject (rest.length + 1) none rest
  | input => .error (faultOf input)

/-- The query in a body, behind which nothing but blanks may follow. -/
def readBody (input : List Symbol) : Reading (Option String) := do
  let (query, rest) ← readRequest input
  if (skipSpace rest).isEmpty then return query else .error .malformed

end StaffSearch.Http
