import StaffSearch.Error
import StaffSearch.Query.Token
import StaffSearch.Text.CharacterClass

/-!
# Blocked terms

A query with a blocked term in it is refused before anything else is looked at. Terms and tokens are
compared by stems, so inflected forms of a term are blocked with it.
-/

namespace StaffSearch.Query

open StaffSearch.Text

/-- The terms that are always blocked. -/
def alwaysBlocked : List String :=
  ["password", "passwd", "ssn", "secret", "credential", "drop", "delete", "truncate", "exec",
    "execute", "script", "eval"]

/-- The stem by which a term is blocked. -/
def blockedStem (term : String) : String := stem (lowercase (trim term))

/-- The blocked stems. -/
structure Gate where
  /-- The stems that are not let through. -/
  blocked : List String

namespace Gate

/-- The gate with the default terms and some more. -/
def ofTerms (extra : List String) : Gate :=
  ⟨((alwaysBlocked ++ extra).map blockedStem).filter fun stem => stem != ""⟩

/-- Whether a token is not let through. -/
def blocks (gate : Gate) (token : Token) : Bool := gate.blocked.contains token.stem

/-- Whether a word is not let through. -/
def blocksWord (gate : Gate) (word : String) : Bool := gate.blocked.contains (stem (lowercase word))

/-- Refuses the query at its first blocked token. -/
def check (gate : Gate) (tokens : List Token) : Except SearchError Unit :=
  match tokens.find? gate.blocks with
  | some token => .error (.rejected token.text)
  | none => .ok ()

theorem check_eq_ok_iff {gate : Gate} {tokens : List Token} :
    gate.check tokens = .ok () ↔ ∀ token ∈ tokens, gate.blocks token = false := by
  unfold check
  split
  · next token h =>
    have := List.find?_some h
    have hmem := List.mem_of_find?_eq_some h
    simp only [reduceCtorEq, false_iff]
    intro hall
    simp [hall token hmem] at this
  · next h => simpa using h

end Gate

end StaffSearch.Query
