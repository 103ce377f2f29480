import StaffSearch.Error
import StaffSearch.Json.Value
import StaffSearch.Text.Case
import StaffSearch.Text.Split

/-!
# Requests and answers

What a client sends and what it gets, as far as it matters here.
-/

namespace StaffSearch.Http

open StaffSearch.Text

/-- What a client sends. -/
structure Request where
  /-- The method, in capitals. -/
  method : String
  /-- The address that is asked for, perhaps with a query behind a question mark. -/
  uri : String
  /-- The headers in order. -/
  headers : List (String × String) := []
  /-- The body. -/
  body : List UInt8 := []
  deriving Repr

/-- The first header of a name, in any letter case. -/
def Request.header? (request : Request) (name : String) : Option String :=
  (request.headers.find? fun header => equalIgnoringAsciiCase header.1 name).map (·.2)

/-- The part of an address that names what is asked for. -/
def Request.path (request : Request) : String :=
  let untilSign := fun (sign : Char) (text : List Char) => text.takeWhile (· != sign)
  let text := untilSign '?' (untilSign '#' request.uri.toList)
  match text.head?, cutAtFirst? ':' text with
  | some '/', _ => String.ofList text
  | _, some (_, '/' :: '/' :: rest) =>
    let path := rest.dropWhile (· != '/')
    if path.isEmpty then "/" else String.ofList path
  | _, _ => String.ofList text

/-- What a client gets. -/
structure Response where
  /-- The status. -/
  status : Nat
  /-- The headers. -/
  headers : List (String × String) := []
  /-- The body, if there is one. -/
  body : Option Json := none

/-- An answer with a body in JSON. -/
def Response.json (status : Nat) (body : Json) : Response :=
  { status, headers := [("content-type", "application/json")], body := some body }

/-- The answer to a failed request. -/
def Response.ofError (cause : SearchError) : Response :=
  .json cause.status (.object [("error", .text cause.publicMessage)])

/-- The answer to a request, failed or not. -/
def answerOf (outcome : Except SearchError Json) : Response :=
  match outcome with
  | .ok body => .json 200 body
  | .error cause => .ofError cause

end StaffSearch.Http
