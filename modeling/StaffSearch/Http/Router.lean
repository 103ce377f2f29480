import StaffSearch.Employee.Json
import StaffSearch.Filter.Json
import StaffSearch.Http.MediaType
import StaffSearch.Http.Message
import StaffSearch.Http.SearchBody
import StaffSearch.Service
import StaffSearch.Text.Utf8

/-!
# Answering requests

Four things can be asked for: every record, a search, the filter of a search, and a sign of life.
Each of them has a path and a method; what can be fetched can also be asked for without its body.
Unknown paths and methods are refused.

If pages from anywhere may ask, every answer says so, and the question of a browser whether it may
ask is always answered.
-/

namespace StaffSearch.Http

open StaffSearch.Text

/-! ## What can be asked for -/

/-- What can be asked for. -/
inductive Route where
  /-- Every record. -/
  | employees
  /-- A search. -/
  | search
  /-- The filter of a search. -/
  | explain
  /-- A sign of life. -/
  | health
  deriving DecidableEq, Repr

namespace Route

/-- The path of a route. -/
def path : Route → String
  | employees => "/employees"
  | search => "/employees/search"
  | explain => "/employees/search/explain"
  | health => "/health"

/-- Every route. -/
def all : List Route := [employees, search, explain, health]

/-- The route of a path. -/
def ofPath? (path : String) : Option Route := all.find? fun route => route.path == path

/-- Whether a route is fetched; the others are sent a body. -/
def isFetched : Route → Bool
  | employees | health => true
  | search | explain => false

/-- The methods of a route. -/
def methods (route : Route) : List String := if route.isFetched then ["GET", "HEAD"] else ["POST"]

end Route

/-! ## Bodies -/

/-- The largest number of bytes that a body may have. -/
def bodyLimit : Nat := 2097152

/-- Why the body of a request is not looked at, if it is not: the request does not say that the body
is JSON, or the body is too long. -/
def Request.refusal? (request : Request) : Option String :=
  if !(request.header? "content-type").any isJson then
    some "Expected request with \x60Content-Type: application/json\x60"
  else if bodyLimit < request.body.length then
    some "Failed to buffer the request body: length limit exceeded"
  else none

/-- The query in the body of a request. -/
def queryOf (request : Request) (detail : FaultDetail) : Except SearchError (Option String) :=
  let refuse := fun reason => Except.error (.validation ("Invalid request body: " ++ reason))
  match request.refusal? with
  | some reason => refuse reason
  | none =>
    match readBody (decode request.body) with
    | .ok query => .ok query
    | .error fault => refuse (fault.describe ++ detail request.body)

/-! ## Answers -/

/-- What a request gets from a route. -/
def outcome (service : Service) (now : Instant) (request : Request) (detail : FaultDetail) :
    Route → Except SearchError Json
  | .employees => service.listAll.map fun found => .list (found.map Employee.toJson)
  | .search =>
    match queryOf request detail with
    | .error cause => .error cause
    | .ok query => (service.search query now).map fun found => .list (found.map Employee.toJson)
  | .explain =>
    match queryOf request detail with
    | .error cause => .error cause
    | .ok query =>
      (service.explain query now).map fun filter =>
        .object [("query", .text (query.getD "")), ("predicate", filter.toJson)]
  | .health => .ok (.object [("status", .text "ok")])

/-- The header that names the methods of a route. -/
def allowHeader (route : Route) : String × String := ("allow", String.intercalate "," route.methods)

/-- The answer of the routes. -/
def respondPlainly (service : Service) (now : Instant) (request : Request) (detail : FaultDetail) :
    Response :=
  match Route.ofPath? request.path with
  | none => { status := 404 }
  | some route =>
    if route.methods.contains request.method then
      let response := answerOf (outcome service now request detail route)
      if request.method == "HEAD" then { response with body := none } else response
    else { status := 405, headers := [allowHeader route] }

/-! ## Pages from anywhere -/

/-- The headers of every answer that pages from anywhere may read. -/
def anyOriginHeaders : List (String × String) := [
  ("access-control-allow-origin", "*"),
  ("vary", "origin, access-control-request-method, access-control-request-headers")]

/-- The headers that tell a browser what it may send. -/
def permissionHeaders : List (String × String) := [
  ("access-control-allow-methods", "GET,POST,PUT,DELETE"),
  ("access-control-allow-headers", "content-type")]

/-- The answer to a browser that asks whether it may ask. -/
def permission (request : Request) : Response :=
  let allow := match Route.ofPath? request.path with
    | some route => [allowHeader route]
    | none => []
  { status := 200, headers := anyOriginHeaders ++ permissionHeaders ++ allow }

/-- The answer to a request; `allowsAnyOrigin` says whether pages from anywhere may ask, and
`detail` how much is said about a body that cannot be read. -/
def respond (service : Service) (allowsAnyOrigin : Bool) (now : Instant) (request : Request)
    (detail : FaultDetail := FaultDetail.none) : Response :=
  if allowsAnyOrigin then
    if request.method == "OPTIONS" then permission request
    else
      let response := respondPlainly service now request detail
      { response with headers := anyOriginHeaders ++ response.headers }
  else respondPlainly service now request detail

end StaffSearch.Http
