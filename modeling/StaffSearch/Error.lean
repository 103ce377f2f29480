/-!
# Errors

What can go wrong with a search, the text that describes it, and what a client gets to see: the
status of the answer and a message that gives nothing away.
-/

namespace StaffSearch

/-- A failure of the record store. -/
inductive StoreError where
  /-- The store cannot be reached. -/
  | connectionFailed (reason : String)
  /-- The store refused to run a query. -/
  | queryFailed (reason : String)
  /-- The store does not understand a query. -/
  | invalidQuery (reason : String)
  /-- A record cannot be converted. -/
  | serializationError (reason : String)
  /-- The store is set up wrongly. -/
  | configurationError (reason : String)
  deriving DecidableEq, Repr

/-- The description of a store failure. -/
def StoreError.describe : StoreError → String
  | connectionFailed reason => "Connection failed: " ++ reason
  | queryFailed reason => "Query execution failed: " ++ reason
  | invalidQuery reason => "Invalid query: " ++ reason
  | serializationError reason => "Serialization error: " ++ reason
  | configurationError reason => "Configuration error: " ++ reason

/-- What can go wrong. -/
inductive SearchError where
  /-- The query is missing or has nothing in it to search for. -/
  | validation (reason : String)
  /-- The query holds a blocked term. -/
  | rejected (term : String)
  /-- No record passes the filter. -/
  | noMatch
  /-- The record store failed. -/
  | store (cause : StoreError)
  /-- The settings are wrong. -/
  | configuration (reason : String)
  /-- An invariant is broken. -/
  | internal (reason : String)
  /-- The system failed to read, write or listen. -/
  | io (reason : String)
  deriving DecidableEq, Repr

namespace SearchError

/-- The description of an error, for logs and for the operator. -/
def describe : SearchError → String
  | validation reason => "Validation error: " ++ reason
  | rejected term => "Rejected query: " ++ term
  | noMatch => "No matching employees found"
  | store cause => "Store error: " ++ cause.describe
  | configuration reason => "Configuration error: " ++ reason
  | internal reason => "Internal error: " ++ reason
  | io reason => "I/O error: " ++ reason

/-- The status of an answer that reports the error. -/
def status : SearchError → Nat
  | validation _ | rejected _ => 400
  | noMatch => 404
  | store _ | configuration _ | internal _ | io _ => 500

/-- The message that a client gets to see. -/
def publicMessage : SearchError → String
  | validation reason => reason
  | rejected _ => "Search query contains a blocked term"
  | noMatch => describe noMatch
  | store _ => "Error fetching employees"
  | configuration _ | internal _ | io _ => "Internal server error"

/-- The query is missing, blank or without any letter or number. -/
def queryRequired : SearchError := validation "Search query required"

end SearchError

end StaffSearch
