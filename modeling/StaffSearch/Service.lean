import StaffSearch.Query.Compiler
import StaffSearch.Store.Basic

/-!
# Searching

A search compiles the query, asks the store, and judges the result: a query that puts no constraint
gets every record, and a constrained one that finds nothing is an error.

## Main results

* `search_of_explain_error` — a query that does not compile never reaches the store.
-/

namespace StaffSearch

open StaffSearch.Query StaffSearch.Text

/-- A compiler and a store. -/
structure Service where
  /-- Turns queries into filters. -/
  compiler : Compiler
  /-- Holds the records. -/
  store : Store

namespace Service

/-- The filter that a query stands for, if there is a query; the store is not asked. -/
def explain (service : Service) (query : Option String) (now : Instant) :
    Except SearchError Filter :=
  match query with
  | none => .error .queryRequired
  | some query =>
    if isBlankText query then .error .queryRequired else service.compiler.compile query now

/-- Every record. -/
def listAll (service : Service) : Except SearchError (List Employee) :=
  service.store.findAll.mapError .store

/-- The records that a search by a filter finds; `ask` is what the store says to filters. -/
def answer (ask : Filter → Except StoreError (List Employee)) (filter : Filter) :
    Except SearchError (List Employee) :=
  if filter.isEmpty then (ask Filter.empty).mapError .store
  else
    match ask filter with
    | .error cause => .error (.store cause)
    | .ok [] => .error .noMatch
    | .ok found => .ok found

/-- The records that a query asks for. -/
def search (service : Service) (query : Option String) (now : Instant) :
    Except SearchError (List Employee) :=
  match service.explain query now with
  | .error cause => .error cause
  | .ok filter => answer service.store.find filter

theorem search_of_explain_error {service : Service} {query : Option String} {now : Instant}
    {cause : SearchError} (h : service.explain query now = .error cause) :
    service.search query now = .error cause := by
  simp [search, h]

end Service

end StaffSearch
