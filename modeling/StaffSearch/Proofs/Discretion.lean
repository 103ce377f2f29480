import StaffSearch.Proofs.Compilation
import StaffSearch.Proofs.Search
import StaffSearch.Proofs.SearchBodies

/-!
# What an answer gives away

Someone who sends searches and looks at the answers should not learn which word of a query is
blocked, nor what is wrong with a store.  This is a statement about two runs: two searches that both
meet a blocked word, or that both meet a store that fails, get the same answer, whatever they ask
for and whatever the stores are.

What a single search gets is settled first.  It depends on the request through its query and through
the reason for not looking at the body, if there is one (`respond_of_isSearchFor`), and on a failure
through the text that is made public (`searchAnswer_error`).  A request whose body is not looked at
is told why, and so the two requests must be alike in this respect (`searches_told_apart`).
-/

namespace StaffSearch.Http

open StaffSearch.Json StaffSearch.Query StaffSearch.Text

/-! ## Searches -/

/-- A request that searches for a query, however the query is written in its body. -/
structure Request.IsSearchFor (request : Request) (query : String) : Prop where
  isPosted : request.method = "POST"
  hasPath : request.path = Route.search.path
  hasBody : ∃ body : QueryBody query, request.body = encode body.text

/-- A search as it is sent, with the type that it gives its body. -/
def Request.ofSearch (type : String) (body : List Char) : Request :=
  { method := "POST", uri := "/employees/search", headers := [("content-type", type)],
    body := encode body }

theorem isSearchFor_ofSearch (type : String) {query : String} (body : QueryBody query) :
    (Request.ofSearch type body.text).IsSearchFor query where
  isPosted := rfl
  hasPath := by
    simp only [Request.ofSearch, Request.path]
    decide +kernel
  hasBody := ⟨body, rfl⟩

theorem refusal?_ofSearch (type : String) (body : List Char) :
    (Request.ofSearch type body).refusal? =
      if isJson type = false then
        some "Expected request with \x60Content-Type: application/json\x60"
      else if bodyLimit < (encode body).length then
        some "Failed to buffer the request body: length limit exceeded"
      else none := by
  have hName : equalIgnoringAsciiCase "content-type" "content-type" = true := by decide +kernel
  have hHeader : (Request.ofSearch type body).header? "content-type" = some type := by
    simp [Request.header?, Request.ofSearch, hName]
  rw [Request.refusal?, hHeader, Option.any_some]
  cases isJson type <;> rfl

/-- A search in JSON, with blanks in front of its body. -/
def Request.jsonSearch (query : String) (padding : Nat) : Request :=
  .ofSearch "application/json" (QueryBody.padded padding query).text

theorem isSearchFor_jsonSearch (query : String) (padding : Nat) :
    (Request.jsonSearch query padding).IsSearchFor query := isSearchFor_ofSearch _ _

/-- The error of a request whose body is not looked at. -/
def refused (reason : String) : SearchError := .validation ("Invalid request body: " ++ reason)

/-- The answer to a search, with the headers that tell a browser who may read it. -/
def searchAnswer (allowsAnyOrigin : Bool) (outcome : Except SearchError Json) : Response :=
  if allowsAnyOrigin then
    { answerOf outcome with headers := anyOriginHeaders ++ (answerOf outcome).headers }
  else answerOf outcome

section Answers

variable {compiler : Compiler} {store : Store} {allowsAnyOrigin : Bool} {now : Instant}
  {request : Request} {query : String} {detail : FaultDetail}

theorem queryOf_of_isSearchFor (h : request.IsSearchFor query) :
    queryOf request detail = match request.refusal? with
      | some reason => .error (refused reason)
      | none => .ok (some query) := by
  obtain ⟨body, hBody⟩ := h.hasBody
  rw [queryOf]
  cases request.refusal? with
  | some reason => rfl
  | none =>
      dsimp only
      rw [hBody, body.readBody_encode]

/-- **What a search gets.** -/
theorem respond_of_isSearchFor (h : request.IsSearchFor query) (service : Service)
    (allowsAnyOrigin : Bool) (now : Instant) (detail : FaultDetail) :
    respond service allowsAnyOrigin now request detail = searchAnswer allowsAnyOrigin
      (match request.refusal? with
      | some reason => .error (refused reason)
      | none => (service.search (some query) now).map fun found =>
          .list (found.map Employee.toJson)) := by
  have hOutcome : outcome service now request detail .search = match request.refusal? with
      | some reason => .error (refused reason)
      | none => (service.search (some query) now).map fun found =>
          .list (found.map Employee.toJson) := by
    rw [outcome, queryOf_of_isSearchFor h]
    cases request.refusal? <;> rfl
  have hRoute : Route.ofPath? request.path = some .search := by
    rw [h.hasPath]
    decide +kernel
  have hPlain : respondPlainly service now request detail =
      answerOf (outcome service now request detail .search) := by
    rw [respondPlainly, hRoute]
    dsimp only
    rw [h.isPosted]
    rfl
  rw [← hOutcome, respond, searchAnswer, hPlain, h.isPosted]
  rfl

/-- The answer to a failed search has the status of the failure, and its body is what is made
public. -/
theorem searchAnswer_error (allowsAnyOrigin : Bool) (cause : SearchError) :
    (searchAnswer allowsAnyOrigin (.error cause)).status = cause.status ∧
      (searchAnswer allowsAnyOrigin (.error cause)).body =
        some (.object [("error", .text cause.publicMessage)]) := by
  cases allowsAnyOrigin <;> exact ⟨rfl, rfl⟩

/-- Different public messages make different answers. -/
theorem searchAnswer_ne {cause other : SearchError} (allowsAnyOrigin : Bool)
    (h : cause.publicMessage ≠ other.publicMessage) :
    searchAnswer allowsAnyOrigin (.error cause) ≠ searchAnswer allowsAnyOrigin (.error other) := by
  intro hSame
  have hBody := congrArg Response.body hSame
  rw [(searchAnswer_error _ _).2, (searchAnswer_error _ _).2] at hBody
  simp only [Option.some.injEq, Json.object.injEq, List.cons.injEq, Prod.mk.injEq,
    Json.text.injEq, and_true, true_and] at hBody
  exact h hBody

theorem explain_some (service : Service) (query : String) (now : Instant) :
    service.explain (some query) now = service.compiler.compile query now := by
  rw [Service.explain]
  split
  · next hBlank => rw [Compiler.compile, if_pos hBlank]
  · rfl

/-- A search with a blocked word. -/
theorem respond_of_rejected {term : String} (h : request.IsSearchFor query)
    (hTaken : request.refusal? = none)
    (hRejected : compiler.compile query now = .error (.rejected term)) :
    respond ⟨compiler, store⟩ allowsAnyOrigin now request detail =
      searchAnswer allowsAnyOrigin (.error (.rejected term)) := by
  have hExplain : Service.explain ⟨compiler, store⟩ (some query) now = .error (.rejected term) :=
    (explain_some _ _ _).trans hRejected
  rw [respond_of_isSearchFor h, hTaken, Service.search_of_explain_error hExplain]
  rfl

/-- A search of a store that fails. -/
theorem respond_of_failing {cause : StoreError} {filter : Filter} (h : request.IsSearchFor query)
    (hTaken : request.refusal? = none) (hAccepted : compiler.compile query now = .ok filter) :
    respond ⟨compiler, .failing cause⟩ allowsAnyOrigin now request detail =
      searchAnswer allowsAnyOrigin (.error (.store cause)) := by
  have hExplain : Service.explain ⟨compiler, .failing cause⟩ (some query) now = .ok filter :=
    (explain_some _ _ _).trans hAccepted
  rw [respond_of_isSearchFor h, hTaken, Service.search_failing hExplain]
  rfl

/-- A search whose body is not looked at. -/
theorem respond_of_refused {reason : String} (h : request.IsSearchFor query)
    (hRefused : request.refusal? = some reason) (service : Service) (allowsAnyOrigin : Bool)
    (now : Instant) (detail : FaultDetail) :
    respond service allowsAnyOrigin now request detail =
      searchAnswer allowsAnyOrigin (.error (refused reason)) := by
  rw [respond_of_isSearchFor h, hRefused]

end Answers

/-! ## Two searches -/

/-- The standard settings block these two queries. -/
theorem compile_blocked_queries {compiler : Compiler}
    (hCompiler : Compiler.ofSettings {} = .ok compiler) (now : Instant) :
    (∃ term, compiler.compile "password" now = .error (.rejected term)) ∧
      ∃ term, compiler.compile "drop it" now = .error (.rejected term) := by
  have hBlocked := Compiler.blocked_of_ofSettings_default hCompiler
  obtain ⟨term, hTerm, -⟩ := compiler.compile_of_blocked now
    (show ∃ token ∈ tokenize "password", token.stem ∈ compiler.gate.blocked by
      rw [hBlocked]
      decide +kernel)
  obtain ⟨hidden, hHidden, -⟩ := compiler.compile_of_blocked now
    (show ∃ token ∈ tokenize "drop it", token.stem ∈ compiler.gate.blocked by
      rw [hBlocked]
      decide +kernel)
  exact ⟨⟨term, hTerm⟩, hidden, hHidden⟩

/--
**Answers give nothing away.**  Take two searches of one compiler, at any times and over any stores,
that are alike in why their bodies are not looked at, if they are not.  If both queries hold blocked
words, the answers are the same, with status 400, whatever the words, the queries and the stores
are.  If both queries compile and both stores fail, the answers are the same again, whatever the
failures are.  Their status is then 500, or 400 for bodies that are not looked at.  All this holds
whatever an answer adds about a body that cannot be read.
-/
theorem respond_eq_respond (compiler : Compiler) (allowsAnyOrigin : Bool) (store another : Store)
    (now later : Instant) (detail : FaultDetail) {request other : Request} {query asked : String}
    (hRequest : request.IsSearchFor query) (hOther : other.IsSearchFor asked)
    (hAlike : request.refusal? = other.refusal?) :
    (∀ term hidden, compiler.compile query now = .error (.rejected term) →
      compiler.compile asked later = .error (.rejected hidden) →
        respond ⟨compiler, store⟩ allowsAnyOrigin now request detail =
            respond ⟨compiler, another⟩ allowsAnyOrigin later other detail ∧
          (respond ⟨compiler, store⟩ allowsAnyOrigin now request detail).status = 400) ∧
    (∀ filter selected cause reason, compiler.compile query now = .ok filter →
      compiler.compile asked later = .ok selected → store = .failing cause →
        another = .failing reason →
          respond ⟨compiler, store⟩ allowsAnyOrigin now request detail =
              respond ⟨compiler, another⟩ allowsAnyOrigin later other detail ∧
            (respond ⟨compiler, store⟩ allowsAnyOrigin now request detail).status =
              if request.refusal? = none then 500 else 400) := by
  cases hRefusal : request.refusal? with
  | some why =>
      rw [hRefusal] at hAlike
      have hFirst := respond_of_refused hRequest hRefusal ⟨compiler, store⟩ allowsAnyOrigin now detail
      have hSecond :=
        respond_of_refused hOther hAlike.symm ⟨compiler, another⟩ allowsAnyOrigin later detail
      have hSame := hFirst.trans hSecond.symm
      have hStatus := (searchAnswer_error allowsAnyOrigin (refused why)).1
      rw [← hFirst] at hStatus
      exact ⟨fun _ _ _ _ => ⟨hSame, hStatus⟩, fun _ _ _ _ _ _ _ _ => ⟨hSame, hStatus⟩⟩
  | none =>
      rw [hRefusal] at hAlike
      constructor
      · intro term hidden hRejected hHidden
        rw [respond_of_rejected hRequest hRefusal hRejected,
          respond_of_rejected hOther hAlike.symm hHidden]
        exact ⟨rfl, (searchAnswer_error allowsAnyOrigin _).1⟩
      · rintro filter selected cause reason hAccepted hSelected rfl rfl
        rw [respond_of_failing hRequest hRefusal hAccepted,
          respond_of_failing hOther hAlike.symm hSelected]
        exact ⟨rfl, (searchAnswer_error allowsAnyOrigin _).1⟩

/-- Two blocked words get one answer, and two failures of stores get one. -/
theorem respond_eq_respond_jsonSearch :
    ∃ compiler, Compiler.ofSettings {} = .ok compiler ∧ ∀ now,
      (respond ⟨compiler, .memory []⟩ true now (.jsonSearch "password" 0) =
          respond ⟨compiler, .failing (.queryFailed "disk")⟩ true now (.jsonSearch "drop it" 1) ∧
        (respond ⟨compiler, .memory []⟩ true now (.jsonSearch "password" 0)).status = 400) ∧
      (respond ⟨compiler, .failing (.connectionFailed "10.0.0.7")⟩ true now
            (.jsonSearch "sql" 0) =
          respond ⟨compiler, .failing (.queryFailed "disk")⟩ true now (.jsonSearch "it" 1) ∧
        (respond ⟨compiler, .failing (.connectionFailed "10.0.0.7")⟩ true now
          (.jsonSearch "sql" 0)).status = 500) := by
  obtain ⟨compiler, hCompiler⟩ := Compiler.exists_ofSettings {} (by decide)
  refine ⟨compiler, hCompiler, fun now => ?_⟩
  have hBlocked := Compiler.blocked_of_ofSettings_default hCompiler
  obtain ⟨⟨term, hTerm⟩, hidden, hHidden⟩ := compile_blocked_queries hCompiler now
  obtain ⟨filter, hFilter, -⟩ := Compiler.compile_of_unblocked hCompiler now
    (show tokenize "sql" ≠ [] by decide +kernel) (by rw [hBlocked]; decide +kernel)
  obtain ⟨selected, hSelected, -⟩ := Compiler.compile_of_unblocked hCompiler now
    (show tokenize "it" ≠ [] by decide +kernel) (by rw [hBlocked]; decide +kernel)
  have hTaken : (Request.jsonSearch "sql" 0).refusal? = none := by decide +kernel
  have hRejected := (respond_eq_respond compiler true (.memory []) (.failing (.queryFailed "disk"))
    now now .none (isSearchFor_jsonSearch "password" 0) (isSearchFor_jsonSearch "drop it" 1)
    (by decide +kernel)).1 _ _ hTerm hHidden
  have hFailing := (respond_eq_respond compiler true (.failing (.connectionFailed "10.0.0.7"))
    (.failing (.queryFailed "disk")) now now .none (isSearchFor_jsonSearch "sql" 0)
    (isSearchFor_jsonSearch "it" 1) (by decide +kernel)).2 _ _ _ _ hFilter hSelected rfl rfl
  rw [if_pos hTaken] at hFailing
  exact ⟨hRejected, hFailing⟩

/-- **Searches that are not looked at for different reasons are told apart**: the same blocked word
gets another answer in a body that is not said to be JSON, and another one in a body that is too
long. -/
theorem searches_told_apart :
    ∃ compiler, Compiler.ofSettings {} = .ok compiler ∧ ∀ now,
      (∃ term, compiler.compile "password" now = .error (.rejected term)) ∧
        (Request.jsonSearch "password" 0).IsSearchFor "password" ∧
        ∀ request ∈ [Request.ofSearch "text/plain" (QueryBody.padded 0 "password").text,
            Request.jsonSearch "password" bodyLimit],
          request.IsSearchFor "password" ∧
            respond ⟨compiler, .memory []⟩ false now request ≠
              respond ⟨compiler, .memory []⟩ false now (.jsonSearch "password" 0) := by
  obtain ⟨compiler, hCompiler⟩ := Compiler.exists_ofSettings {} (by decide)
  refine ⟨compiler, hCompiler, fun now => ?_⟩
  obtain ⟨⟨term, hTerm⟩, -⟩ := compile_blocked_queries hCompiler now
  have hSearch := isSearchFor_jsonSearch "password" 0
  have hAnswer : respond ⟨compiler, .memory []⟩ false now (.jsonSearch "password" 0) =
      searchAnswer false (.error (.rejected term)) :=
    respond_of_rejected hSearch (by decide +kernel) hTerm
  refine ⟨⟨term, hTerm⟩, hSearch, ?_⟩
  rw [List.forall_mem_cons, List.forall_mem_singleton]
  constructor
  · have hPlain := isSearchFor_ofSearch "text/plain" (QueryBody.padded 0 "password")
    refine ⟨hPlain, ?_⟩
    have hRefusal := refusal?_ofSearch "text/plain" (QueryBody.padded 0 "password").text
    rw [if_pos (by decide +kernel)] at hRefusal
    rw [respond_of_refused hPlain hRefusal, hAnswer]
    apply searchAnswer_ne
    change _ ≠ "Search query contains a blocked term"
    decide
  · have hLong := isSearchFor_jsonSearch "password" bodyLimit
    refine ⟨hLong, ?_⟩
    have hLength := QueryBody.padding_lt_length_text bodyLimit "password"
    have hBytes := length_le_length_encode (QueryBody.padded bodyLimit "password").text
    have hRefusal := refusal?_ofSearch "application/json"
      (QueryBody.padded bodyLimit "password").text
    rw [isJson_plain, if_neg (by decide), if_pos (Nat.lt_of_lt_of_le hLength hBytes)] at hRefusal
    rw [respond_of_refused hLong hRefusal, hAnswer]
    apply searchAnswer_ne
    change _ ≠ "Search query contains a blocked term"
    decide

end StaffSearch.Http
