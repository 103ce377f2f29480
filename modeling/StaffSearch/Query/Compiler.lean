import StaffSearch.Filter.Basic
import StaffSearch.Query.Extractor
import StaffSearch.Query.Gate

/-!
# From queries to filters

A compiler is a gate, a binder and a list of extractors that own different fields. It turns a query
into a filter: the query is cut into tokens, the gate looks at them, the anchors get their numerals,
and every extractor adds what it finds.

## Main results

* `Compiler.assemble_eq_ok` — a compiler can be assembled when no field has two owners.
-/

namespace StaffSearch.Query

open StaffSearch.Text

/-! ## Settings -/

/-- What can be changed about a compiler. -/
structure CompilerSettings where
  /-- The number of tokens searched around an anchor. -/
  window : UInt64 := defaultWindow
  /-- Terms that are blocked besides the default ones. -/
  blockedTerms : List String := []
  /-- Terms that are added to the vocabularies. -/
  extraTerms : List (Category × List String) := []

/-- The terms that settings add to a category. -/
def CompilerSettings.termsOf (settings : CompilerSettings) (category : Category) : List String :=
  settings.extraTerms.flatMap fun entry => if entry.1 = category then entry.2 else []

/-! ## Compilers -/

/-- A gate, a binder, and extractors that own different fields. -/
structure Compiler where
  /-- The blocked terms. -/
  gate : Gate
  /-- How numerals are found. -/
  binder : Binder
  /-- What is read off a query, in order. -/
  extractors : List Extractor

/-- The first extractor that claims a field that another one has claimed before it, with that
field and the name of the earlier owner. -/
def findClash? (owned : List (Field × String)) : List Extractor → Option (Field × String × String)
  | [] => none
  | extractor :: rest =>
    match owned.lookup extractor.field with
    | some owner => some (extractor.field, owner, extractor.name)
    | none => findClash? ((extractor.field, extractor.name) :: owned) rest

/-- The tokens of a query, of which there must be one. -/
def normalize (query : String) : Except SearchError (List Token) :=
  match tokenize query with
  | [] => .error .queryRequired
  | tokens => .ok tokens

namespace Compiler

/-- The compiler with the given parts, unless two extractors own the same field. -/
def assemble (gate : Gate) (binder : Binder) (extractors : List Extractor) :
    Except SearchError Compiler :=
  match findClash? [] extractors with
  | some (field, owner, name) =>
    .error (.configuration s!"field {field.label} is owned by both {owner} and {name}")
  | none => .ok { gate, binder, extractors }

theorem assemble_eq_ok {gate : Gate} {binder : Binder} {extractors : List Extractor}
    (h : findClash? [] extractors = none) :
    assemble gate binder extractors = .ok { gate, binder, extractors } := by
  simp [assemble, h]

/-- The extractors that every query is read with. -/
def standardExtractors (lexicon : Lexicon) : List Extractor :=
  Category.all.map (Extractor.ofLexicon lexicon) ++
    [Extractor.city, Extractor.salary, Extractor.age, Extractor.joinDate]

/-- The built-in lexicon with the terms that settings add. -/
def lexiconOf (extraTerms : List (Category × List String)) : Lexicon :=
  extraTerms.foldl (fun lexicon (category, terms) => lexicon.extend category terms) Lexicon.builtIn

/-- The compiler with the given settings. -/
def ofSettings (settings : CompilerSettings) : Except SearchError Compiler :=
  if settings.window = 0 then .error (.configuration "numeral_window must be at least 1")
  else
    assemble (Gate.ofTerms settings.blockedTerms) (Binder.ofWindow settings.window)
      (standardExtractors (lexiconOf settings.extraTerms))

/-- The kinds of anchors that may own numerals in a query. -/
def activeAnchors (tokens : List Token) : List Anchor :=
  if asksForJoinDate tokens then [.salary, .age, .years] else [.salary, .age]

/-- Adds the constraints of an extractor to a draft. -/
def addAll (draft : Draft) (stage : String) : List (Field × Constraint) → Except SearchError Draft
  | [] => .ok draft
  | (field, constraint) :: rest =>
    match draft.insert stage field constraint with
    | .ok next => addAll next stage rest
    | .error cause => .error cause

/-- Adds what each extractor finds to a draft. -/
def run (context : Context) (draft : Draft) : List Extractor → Except SearchError Draft
  | [] => .ok draft
  | extractor :: rest =>
    match addAll draft extractor.name (extractor.extract context) with
    | .ok next => run context next rest
    | .error cause => .error cause

/-- The filter that a query stands for; relative dates refer to `now`. -/
def compile (compiler : Compiler) (query : String) (now : Instant) : Except SearchError Filter :=
  if isBlankText query then .error .queryRequired
  else
    match normalize query with
    | .error cause => .error cause
    | .ok tokens =>
      match compiler.gate.check tokens with
      | .error cause => .error cause
      | .ok () =>
        let bindings := compiler.binder.bind tokens (activeAnchors tokens)
        let context : Context := { raw := query, tokens, now, bindings }
        match run context Draft.empty compiler.extractors with
        | .error cause => .error cause
        | .ok draft => .ok draft.build

end Compiler

end StaffSearch.Query
