import StaffSearch.Employee
import StaffSearch.Error
import StaffSearch.Query.Token
import StaffSearch.Text.CharacterClass

/-!
# Vocabularies

Some fields have a closed vocabulary: an ordered list of terms, each of them a value with the stem
sequences of its spellings. A term is present in a query when one of its spellings is a run of
tokens there, compared by stems.

A `Lexicon` has a vocabulary for each category. It starts out with the built-in terms and can be
extended; terms that are there already, or that hold no letter and no number, are passed over.

## Main results

* `Lexicon.extend_append` — extending step by step or at once is the same.
* `Lexicon.terms_extend_of_ne` — the vocabularies of the other categories stay as they are.
-/

namespace StaffSearch.Query

open StaffSearch.Text

/-! ## Categories -/

/-- The kinds of terms that queries use. -/
inductive Category where
  /-- Names of states. -/
  | state
  /-- Names of departments. -/
  | department
  /-- Names of skills. -/
  | skill
  /-- Names of degrees. -/
  | education
  deriving DecidableEq, Repr

namespace Category

/-- Every category, in order. -/
def all : List Category := [state, department, skill, education]

/-- The field that the terms of a category describe. -/
def field : Category → Field
  | state => .state
  | department => .department
  | skill => .skills
  | education => .education

/-- Whether a query may name several terms of the category at once. -/
def allowsSeveral : Category → Bool
  | skill => true
  | state | department | education => false

/-- The name of a category. -/
def label : Category → String
  | state => "state"
  | department => "department"
  | skill => "skill"
  | education => "education"

/-- The category with exactly this name. -/
def ofLabel? (text : String) : Option Category := all.find? fun category => category.label == text

/-- The category with this name in any letter case, blanks around it not counting. -/
def parse (text : String) : Except SearchError Category :=
  match all.find? fun category => equalIgnoringAsciiCase category.label (trim text) with
  | some category => .ok category
  | none => .error (.configuration ("Unknown lexicon category: " ++ text))

end Category

/-! ## Terms -/

/-- A value with the stem sequences of its spellings. -/
structure Term where
  /-- The value in lowercase, as it appears in filters. -/
  value : String
  /-- The stem sequences of its spellings; `Term.of` leaves out the empty ones. -/
  forms : List (List String)
  deriving DecidableEq, Repr

/-- The term of a value and its other spellings. -/
def Term.of (value : String) (aliases : List String) : Term :=
  let value := lowercase (trim value)
  { value, forms := ((value :: aliases).map stems).filter fun form => !form.isEmpty }

/-- Whether a spelling of the term occurs among the tokens. -/
def Term.isPresentIn (term : Term) (tokens : List Token) : Bool :=
  term.forms.any fun form => (findStems? form tokens).isSome

/-! ## The built-in vocabularies -/

/-- The built-in terms of a category with their other spellings. -/
def Category.builtIn : Category → List (String × List String)
  | .state => [
    ("california", []), ("texas", []), ("new york", ["ny"]), ("florida", []), ("washington", []),
    ("illinois", [])]
  | .department => [
    ("it", ["information technology"]), ("hr", ["human resources"]), ("engineering", []),
    ("marketing", []), ("sales", [])]
  | .skill => [
    ("javascript", ["js"]), ("python", []), ("react", []), ("node.js", ["nodejs"]), ("sql", []),
    ("java", []), ("typescript", []), ("docker", [])]
  | .education => [
    ("mba", []), ("b.tech", ["btech"]), ("m.tech", ["mtech"]), ("b.sc", ["bsc"])]

/-! ## Lexicons -/

/-- A vocabulary for every category. -/
structure Lexicon where
  /-- The terms of a category, in order. -/
  terms : Category → List Term

namespace Lexicon

/-- The lexicon with the built-in terms only. -/
def builtIn : Lexicon :=
  ⟨fun category => category.builtIn.map fun entry => Term.of entry.1 entry.2⟩

/-- A vocabulary with one more term, unless the term is there or has nothing to be found by. -/
def addTerm (terms : List Term) (text : String) : List Term :=
  let term := Term.of text []
  if term.forms.isEmpty || terms.any (fun known => known.value == term.value) then terms
  else terms ++ [term]

/-- The lexicon with further terms in one category, behind those that are there. -/
def extend (lexicon : Lexicon) (category : Category) (texts : List String) : Lexicon :=
  ⟨fun c => if c = category then texts.foldl addTerm (lexicon.terms c) else lexicon.terms c⟩

@[simp] theorem terms_extend_self (lexicon : Lexicon) (category : Category) (texts : List String) :
    (lexicon.extend category texts).terms category =
      texts.foldl addTerm (lexicon.terms category) := by
  simp [extend]

@[simp] theorem terms_extend_of_ne (lexicon : Lexicon) {category c : Category} (h : c ≠ category)
    (texts : List String) : (lexicon.extend category texts).terms c = lexicon.terms c := by
  simp [extend, h]

theorem extend_append (lexicon : Lexicon) (category : Category) (xs ys : List String) :
    lexicon.extend category (xs ++ ys) = (lexicon.extend category xs).extend category ys := by
  simp only [extend, mk.injEq]
  funext c
  by_cases h : c = category <;> simp [h]

end Lexicon

end StaffSearch.Query
