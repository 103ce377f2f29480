import StaffSearch.Query.Token

/-!
# Which numeral belongs to which word

Words such as "salary", "age" and "years" are anchors: each kind of anchor wants a numeral of its
own. The anchors of a query are visited from left to right. An anchor looks at the tokens up to
`window` places away on one side, nearest first and not beyond the next anchor, then on the other
side, and takes the first numeral that no anchor has taken before. A kind that has its numeral takes
no second one.

Positions are machine words: the end of the window is computed modulo `2 ^ 64`.

## Main results

* `Bindings.set_self`, `Bindings.set_of_ne` — recording a binding changes one kind only.
-/

namespace StaffSearch.Query

/-! ## Anchors -/

/-- The kinds of words that own a numeral. -/
inductive Anchor where
  /-- A word for the salary. -/
  | salary
  /-- A word for the age. -/
  | age
  /-- A word for years. -/
  | years
  deriving DecidableEq, Repr

namespace Anchor

/-- Every kind, in order. -/
def all : List Anchor := [salary, age, years]

/-- The words of a kind. -/
def words : Anchor → List String
  | salary => ["salary", "pay", "income"]
  | age => ["age", "aged"]
  | years => ["year"]

/-- The stems of the words of a kind. -/
def stems (anchor : Anchor) : List String := anchor.words.map stem

/-- Whether the numeral is first looked for behind the word: "salary 50000", but "3 years". -/
def looksForward : Anchor → Bool
  | salary | age => true
  | years => false

/-- The kind of anchor that a stem belongs to, among those that are active. -/
def ofStem? (active : List Anchor) (stem : String) : Option Anchor :=
  all.find? fun anchor => active.contains anchor && anchor.stems.contains stem

end Anchor

/-- The anchors of a query with their places, from left to right. -/
def anchorPlaces (active : List Anchor) (tokens : List Token) : List (Nat × Anchor) :=
  tokens.zipIdx.filterMap fun (token, place) =>
    (Anchor.ofStem? active token.stem).map fun anchor => (place, anchor)

/-! ## Bindings -/

/-- A numeral that belongs to an anchor. -/
structure Binding where
  /-- The place of the anchor. -/
  anchor : Nat
  /-- The place of the numeral. -/
  numeral : Nat
  /-- The value of the numeral. -/
  value : Nat
  deriving DecidableEq, Repr

/-- At most one binding for each kind of anchor. -/
structure Bindings where
  /-- The binding of a kind, if it has one. -/
  get? : Anchor → Option Binding

namespace Bindings

/-- No anchor has a numeral. -/
def none : Bindings := ⟨fun _ => Option.none⟩

/-- Records the binding of a kind. -/
def set (bindings : Bindings) (anchor : Anchor) (binding : Binding) : Bindings :=
  ⟨fun a => if a = anchor then some binding else bindings.get? a⟩

/-- Whether the numeral at a place is taken. -/
def takes (bindings : Bindings) (place : Nat) : Bool :=
  Anchor.all.any fun anchor => (bindings.get? anchor).any fun binding => binding.numeral == place

@[simp] theorem get?_none (anchor : Anchor) : none.get? anchor = Option.none := rfl

@[simp] theorem set_self (bindings : Bindings) (anchor : Anchor) (binding : Binding) :
    (bindings.set anchor binding).get? anchor = some binding := by
  simp [set]

@[simp] theorem set_of_ne (bindings : Bindings) {anchor a : Anchor} (h : a ≠ anchor)
    (binding : Binding) : (bindings.set anchor binding).get? a = bindings.get? a := by
  simp [set, h]

end Bindings

/-! ## Searching for numerals -/

/-- The number of tokens searched on each side of an anchor, unless the settings say otherwise. -/
def defaultWindow : UInt64 := 4

/-- How far an anchor looks. -/
structure Binder where
  /-- The number of tokens searched on each side. -/
  window : UInt64
  /-- An anchor looks at its neighbours at least. -/
  window_pos : 0 < window.toNat

/-- The binder with a window, which is one if zero is asked for. -/
def Binder.ofWindow (window : UInt64) : Binder where
  window := if window = 0 then 1 else window
  window_pos := by
    split
    · decide
    · next h => exact Nat.pos_of_ne_zero fun hZero => h (UInt64.toNat_inj.mp hZero)

theorem Binder.window_ofWindow {window : UInt64} (h : 0 < window.toNat) :
    (Binder.ofWindow window).window = window := by
  apply if_neg
  rintro rfl
  exact absurd h (by decide)

namespace Binder

/-- The places behind an anchor that are searched, nearest first. -/
def placesAfter (binder : Binder) (count place : Nat) : List Nat :=
  let limit := min count (UInt64.ofNat (place + 1) + binder.window).toNat
  List.range' (place + 1) (limit - (place + 1))

/-- The places before an anchor that are searched, nearest first. -/
def placesBefore (binder : Binder) (place : Nat) : List Nat :=
  let first := place - binder.window.toNat
  (List.range' first (place - first)).reverse

/-- The two sides of an anchor in the order in which its kind searches them. -/
def sides (binder : Binder) (count : Nat) (anchor : Anchor) (place : Nat) : List (List Nat) :=
  if anchor.looksForward then [binder.placesAfter count place, binder.placesBefore place]
  else [binder.placesBefore place, binder.placesAfter count place]

/-- The numeral at a place. -/
def numeralAt? (tokens : List Token) (place : Nat) : Option Nat :=
  tokens[place]?.bind Token.numeral?

/-- The first free numeral on a side, not beyond the next anchor. -/
def freeNumeral? (tokens : List Token) (isAnchor isTaken : Nat → Bool) (side : List Nat) :
    Option (Nat × Nat) :=
  (side.takeWhile fun place => !isAnchor place).findSome? fun place =>
    if isTaken place then none else (numeralAt? tokens place).map fun value => (place, value)

/-- Lets one anchor take a numeral, if its kind has none yet. -/
def bindOne (binder : Binder) (tokens : List Token) (anchors : List (Nat × Anchor))
    (bindings : Bindings) (place : Nat) (anchor : Anchor) : Bindings :=
  if (bindings.get? anchor).isSome then bindings
  else
    let isAnchor := fun i => anchors.any fun other => other.1 == i
    match (binder.sides tokens.length anchor place).findSome?
        (freeNumeral? tokens isAnchor bindings.takes) with
    | some (numeral, value) => bindings.set anchor { anchor := place, numeral, value }
    | none => bindings

/-- The numerals that belong to the active anchors of a query. -/
def bind (binder : Binder) (tokens : List Token) (active : List Anchor) : Bindings :=
  let anchors := anchorPlaces active tokens
  anchors.foldl
    (fun bindings (place, anchor) => binder.bindOne tokens anchors bindings place anchor)
    Bindings.none

end Binder

end StaffSearch.Query
