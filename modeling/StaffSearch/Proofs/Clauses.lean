import StaffSearch.Proofs.Compilation
import StaffSearch.Proofs.SpacedWords

/-!
# Two numbers in one query

A clause such as "salary of at least 50,000" is an anchor, some fillers and a numeral.  A query with
a clause for the salary and one for the age gives each of them its own number, in either order and
whatever the fillers are (`ClauseTokens.bind_two`).

The binder is greedy, so the order of events matters.  The first anchor looks forward past its
fillers and takes the first numeral (`bindOne_forward`).  The second numeral lies behind the second
anchor, and no anchor looks beyond the next one.  When the second anchor looks forward in its turn,
its numeral is still free.  The window reaches far enough by assumption, and its end is computed
without overflow because the window and the number of tokens fit a 64-bit word together.
-/

namespace StaffSearch.Query

open StaffSearch.Text

/-! ## Searching forward -/

section Searching

variable {tokens : List Token} {isAnchor isTaken : Nat → Bool} {place value : Nat}

@[simp] theorem numeralAt?_append (front : List Token) (token : Token) (rest : List Token) :
    Binder.numeralAt? (front ++ token :: rest) front.length = token.numeral? := by
  simp [Binder.numeralAt?]

theorem freeNumeral?_cons_found (hAnchor : isAnchor place = false) (hTaken : isTaken place = false)
    (hValue : Binder.numeralAt? tokens place = some value) (side : List Nat) :
    Binder.freeNumeral? tokens isAnchor isTaken (place :: side) = some (place, value) := by
  simp [Binder.freeNumeral?, hAnchor, hTaken, hValue]

theorem freeNumeral?_cons_skipped (hAnchor : isAnchor place = false)
    (hNone : Binder.numeralAt? tokens place = none) (side : List Nat) :
    Binder.freeNumeral? tokens isAnchor isTaken (place :: side) =
      Binder.freeNumeral? tokens isAnchor isTaken side := by
  simp [Binder.freeNumeral?, hAnchor, hNone]

/-- The search goes past tokens that are no numerals and takes the first numeral. -/
theorem freeNumeral?_forward {numeral : Token} (hValue : numeral.numeral? = some value)
    (after fillers : List Token) :
    ∀ (front : List Token) (count : Nat), fillers.length < count →
      (∀ token ∈ fillers, token.numeral? = none) →
      (∀ place, front.length ≤ place → place ≤ front.length + fillers.length →
        isAnchor place = false) →
      isTaken (front.length + fillers.length) = false →
        Binder.freeNumeral? (front ++ (fillers ++ numeral :: after)) isAnchor isTaken
          (List.range' front.length count) = some (front.length + fillers.length, value) := by
  -- on the fillers; each one that is passed joins the tokens in front
  induction fillers with
  | nil =>
      intro front count hCount _ hAnchor hTaken
      obtain ⟨count, rfl⟩ : ∃ n, count = n + 1 := ⟨count - 1, by simp at hCount; omega⟩
      have hHere := hAnchor front.length (Nat.le_refl _) (Nat.le_add_right _ _)
      have hFound := numeralAt?_append front numeral after
      rw [hValue] at hFound
      rw [List.range'_succ]
      exact freeNumeral?_cons_found hHere hTaken hFound _
  | cons filler fillers ih =>
      intro front count hCount hFillers hAnchor hTaken
      rw [List.length_cons] at hCount hAnchor hTaken
      obtain ⟨count, rfl⟩ : ∃ n, count = n + 1 := ⟨count - 1, by omega⟩
      have hHere := hAnchor front.length (Nat.le_refl _) (by omega)
      have hNone := numeralAt?_append front filler (fillers ++ numeral :: after)
      rw [hFillers filler List.mem_cons_self] at hNone
      have hLength : (front ++ [filler]).length = front.length + 1 := by
        rw [List.length_append, List.length_singleton]
      have hPlace : front.length + 1 + fillers.length = front.length + (fillers.length + 1) := by
        omega
      have hRest := ih (front ++ [filler]) count (by omega)
        (fun token hMem => hFillers token (List.mem_cons_of_mem _ hMem))
        (fun place hFrom hTo => hAnchor place (by omega) (by omega))
        (by rw [hLength, hPlace]; exact hTaken)
      rw [hLength, hPlace, List.append_assoc, List.singleton_append] at hRest
      rw [List.range'_succ, List.cons_append, freeNumeral?_cons_skipped hHere hNone, hRest]
      rfl

end Searching

/-! ## Binding one anchor -/

section Binding

variable {binder : Binder} {anchors : List (Nat × Anchor)} {bindings : Bindings}

/-- The window of an anchor ends where it should when the numbers stay within a 64-bit word. -/
theorem placesAfter_eq {place : Nat} (count : Nat)
    (hSize : place + 1 + binder.window.toNat < 2 ^ 64) :
    binder.placesAfter count place =
      List.range' (place + 1) (min (count - (place + 1)) binder.window.toNat) := by
  have hNext : (UInt64.ofNat (place + 1)).toNat = place + 1 := by
    rw [UInt64.toNat_ofNat']
    exact Nat.mod_eq_of_lt (by omega)
  have hEnd : (UInt64.ofNat (place + 1) + binder.window).toNat =
      place + 1 + binder.window.toNat := by
    rw [UInt64.toNat_add, hNext]
    exact Nat.mod_eq_of_lt (by omega)
  rw [Binder.placesAfter, hEnd]
  congr 1
  omega

/-- **An anchor takes the first numeral behind it**, when the tokens between are no numerals, no
anchor stands between, the numeral is free and the window reaches it. -/
theorem bindOne_forward {front fillers after : List Token} {word numeral : Token} {anchor : Anchor}
    {value : Nat} (hForward : anchor.looksForward = true) (hFree : bindings.get? anchor = none)
    (hFillers : ∀ token ∈ fillers, token.numeral? = none) (hValue : numeral.numeral? = some value)
    (hAnchors : ∀ other ∈ anchors, other.1 ≤ front.length ∨
      front.length + 1 + fillers.length < other.1)
    (hTaken : bindings.takes (front.length + 1 + fillers.length) = false)
    (hNear : fillers.length < binder.window.toNat)
    (hSize : front.length + 1 + binder.window.toNat < 2 ^ 64) :
    binder.bindOne (front ++ word :: (fillers ++ numeral :: after)) anchors bindings front.length
        anchor =
      bindings.set anchor
        { anchor := front.length, numeral := front.length + 1 + fillers.length, value } := by
  have hFront : (front ++ [word]).length = front.length + 1 := by
    rw [List.length_append, List.length_singleton]
  have hCount : (front ++ word :: (fillers ++ numeral :: after)).length =
      front.length + 1 + fillers.length + 1 + after.length := by
    simp only [List.length_append, List.length_cons]
    omega
  have hSplit : front ++ word :: (fillers ++ numeral :: after) =
      (front ++ [word]) ++ (fillers ++ numeral :: after) := by simp
  have hNoAnchor : ∀ place, front.length + 1 ≤ place →
      place ≤ front.length + 1 + fillers.length →
        (anchors.any fun other => other.1 == place) = false := by
    intro place hFrom hTo
    rw [List.any_eq_false]
    intro other hMem hSame
    have hPlace : other.1 = place := beq_iff_eq.mp hSame
    rcases hAnchors other hMem with hBefore | hBehind <;> omega
  have hFound := freeNumeral?_forward hValue after fillers (front ++ [word])
    (min ((front ++ word :: (fillers ++ numeral :: after)).length - (front.length + 1))
      binder.window.toNat)
    (by rw [hCount]; omega) hFillers
    (by rw [hFront]; exact hNoAnchor) (by rw [hFront]; exact hTaken)
  rw [hFront, ← hSplit, ← placesAfter_eq _ hSize] at hFound
  have hUnbound : ¬ (bindings.get? anchor).isSome = true := by
    rw [hFree]
    exact Bool.false_ne_true
  rw [Binder.bindOne, if_neg hUnbound]
  dsimp only
  rw [Binder.sides, if_pos hForward, List.findSome?_cons, hFound]

end Binding

/-! ## Binding two anchors -/

section TwoAnchors

variable {active : List Anchor} {word : Token} {anchor : Anchor}

/-- The anchors of a list of tokens, places being counted from `start`. -/
def anchorPlacesFrom (active : List Anchor) (start : Nat) (tokens : List Token) :
    List (Nat × Anchor) :=
  (tokens.zipIdx start).filterMap fun (token, place) =>
    (Anchor.ofStem? active token.stem).map fun anchor => (place, anchor)

theorem anchorPlacesFrom_quiet (quiet : List Token)
    (hQuiet : ∀ token ∈ quiet, Anchor.ofStem? active token.stem = none) (rest : List Token) :
    ∀ start, anchorPlacesFrom active start (quiet ++ rest) =
      anchorPlacesFrom active (start + quiet.length) rest := by
  induction quiet with
  | nil =>
      intro start
      rfl
  | cons token quiet ih =>
      intro start
      have hRest := ih (fun other hMem => hQuiet other (List.mem_cons_of_mem _ hMem)) (start + 1)
      have hLength : start + 1 + quiet.length = start + (token :: quiet).length := by
        rw [List.length_cons]
        omega
      rw [hLength] at hRest
      rw [← hRest, anchorPlacesFrom, List.cons_append, List.zipIdx_cons,
        List.filterMap_cons_none]
      · rfl
      · simp only [hQuiet token List.mem_cons_self, Option.map_none]

theorem anchorPlacesFrom_anchor (hWord : Anchor.ofStem? active word.stem = some anchor)
    (start : Nat) (rest : List Token) :
    anchorPlacesFrom active start (word :: rest) =
      (start, anchor) :: anchorPlacesFrom active (start + 1) rest := by
  rw [anchorPlacesFrom, List.zipIdx_cons, List.filterMap_cons_some]
  · rfl
  · simp only [hWord, Option.map_some]

theorem takes_set_none {binding : Binding} {place : Nat} (h : binding.numeral ≠ place) :
    (Bindings.none.set anchor binding).takes place = false := by
  rw [Bindings.takes, List.any_eq_false]
  intro a _
  by_cases hSame : a = anchor
  · subst hSame
    simp [h]
  · simp [hSame]

end TwoAnchors

/-- The tokens of a clause: an anchor that looks forward, fillers, and a numeral.  Nothing behind
the anchor is an anchor, and no filler is a numeral. -/
structure ClauseTokens (active : List Anchor) where
  anchor : Anchor
  value : Nat
  word : Token
  fillers : List Token
  numeral : Token
  looksForward : anchor.looksForward = true
  isAnchor : Anchor.ofStem? active word.stem = some anchor
  areQuiet : ∀ token ∈ fillers ++ [numeral], Anchor.ofStem? active token.stem = none
  areNoNumerals : ∀ token ∈ fillers, token.numeral? = none
  hasValue : numeral.numeral? = some value

namespace ClauseTokens

variable {active : List Anchor} {binder : Binder}

/-- The tokens of the clause in order. -/
def tokens (clause : ClauseTokens active) : List Token :=
  clause.word :: (clause.fillers ++ [clause.numeral])

@[simp] theorem length_tokens (clause : ClauseTokens active) :
    clause.tokens.length = clause.fillers.length + 2 := by
  rw [tokens, List.length_cons, List.length_append, List.length_singleton]

/-- The only anchor of a clause is its first token. -/
theorem anchorPlacesFrom_tokens (clause : ClauseTokens active) (start : Nat) (rest : List Token) :
    anchorPlacesFrom active start (clause.tokens ++ rest) =
      (start, clause.anchor) ::
        anchorPlacesFrom active (start + clause.tokens.length) rest := by
  have hLength : start + 1 + (clause.fillers ++ [clause.numeral]).length =
      start + clause.tokens.length := by
    rw [tokens, List.length_cons]
    omega
  rw [tokens, List.cons_append, anchorPlacesFrom_anchor clause.isAnchor,
    anchorPlacesFrom_quiet _ clause.areQuiet, hLength]
  rfl

/-- The binding that a clause at a place asks for. -/
def bindingAt (clause : ClauseTokens active) (place : Nat) : Binding :=
  { anchor := place, numeral := place + 1 + clause.fillers.length, value := clause.value }

/-- The anchor of a clause takes the numeral of the clause, if that is free. -/
theorem bindOne_tokens (clause : ClauseTokens active) {front behind all : List Token}
    {anchors : List (Nat × Anchor)} {bindings : Bindings}
    (hAll : all = front ++ (clause.tokens ++ behind))
    (hFree : bindings.get? clause.anchor = none)
    (hAnchors : ∀ other ∈ anchors, other.1 ≤ front.length ∨
      front.length + clause.tokens.length ≤ other.1)
    (hTaken : bindings.takes (clause.bindingAt front.length).numeral = false)
    (hNear : clause.fillers.length < binder.window.toNat)
    (hSize : binder.window.toNat + all.length < 2 ^ 64) :
    binder.bindOne all anchors bindings front.length clause.anchor =
      bindings.set clause.anchor (clause.bindingAt front.length) := by
  have hSplit : all =
      front ++ clause.word :: (clause.fillers ++ clause.numeral :: behind) := by
    simp [hAll, tokens]
  have hLength := clause.length_tokens
  have hEnd : front.length + 1 + binder.window.toNat < 2 ^ 64 := by
    rw [hAll, List.length_append, List.length_append] at hSize
    omega
  rw [hSplit]
  apply bindOne_forward clause.looksForward hFree clause.areNoNumerals clause.hasValue ?_ hTaken
    hNear hEnd
  intro other hMem
  rcases hAnchors other hMem with hBefore | hBehind
  · exact Or.inl hBefore
  · right
    omega

/-- **Two anchors take the numerals behind them**, each its own. -/
theorem bind_two {first second : ClauseTokens active} {before between after : List Token}
    (hKinds : first.anchor ≠ second.anchor)
    (hBefore : ∀ token ∈ before, Anchor.ofStem? active token.stem = none)
    (hBetween : ∀ token ∈ between, Anchor.ofStem? active token.stem = none)
    (hAfter : ∀ token ∈ after, Anchor.ofStem? active token.stem = none)
    (hFirst : first.fillers.length < binder.window.toNat)
    (hSecond : second.fillers.length < binder.window.toNat) {all : List Token}
    (hAll : all = before ++ (first.tokens ++ (between ++ (second.tokens ++ after))))
    (hSize : binder.window.toNat + all.length < 2 ^ 64) :
    ((binder.bind all active).get? first.anchor).map (·.value) = some first.value ∧
      ((binder.bind all active).get? second.anchor).map (·.value) = some second.value := by
  have hLength := first.length_tokens
  have hFront : (before ++ (first.tokens ++ between)).length =
      before.length + first.tokens.length + between.length := by
    rw [List.length_append, List.length_append, Nat.add_assoc]
  have hPlaces : anchorPlaces active all = [(before.length, first.anchor),
      ((before ++ (first.tokens ++ between)).length, second.anchor)] := by
    have hEnd := anchorPlacesFrom_quiet after hAfter []
    rw [List.append_nil] at hEnd
    change anchorPlacesFrom active 0 all = _
    rw [hAll, hFront, anchorPlacesFrom_quiet before hBefore, first.anchorPlacesFrom_tokens,
      anchorPlacesFrom_quiet between hBetween, second.anchorPlacesFrom_tokens, hEnd, Nat.zero_add]
    rfl
  have hOne : binder.bindOne all (anchorPlaces active all) Bindings.none before.length
      first.anchor = Bindings.none.set first.anchor (first.bindingAt before.length) := by
    apply first.bindOne_tokens hAll rfl ?_ rfl hFirst hSize
    intro other hMem
    rw [hPlaces] at hMem
    simp only [List.mem_cons, List.not_mem_nil, or_false] at hMem
    rcases hMem with rfl | rfl
    · exact Or.inl (Nat.le_refl _)
    · right
      rw [hFront]
      omega
  have hTwo : binder.bindOne all (anchorPlaces active all)
      (Bindings.none.set first.anchor (first.bindingAt before.length))
      (before ++ (first.tokens ++ between)).length second.anchor =
        (Bindings.none.set first.anchor (first.bindingAt before.length)).set second.anchor
          (second.bindingAt (before ++ (first.tokens ++ between)).length) := by
    have hSplit : all = (before ++ (first.tokens ++ between)) ++ (second.tokens ++ after) := by
      rw [hAll]
      simp only [List.append_assoc]
    apply second.bindOne_tokens hSplit ?_ ?_ ?_ hSecond hSize
    · exact Bindings.set_of_ne _ hKinds.symm _
    · intro other hMem
      rw [hPlaces] at hMem
      simp only [List.mem_cons, List.not_mem_nil, or_false] at hMem
      left
      rcases hMem with rfl | rfl
      · rw [hFront]
        omega
      · exact Nat.le_refl _
    · -- the numeral of the first clause lies in front of the second clause
      apply takes_set_none
      rw [bindingAt, bindingAt, hFront]
      dsimp only
      omega
  have hBind : binder.bind all active =
      (Bindings.none.set first.anchor (first.bindingAt before.length)).set second.anchor
        (second.bindingAt (before ++ (first.tokens ++ between)).length) := by
    rw [← hTwo, ← hOne, Binder.bind]
    dsimp only
    rw [hPlaces]
    rfl
  rw [hBind]
  constructor
  · simp [hKinds, bindingAt]
  · simp [bindingAt]

end ClauseTokens

end StaffSearch.Query
