import StaffSearch.Proofs.NumberQueries

/-!
# Bindings as a stable assignment

The binder is greedy: it visits anchors from left to right and gives each kind the first free
numeral it comes across.  What it returns can be said without an order of visits.  An anchor reaches
the numerals within its window that no anchor cuts off, and likes some of them better than others.
An assignment is stable if an anchor goes without a numeral it would rather have only where an
anchor further to the left has that numeral (`IsStableBefore`, `IsStable`).

The binder's assignment is stable, and no other one is (`isStable_iff_eq_bind`).

* An anchor searches exactly the places it reaches (`mem_searched_iff`), in the order of its
  preferences (`searched_pairwise`).  So it takes the best numeral that is still free
  (`best_of_found?_eq_some`), and if it takes none, none is free (`takes_of_found?_eq_none`).
* For existence, stability before a place is the invariant of the fold: a token that is no anchor
  and an anchor both move it one place to the right (`IsStableBefore.succ`,
  `isStableBefore_bindOne`).
* For uniqueness, two stable assignments agree on the anchors before a place by induction on that
  place (`IsStable.get?_iff`): where they part, a numeral would belong to two kinds.
-/

namespace StaffSearch.Query

/-! ## Stable assignments -/

/-- The token at a place is a word of the kind. -/
def IsAnchorOf (tokens : List Token) (anchor : Anchor) (place : Nat) : Prop :=
  ∃ token, tokens[place]? = some token ∧ token.stem ∈ anchor.stems

/-- The token at a place is a word of an active kind. -/
def IsActiveAnchor (tokens : List Token) (active : List Anchor) (place : Nat) : Prop :=
  ∃ anchor ∈ active, IsAnchorOf tokens anchor place

/-- The token at a place is a numeral. -/
def IsNumeralAt (tokens : List Token) (place : Nat) : Prop :=
  ∃ value, Binder.numeralAt? tokens place = some value

/-- The anchor at `place` reaches the token at `target`: they are at most `window` places apart, and
neither that token nor one between them is an active anchor. -/
structure Reaches (tokens : List Token) (window : Nat) (active : List Anchor)
    (place target : Nat) : Prop where
  isNear : target ≤ place + window ∧ place ≤ target + window
  isClear : ∀ i, i = target ∨ (place < i ∧ i < target) ∨ (target < i ∧ i < place) →
    ¬ IsActiveAnchor tokens active i

/-- The token at `target` is on the side of `place` that the kind searches first. -/
def Anchor.SearchesFirst (anchor : Anchor) (place target : Nat) : Prop :=
  if anchor.looksForward then place < target else target < place

/-- The kind, standing at `place`, would rather have the numeral at `better` than that at `other`:
the side that it searches first counts most, and on one side the nearer numeral does. -/
def Anchor.Prefers (anchor : Anchor) (place better other : Nat) : Prop :=
  (anchor.SearchesFirst place better ∧ ¬ anchor.SearchesFirst place other) ∨
    ((anchor.SearchesFirst place better ↔ anchor.SearchesFirst place other) ∧
      (better - place) + (place - better) < (other - place) + (place - other))

/-- The numeral at a place belongs to a kind whose anchor stands before `limit`. -/
def Bindings.TakesBefore (bindings : Bindings) (limit numeral : Nat) : Prop :=
  ∃ anchor binding, bindings.get? anchor = some binding ∧ binding.numeral = numeral ∧
    binding.anchor < limit

/-- An assignment of numerals to kinds that is stable as far as the anchors before `limit` go. -/
structure IsStableBefore (tokens : List Token) (window : Nat) (active : List Anchor) (limit : Nat)
    (bindings : Bindings) : Prop where
  /-- A binding is made of an anchor of its kind, which is active, and a numeral in reach. -/
  isSound : ∀ {anchor binding}, bindings.get? anchor = some binding →
    anchor ∈ active ∧ IsAnchorOf tokens anchor binding.anchor ∧
      Binder.numeralAt? tokens binding.numeral = some binding.value ∧
      Reaches tokens window active binding.anchor binding.numeral
  /-- Only anchors before the limit have numerals. -/
  isBefore : ∀ {anchor binding}, bindings.get? anchor = some binding → binding.anchor < limit
  /-- No two kinds share a numeral. -/
  areApart : ∀ {anchor other binding another}, bindings.get? anchor = some binding →
    bindings.get? other = some another → binding.numeral = another.numeral → anchor = other
  /-- What an anchor would rather have had belongs to one before it. -/
  isBest : ∀ {anchor binding}, bindings.get? anchor = some binding → ∀ numeral,
    IsNumeralAt tokens numeral → Reaches tokens window active binding.anchor numeral →
      anchor.Prefers binding.anchor numeral binding.numeral →
        bindings.TakesBefore binding.anchor numeral
  /-- What an earlier anchor of the same kind reaches belongs to one before that. -/
  isFirst : ∀ {anchor binding}, bindings.get? anchor = some binding → ∀ place,
    IsAnchorOf tokens anchor place → place < binding.anchor → ∀ numeral,
      IsNumeralAt tokens numeral → Reaches tokens window active place numeral →
        bindings.TakesBefore place numeral
  /-- What an anchor of a kind without a numeral reaches belongs to one before it. -/
  isLeft : ∀ {anchor}, anchor ∈ active → bindings.get? anchor = none → ∀ place,
    IsAnchorOf tokens anchor place → place < limit → ∀ numeral,
      IsNumeralAt tokens numeral → Reaches tokens window active place numeral →
        bindings.TakesBefore place numeral

/-- An assignment of numerals to kinds that is stable for all anchors. -/
def IsStable (tokens : List Token) (window : Nat) (active : List Anchor) (bindings : Bindings) :
    Prop :=
  IsStableBefore tokens window active tokens.length bindings

/-! ## Anchors -/

section Anchors

variable {tokens : List Token} {active : List Anchor} {anchor : Anchor} {place : Nat}

/-- No stem belongs to two kinds. -/
theorem stems_disjoint : ∀ anchor ∈ Anchor.all, ∀ other ∈ Anchor.all, ∀ text ∈ anchor.stems,
    text ∈ other.stems → anchor = other := by decide +kernel

theorem ofStem?_eq_some_iff {stem : String} :
    Anchor.ofStem? active stem = some anchor ↔ anchor ∈ active ∧ stem ∈ anchor.stems := by
  have hTest : ∀ other : Anchor, (active.contains other && other.stems.contains stem) = true ↔
      other ∈ active ∧ stem ∈ other.stems := by
    intro other
    rw [Bool.and_eq_true, List.contains_iff_mem, List.contains_iff_mem]
  have hFound : ∀ other, Anchor.ofStem? active stem = some other →
      other ∈ active ∧ stem ∈ other.stems := by
    intro other h
    rw [Anchor.ofStem?] at h
    have hBoth := List.find?_some h
    exact (hTest other).mp hBoth
  constructor
  · exact hFound anchor
  · rintro ⟨hActive, hStem⟩
    have hSome : (Anchor.ofStem? active stem).isSome = true := by
      rw [Anchor.ofStem?, List.find?_isSome]
      exact ⟨anchor, anchor.mem_all, (hTest anchor).mpr ⟨hActive, hStem⟩⟩
    obtain ⟨other, hOther⟩ := Option.isSome_iff_exists.mp hSome
    have hOtherStem := (hFound other hOther).2
    rw [hOther, stems_disjoint other other.mem_all anchor anchor.mem_all stem hOtherStem hStem]

theorem mem_anchorPlaces_iff :
    (place, anchor) ∈ anchorPlaces active tokens ↔
      anchor ∈ active ∧ IsAnchorOf tokens anchor place := by
  rw [anchorPlaces, List.mem_filterMap]
  constructor
  · rintro ⟨⟨token, i⟩, hMem, hFound⟩
    obtain ⟨other, hOther, hPair⟩ := Option.map_eq_some_iff.mp hFound
    cases hPair
    obtain ⟨hActive, hStem⟩ := ofStem?_eq_some_iff.mp hOther
    exact ⟨hActive, token, List.mem_zipIdx_iff_getElem?.mp hMem, hStem⟩
  · rintro ⟨hActive, token, hToken, hStem⟩
    refine ⟨(token, place), List.mem_zipIdx_iff_getElem?.mpr hToken, ?_⟩
    dsimp only
    rw [ofStem?_eq_some_iff.mpr ⟨hActive, hStem⟩]
    rfl

theorem any_anchorPlaces_iff :
    (anchorPlaces active tokens).any (fun other => other.1 == place) = true ↔
      IsActiveAnchor tokens active place := by
  rw [List.any_eq_true]
  constructor
  · rintro ⟨⟨i, anchor⟩, hMem, hSame⟩
    rw [beq_iff_eq] at hSame
    subst hSame
    exact ⟨anchor, mem_anchorPlaces_iff.mp hMem⟩
  · rintro ⟨anchor, hAnchor⟩
    exact ⟨(place, anchor), mem_anchorPlaces_iff.mpr hAnchor, beq_self_eq_true place⟩

theorem IsAnchorOf.lt_length (h : IsAnchorOf tokens anchor place) : place < tokens.length := by
  obtain ⟨token, hToken, -⟩ := h
  exact (List.getElem?_eq_some_iff.mp hToken).1

theorem IsNumeralAt.lt_length (h : IsNumeralAt tokens place) : place < tokens.length := by
  obtain ⟨value, hValue⟩ := h
  obtain ⟨token, hToken, -⟩ := Option.bind_eq_some_iff.mp hValue
  exact (List.getElem?_eq_some_iff.mp hToken).1

/-- An anchor reaches no active anchor, and so not itself. -/
theorem Reaches.ne {window target : Nat} (h : Reaches tokens window active place target)
    (hActive : anchor ∈ active) (hAnchor : IsAnchorOf tokens anchor place) : target ≠ place := by
  rintro rfl
  exact h.isClear target (Or.inl rfl) ⟨anchor, hActive, hAnchor⟩

/-- Of two numerals, an anchor would rather have one. -/
theorem Anchor.prefers_or_prefers (anchor : Anchor) {one other : Nat} (hNe : one ≠ other)
    (hOne : one ≠ place) (hOther : other ≠ place) :
    anchor.Prefers place one other ∨ anchor.Prefers place other one := by
  unfold Anchor.Prefers Anchor.SearchesFirst
  split <;> omega

/-- If an anchor would rather have one numeral, it would not rather have the other. -/
theorem Anchor.Prefers.asymm {one other : Nat} (h : anchor.Prefers place one other) :
    ¬ anchor.Prefers place other one := by
  unfold Anchor.Prefers Anchor.SearchesFirst at h ⊢
  cases hForward : anchor.looksForward <;>
    simp only [hForward, Bool.false_eq_true, if_true, if_false] at h ⊢ <;> omega

end Anchors

/-! ## What an anchor searches -/

section Searching

variable {binder : Binder} {tokens : List Token} {active : List Anchor} {anchor : Anchor}
  {place : Nat}

/-- In an ordered list, `takeWhile` keeps what stands before the first element that fails. -/
theorem mem_takeWhile_iff {R : Nat → Nat → Prop} (hAsymm : ∀ {i j}, R i j → ¬ R j i)
    {keeps : Nat → Bool} {target : Nat} {places : List Nat} (hOrder : places.Pairwise R) :
    target ∈ places.takeWhile keeps ↔
      target ∈ places ∧ keeps target = true ∧
        ∀ i ∈ places, R i target → keeps i = true := by
  induction places with
  | nil => simp
  | cons first places ih =>
      obtain ⟨hFirst, hRest⟩ := List.pairwise_cons.mp hOrder
      by_cases hKeeps : keeps first = true
      · rw [List.takeWhile_cons_of_pos hKeeps, List.mem_cons, ih hRest, List.forall_mem_cons]
        constructor
        · rintro (rfl | ⟨hMem, hTarget, hBefore⟩)
          · exact ⟨List.mem_cons_self, hKeeps, fun _ => hKeeps,
              fun i hMem hBefore => absurd hBefore (hAsymm (hFirst i hMem))⟩
          · exact ⟨List.mem_cons_of_mem _ hMem, hTarget, fun _ => hKeeps, hBefore⟩
        · rintro ⟨hMem, hTarget, -, hBefore⟩
          rcases List.mem_cons.mp hMem with rfl | hMem
          · exact Or.inl rfl
          · exact Or.inr ⟨hMem, hTarget, hBefore⟩
      · rw [List.takeWhile_cons_of_neg hKeeps, List.forall_mem_cons]
        constructor
        · intro hMem
          exact absurd hMem List.not_mem_nil
        · rintro ⟨hMem, hTarget, hHead, -⟩
          rcases List.mem_cons.mp hMem with rfl | hMem
          · exact absurd hTarget hKeeps
          · exact absurd (hHead (hFirst target hMem)) hKeeps

/-- The places that an anchor searches, in order. -/
def Binder.searched (binder : Binder) (isAnchor : Nat → Bool) (count : Nat) (anchor : Anchor)
    (place : Nat) : List Nat :=
  (binder.sides count anchor place).flatMap (List.takeWhile fun i => !isAnchor i)

/-- The numeral at a place, if it is free. -/
def Binder.freeAt? (tokens : List Token) (isTaken : Nat → Bool) (place : Nat) :
    Option (Nat × Nat) :=
  if isTaken place then none
  else (Binder.numeralAt? tokens place).map fun value => (place, value)

theorem freeNumeral?_eq (isAnchor isTaken : Nat → Bool) (side : List Nat) :
    Binder.freeNumeral? tokens isAnchor isTaken side =
      (side.takeWhile fun i => !isAnchor i).findSome? (Binder.freeAt? tokens isTaken) := rfl

theorem findSome?_freeNumeral? (isAnchor isTaken : Nat → Bool) (sides : List (List Nat)) :
    sides.findSome? (Binder.freeNumeral? tokens isAnchor isTaken) =
      (sides.flatMap (List.takeWhile fun i => !isAnchor i)).findSome?
        (Binder.freeAt? tokens isTaken) := by
  induction sides with
  | nil => rfl
  | cons side sides ih =>
      rw [List.findSome?_cons, List.flatMap_cons, List.findSome?_append, ih, ← freeNumeral?_eq]
      cases Binder.freeNumeral? tokens isAnchor isTaken side <;> rfl

theorem mem_placesBefore_iff {target : Nat} :
    target ∈ binder.placesBefore place ↔
      target < place ∧ place ≤ target + binder.window.toNat := by
  rw [Binder.placesBefore, List.mem_reverse, List.mem_range'_1]
  omega

theorem mem_placesAfter_iff {count target : Nat} (hPlace : place < count)
    (hSize : binder.window.toNat + count < 2 ^ 64) :
    target ∈ binder.placesAfter count place ↔
      target < count ∧ place < target ∧ target ≤ place + binder.window.toNat := by
  rw [placesAfter_eq count (by omega), List.mem_range'_1]
  omega

theorem placesBefore_pairwise : (binder.placesBefore place).Pairwise (· > ·) := by
  rw [Binder.placesBefore, List.pairwise_reverse]
  exact List.pairwise_lt_range'

theorem placesAfter_pairwise {count : Nat} : (binder.placesAfter count place).Pairwise (· < ·) :=
  List.pairwise_lt_range'

variable {isAnchor : Nat → Bool}

/-- On the side behind it, an anchor searches the places that it reaches. -/
theorem mem_takeWhile_placesAfter_iff (target : Nat) (hPlace : place < tokens.length)
    (hSize : binder.window.toNat + tokens.length < 2 ^ 64)
    (hAnchors : ∀ i, isAnchor i = true ↔ IsActiveAnchor tokens active i) :
    target ∈ (binder.placesAfter tokens.length place).takeWhile (fun i => !isAnchor i) ↔
      target < tokens.length ∧ place < target ∧
        Reaches tokens binder.window.toNat active place target := by
  rw [mem_takeWhile_iff (by omega) placesAfter_pairwise, mem_placesAfter_iff hPlace hSize]
  simp only [Bool.not_eq_true', Bool.eq_false_iff, ne_eq, hAnchors]
  constructor
  · rintro ⟨⟨hLength, hBehind, hNear⟩, hTarget, hBetween⟩
    refine ⟨hLength, hBehind, ⟨hNear, by omega⟩, ?_⟩
    rintro i (rfl | ⟨hFrom, hTo⟩ | ⟨hFrom, hTo⟩)
    · exact hTarget
    · exact hBetween i ((mem_placesAfter_iff hPlace hSize).mpr (by omega)) hTo
    · omega
  · rintro ⟨hLength, hBehind, hReaches⟩
    refine ⟨⟨hLength, hBehind, hReaches.isNear.1⟩, hReaches.isClear target (Or.inl rfl), ?_⟩
    intro i hMem hTo
    have hFrom := ((mem_placesAfter_iff hPlace hSize).mp hMem).2.1
    exact hReaches.isClear i (Or.inr (Or.inl ⟨hFrom, hTo⟩))

/-- On the side before it, an anchor searches the places that it reaches. -/
theorem mem_takeWhile_placesBefore_iff (binder : Binder) (target : Nat)
    (hPlace : place < tokens.length)
    (hAnchors : ∀ i, isAnchor i = true ↔ IsActiveAnchor tokens active i) :
    target ∈ (binder.placesBefore place).takeWhile (fun i => !isAnchor i) ↔
      target < tokens.length ∧ target < place ∧
        Reaches tokens binder.window.toNat active place target := by
  rw [mem_takeWhile_iff (by omega) placesBefore_pairwise, mem_placesBefore_iff]
  simp only [Bool.not_eq_true', Bool.eq_false_iff, ne_eq, hAnchors]
  constructor
  · rintro ⟨⟨hBefore, hNear⟩, hTarget, hBetween⟩
    refine ⟨by omega, hBefore, ⟨by omega, hNear⟩, ?_⟩
    rintro i (rfl | ⟨hFrom, hTo⟩ | ⟨hFrom, hTo⟩)
    · exact hTarget
    · omega
    · exact hBetween i (mem_placesBefore_iff.mpr (by omega)) hFrom
  · rintro ⟨-, hBefore, hReaches⟩
    refine ⟨⟨hBefore, hReaches.isNear.2⟩, hReaches.isClear target (Or.inl rfl), ?_⟩
    intro i hMem hFrom
    have hTo := (mem_placesBefore_iff.mp hMem).1
    exact hReaches.isClear i (Or.inr (Or.inr ⟨hFrom, hTo⟩))

/-- **An anchor searches exactly the places that it reaches.** -/
theorem mem_searched_iff (target : Nat) (hActive : anchor ∈ active)
    (hAnchor : IsAnchorOf tokens anchor place)
    (hSize : binder.window.toNat + tokens.length < 2 ^ 64)
    (hAnchors : ∀ i, isAnchor i = true ↔ IsActiveAnchor tokens active i) :
    target ∈ binder.searched isAnchor tokens.length anchor place ↔
      target < tokens.length ∧ Reaches tokens binder.window.toNat active place target := by
  have hAfter := mem_takeWhile_placesAfter_iff target hAnchor.lt_length hSize hAnchors
  have hBefore := mem_takeWhile_placesBefore_iff binder target hAnchor.lt_length hAnchors
  have hSides : target ∈ binder.searched isAnchor tokens.length anchor place ↔
      target ∈ (binder.placesAfter tokens.length place).takeWhile (fun i => !isAnchor i) ∨
        target ∈ (binder.placesBefore place).takeWhile (fun i => !isAnchor i) := by
    rw [Binder.searched, Binder.sides]
    split
    · simp
    · simp [or_comm]
  rw [hSides, hAfter, hBefore]
  constructor
  · rintro (⟨hLength, -, hReaches⟩ | ⟨hLength, -, hReaches⟩) <;> exact ⟨hLength, hReaches⟩
  · rintro ⟨hLength, hReaches⟩
    rcases Nat.lt_or_gt_of_ne (hReaches.ne hActive hAnchor) with hLt | hGt
    · exact Or.inr ⟨hLength, hLt, hReaches⟩
    · exact Or.inl ⟨hLength, hGt, hReaches⟩

/-- The two sides of an anchor, one behind the other, are in the order of its preferences. -/
theorem sides_pairwise {count : Nat} (hPlace : place < count)
    (hSize : binder.window.toNat + count < 2 ^ 64) :
    (binder.sides count anchor place).flatten.Pairwise (anchor.Prefers place) := by
  have hAfter : ∀ i ∈ binder.placesAfter count place, place < i := fun i hMem =>
    ((mem_placesAfter_iff hPlace hSize).mp hMem).2.1
  have hBefore : ∀ i ∈ binder.placesBefore place, i < place := fun i hMem =>
    (mem_placesBefore_iff.mp hMem).1
  have hAfterOrder : (binder.placesAfter count place).Pairwise (anchor.Prefers place) := by
    apply placesAfter_pairwise.imp_of_mem
    intro i j hi hj hNearer
    have hiAfter := hAfter i hi
    have hjAfter := hAfter j hj
    unfold Anchor.Prefers Anchor.SearchesFirst
    split <;> omega
  have hBeforeOrder : (binder.placesBefore place).Pairwise (anchor.Prefers place) := by
    apply placesBefore_pairwise.imp_of_mem
    intro i j hi hj hNearer
    have hiBefore := hBefore i hi
    have hjBefore := hBefore j hj
    unfold Anchor.Prefers Anchor.SearchesFirst
    split <;> omega
  rw [Binder.sides]
  split
  · next hForward =>
      rw [List.flatten_cons, List.flatten_singleton, List.pairwise_append]
      refine ⟨hAfterOrder, hBeforeOrder, fun i hi j hj => Or.inl ?_⟩
      rw [Anchor.SearchesFirst, Anchor.SearchesFirst, if_pos hForward, if_pos hForward]
      exact ⟨hAfter i hi, Nat.lt_asymm (hBefore j hj)⟩
  · next hForward =>
      rw [List.flatten_cons, List.flatten_singleton, List.pairwise_append]
      refine ⟨hBeforeOrder, hAfterOrder, fun i hi j hj => Or.inl ?_⟩
      rw [Anchor.SearchesFirst, Anchor.SearchesFirst, if_neg hForward, if_neg hForward]
      exact ⟨hBefore i hi, Nat.lt_asymm (hAfter j hj)⟩

/-- An anchor searches places in the order of its preferences. -/
theorem searched_pairwise (anchor : Anchor) (isAnchor : Nat → Bool) {count : Nat}
    (hPlace : place < count) (hSize : binder.window.toNat + count < 2 ^ 64) :
    (binder.searched isAnchor count anchor place).Pairwise (anchor.Prefers place) := by
  have hSublist : ∀ sides : List (List Nat),
      (sides.flatMap (List.takeWhile fun i => !isAnchor i)).Sublist sides.flatten := by
    intro sides
    induction sides with
    | nil => exact List.Sublist.refl _
    | cons side sides ih =>
        rw [List.flatMap_cons, List.flatten_cons]
        exact (List.takeWhile_sublist _).append ih
  exact (sides_pairwise hPlace hSize).sublist (hSublist _)

end Searching

/-! ## What an anchor takes -/

section Taking

variable {binder : Binder} {tokens : List Token} {active : List Anchor} {anchor : Anchor}
  {bindings : Bindings} {place : Nat}

theorem takes_iff {numeral : Nat} : bindings.takes numeral = true ↔
    ∃ anchor binding, bindings.get? anchor = some binding ∧ binding.numeral = numeral := by
  rw [Bindings.takes, List.any_eq_true]
  constructor
  · rintro ⟨anchor, -, hAny⟩
    obtain ⟨binding, hBinding, hSame⟩ := Option.any_eq_true _ _ |>.mp hAny
    exact ⟨anchor, binding, hBinding, beq_iff_eq.mp hSame⟩
  · rintro ⟨anchor, binding, hBinding, hSame⟩
    refine ⟨anchor, anchor.mem_all, ?_⟩
    rw [hBinding]
    exact beq_iff_eq.mpr hSame

theorem isTaken_of_freeAt?_eq_none {isTaken : Nat → Bool} {numeral : Nat}
    (h : Binder.freeAt? tokens isTaken numeral = none) (hNumeral : IsNumeralAt tokens numeral) :
    isTaken numeral = true := by
  obtain ⟨value, hValue⟩ := hNumeral
  by_contra hFree
  rw [Binder.freeAt?, if_neg hFree, hValue] at h
  exact absurd h (by simp)

theorem freeAt?_eq_some {isTaken : Nat → Bool} {target numeral value : Nat}
    (h : Binder.freeAt? tokens isTaken target = some (numeral, value)) :
    target = numeral ∧ isTaken numeral = false ∧
      Binder.numeralAt? tokens numeral = some value := by
  rw [Binder.freeAt?] at h
  split at h
  · exact absurd h (by simp)
  · next hFree =>
      obtain ⟨number, hNumber, hPair⟩ := Option.map_eq_some_iff.mp h
      cases hPair
      exact ⟨rfl, Bool.eq_false_iff.mpr hFree, hNumber⟩

/-- The numeral that an anchor takes, with its value. -/
def Binder.found? (binder : Binder) (tokens : List Token) (active : List Anchor)
    (bindings : Bindings) (place : Nat) (anchor : Anchor) : Option (Nat × Nat) :=
  (binder.searched (fun i => (anchorPlaces active tokens).any fun other => other.1 == i)
    tokens.length anchor place).findSome? (Binder.freeAt? tokens bindings.takes)

theorem bindOne_of_get?_eq_none (hNone : bindings.get? anchor = none) :
    binder.bindOne tokens (anchorPlaces active tokens) bindings place anchor =
      match binder.found? tokens active bindings place anchor with
      | some (numeral, value) => bindings.set anchor { anchor := place, numeral, value }
      | none => bindings := by
  have hUnbound : ¬ (bindings.get? anchor).isSome = true := by
    rw [hNone]
    exact Bool.false_ne_true
  rw [Binder.bindOne, if_neg hUnbound]
  dsimp only
  rw [findSome?_freeNumeral?]
  rfl

variable (hActive : anchor ∈ active) (hAnchor : IsAnchorOf tokens anchor place)
  (hSize : binder.window.toNat + tokens.length < 2 ^ 64)

include hActive hAnchor hSize

/-- An anchor that takes no numeral finds all that it reaches taken. -/
theorem takes_of_found?_eq_none (h : binder.found? tokens active bindings place anchor = none)
    {other : Nat} (hNumeral : IsNumeralAt tokens other)
    (hReaches : Reaches tokens binder.window.toNat active place other) :
    bindings.takes other = true := by
  apply isTaken_of_freeAt?_eq_none _ hNumeral
  apply List.findSome?_eq_none_iff.mp h
  exact (mem_searched_iff other hActive hAnchor hSize fun _ => any_anchorPlaces_iff).mpr
    ⟨hNumeral.lt_length, hReaches⟩

/-- **An anchor takes the best numeral that is free.** -/
theorem best_of_found?_eq_some {numeral value : Nat}
    (h : binder.found? tokens active bindings place anchor = some (numeral, value)) :
    Binder.numeralAt? tokens numeral = some value ∧
      Reaches tokens binder.window.toNat active place numeral ∧
      bindings.takes numeral = false ∧
      ∀ other, IsNumeralAt tokens other → Reaches tokens binder.window.toNat active place other →
        anchor.Prefers place other numeral → bindings.takes other = true := by
  have hMem : ∀ target, _ ↔ _ := fun target =>
    mem_searched_iff target hActive hAnchor hSize fun _ => any_anchorPlaces_iff
  have hOrder := searched_pairwise anchor
    (fun i => (anchorPlaces active tokens).any fun other => other.1 == i) hAnchor.lt_length hSize
  obtain ⟨passed, target, rest, hSearched, hTarget, hPassed⟩ := List.findSome?_eq_some_iff.mp h
  obtain ⟨rfl, hFree, hValue⟩ := freeAt?_eq_some hTarget
  rw [hSearched] at hMem hOrder
  refine ⟨hValue, ((hMem target).mp (by simp)).2, hFree, ?_⟩
  intro other hNumeral hReaches hPrefers
  have hOther := (hMem other).mpr ⟨hNumeral.lt_length, hReaches⟩
  rcases List.mem_append.mp hOther with hEarly | hLate
  · exact isTaken_of_freeAt?_eq_none (hPassed other hEarly) hNumeral
  · exfalso
    rcases List.mem_cons.mp hLate with rfl | hLate
    · exact hPrefers.asymm hPrefers
    · have hRest := (List.pairwise_cons.mp (List.pairwise_append.mp hOrder).2.1).1 other hLate
      exact hPrefers.asymm hRest

end Taking

/-! ## The binder's assignment is stable -/

section Existence

variable {binder : Binder} {tokens : List Token} {window : Nat} {active : List Anchor}
  {anchor : Anchor} {bindings : Bindings} {place : Nat}

theorem IsAnchorOf.unique {other : Anchor} (h : IsAnchorOf tokens anchor place)
    (hOther : IsAnchorOf tokens other place) : anchor = other := by
  obtain ⟨token, hToken, hStem⟩ := h
  obtain ⟨another, hAnother, hOtherStem⟩ := hOther
  rw [hToken] at hAnother
  cases hAnother
  exact stems_disjoint anchor anchor.mem_all other other.mem_all _ hStem hOtherStem

theorem IsStableBefore.takesBefore {numeral : Nat}
    (hStable : IsStableBefore tokens window active place bindings)
    (hTaken : bindings.takes numeral = true) : bindings.TakesBefore place numeral := by
  obtain ⟨anchor, binding, hBinding, hSame⟩ := takes_iff.mp hTaken
  exact ⟨anchor, binding, hBinding, hSame, hStable.isBefore hBinding⟩

/-- A new binding takes no numeral away. -/
theorem Bindings.TakesBefore.set {limit numeral : Nat} {binding : Binding}
    (h : bindings.TakesBefore limit numeral) (hNone : bindings.get? anchor = Option.none) :
    (bindings.set anchor binding).TakesBefore limit numeral := by
  obtain ⟨other, another, hAnother, hNumeral, hBefore⟩ := h
  have hNe : other ≠ anchor := by
    rintro rfl
    rw [hNone] at hAnother
    exact absurd hAnother (by simp)
  refine ⟨other, another, ?_, hNumeral, hBefore⟩
  rw [Bindings.set_of_ne _ hNe]
  exact hAnother

/-- The limit moves past a place when an anchor there that has no numeral could have none. -/
theorem IsStableBefore.succ (hStable : IsStableBefore tokens window active place bindings)
    (hLeft : ∀ anchor ∈ active, bindings.get? anchor = none → IsAnchorOf tokens anchor place →
      ∀ numeral, IsNumeralAt tokens numeral → Reaches tokens window active place numeral →
        bindings.TakesBefore place numeral) :
    IsStableBefore tokens window active (place + 1) bindings where
  isSound := hStable.isSound
  isBefore hBinding := Nat.lt_succ_of_lt (hStable.isBefore hBinding)
  areApart := hStable.areApart
  isBest := hStable.isBest
  isFirst := hStable.isFirst
  isLeft {anchor} hActive hNone other hAnchor hBefore := by
    rcases Nat.lt_succ_iff_lt_or_eq.mp hBefore with hBefore | rfl
    · exact hStable.isLeft hActive hNone other hAnchor hBefore
    · exact hLeft anchor hActive hNone hAnchor

/-- The limit moves past an anchor that takes the best numeral that is free. -/
theorem IsStableBefore.set {numeral value : Nat}
    (hStable : IsStableBefore tokens window active place bindings)
    (hNone : bindings.get? anchor = none) (hActive : anchor ∈ active)
    (hAnchor : IsAnchorOf tokens anchor place)
    (hValue : Binder.numeralAt? tokens numeral = some value)
    (hReaches : Reaches tokens window active place numeral)
    (hFree : bindings.takes numeral = false)
    (hBest : ∀ other, IsNumeralAt tokens other → Reaches tokens window active place other →
      anchor.Prefers place other numeral → bindings.takes other = true) :
    IsStableBefore tokens window active (place + 1)
      (bindings.set anchor { anchor := place, numeral, value }) := by
  -- a binding of the new assignment is the new one, or it is an old one of another kind
  have hCases : ∀ {other : Anchor} {another : Binding},
      (bindings.set anchor { anchor := place, numeral, value }).get? other = some another →
        (other = anchor ∧ another = { anchor := place, numeral, value }) ∨
          (other ≠ anchor ∧ bindings.get? other = some another) := by
    intro other another hGet
    by_cases hSame : other = anchor
    · subst hSame
      rw [Bindings.set_self] at hGet
      exact Or.inl ⟨rfl, (Option.some.inj hGet).symm⟩
    · rw [Bindings.set_of_ne _ hSame] at hGet
      exact Or.inr ⟨hSame, hGet⟩
  have hNew : ∀ {other : Anchor} {another : Binding}, bindings.get? other = some another →
      another.numeral ≠ numeral := by
    intro other another hGet hSame
    rw [takes_iff.mpr ⟨other, another, hGet, hSame⟩] at hFree
    exact absurd hFree (by simp)
  constructor
  case isSound =>
    intro other another hGet
    rcases hCases hGet with ⟨rfl, rfl⟩ | ⟨-, hOld⟩
    · exact ⟨hActive, hAnchor, hValue, hReaches⟩
    · exact hStable.isSound hOld
  case isBefore =>
    intro other another hGet
    rcases hCases hGet with ⟨-, rfl⟩ | ⟨-, hOld⟩
    · exact Nat.lt_succ_self place
    · exact Nat.lt_succ_of_lt (hStable.isBefore hOld)
  case areApart =>
    intro one other oneBinding otherBinding hOne hOther hSame
    rcases hCases hOne with ⟨rfl, rfl⟩ | ⟨-, hOldOne⟩ <;>
      rcases hCases hOther with ⟨rfl, rfl⟩ | ⟨-, hOldOther⟩
    · rfl
    · exact absurd hSame.symm (hNew hOldOther)
    · exact absurd hSame (hNew hOldOne)
    · exact hStable.areApart hOldOne hOldOther hSame
  case isBest =>
    intro other another hGet target hNumeral hTarget hPrefers
    rcases hCases hGet with ⟨rfl, rfl⟩ | ⟨-, hOld⟩
    · exact (hStable.takesBefore (hBest target hNumeral hTarget hPrefers)).set hNone
    · exact (hStable.isBest hOld target hNumeral hTarget hPrefers).set hNone
  case isFirst =>
    intro other another hGet earlier hEarlier hBefore target hNumeral hTarget
    rcases hCases hGet with ⟨rfl, rfl⟩ | ⟨-, hOld⟩
    · exact (hStable.isLeft hActive hNone earlier hEarlier hBefore target hNumeral hTarget).set
        hNone
    · exact (hStable.isFirst hOld earlier hEarlier hBefore target hNumeral hTarget).set hNone
  case isLeft =>
    intro other hOther hGet earlier hEarlier hBefore target hNumeral hTarget
    have hNe : other ≠ anchor := by
      rintro rfl
      rw [Bindings.set_self] at hGet
      exact absurd hGet (by simp)
    rw [Bindings.set_of_ne _ hNe] at hGet
    rcases Nat.lt_succ_iff_lt_or_eq.mp hBefore with hBefore | rfl
    · exact (hStable.isLeft hOther hGet earlier hEarlier hBefore target hNumeral hTarget).set hNone
    · exact absurd (hEarlier.unique hAnchor) hNe

/-- **One anchor keeps the assignment stable.** -/
theorem isStableBefore_bindOne (hActive : anchor ∈ active)
    (hAnchor : IsAnchorOf tokens anchor place)
    (hSize : binder.window.toNat + tokens.length < 2 ^ 64)
    (hStable : IsStableBefore tokens binder.window.toNat active place bindings) :
    IsStableBefore tokens binder.window.toNat active (place + 1)
      (binder.bindOne tokens (anchorPlaces active tokens) bindings place anchor) := by
  cases hGet : bindings.get? anchor with
  | some binding =>
      rw [Binder.bindOne, hGet, Option.isSome_some, if_pos rfl]
      apply hStable.succ
      intro other hOther hNone hOtherAnchor
      rw [hOtherAnchor.unique hAnchor, hGet] at hNone
      exact absurd hNone (by simp)
  | none =>
      rw [bindOne_of_get?_eq_none hGet]
      cases hFound : binder.found? tokens active bindings place anchor with
      | none =>
          apply hStable.succ
          intro other hOther _ hOtherAnchor numeral hNumeral hReaches
          exact hStable.takesBefore
            (takes_of_found?_eq_none hActive hAnchor hSize hFound hNumeral hReaches)
      | some found =>
          obtain ⟨hValue, hReaches, hFree, hBest⟩ :=
            best_of_found?_eq_some hActive hAnchor hSize hFound
          exact hStable.set hGet hActive hAnchor hValue hReaches hFree hBest

/-- The anchors of the remaining tokens keep the assignment stable, token by token. -/
theorem isStableBefore_foldl (hSize : binder.window.toNat + tokens.length < 2 ^ 64)
    (rest : List Token) :
    ∀ (front : List Token) (bindings : Bindings), tokens = front ++ rest →
      IsStableBefore tokens binder.window.toNat active front.length bindings →
        IsStableBefore tokens binder.window.toNat active tokens.length
          ((anchorPlacesFrom active front.length rest).foldl
            (fun bindings (place, anchor) =>
              binder.bindOne tokens (anchorPlaces active tokens) bindings place anchor)
            bindings) := by
  -- on the tokens that remain; each one that is visited joins those in front
  induction rest with
  | nil =>
      intro front bindings hTokens hStable
      rw [List.append_nil] at hTokens
      subst hTokens
      exact hStable
  | cons token rest ih =>
      intro front bindings hTokens hStable
      have hToken : tokens[front.length]? = some token := by
        rw [hTokens, List.getElem?_append_right (Nat.le_refl _), Nat.sub_self]
        rfl
      have hLength : (front ++ [token]).length = front.length + 1 := by
        rw [List.length_append, List.length_singleton]
      have hRest := fun bindings => ih (front ++ [token]) bindings (by simp [hTokens])
      rw [hLength] at hRest
      cases hStem : Anchor.ofStem? active token.stem with
      | none =>
          have hQuiet : anchorPlacesFrom active front.length (token :: rest) =
              anchorPlacesFrom active (front.length + 1) rest :=
            anchorPlacesFrom_quiet [token] (by simp [hStem]) rest front.length
          rw [hQuiet]
          apply hRest
          apply hStable.succ
          rintro anchor hActive - ⟨other, hOther, hOtherStem⟩
          rw [hToken] at hOther
          cases hOther
          rw [ofStem?_eq_some_iff.mpr ⟨hActive, hOtherStem⟩] at hStem
          exact absurd hStem (by simp)
      | some anchor =>
          obtain ⟨hActive, hAnchorStem⟩ := ofStem?_eq_some_iff.mp hStem
          rw [anchorPlacesFrom_anchor hStem, List.foldl_cons]
          apply hRest
          exact isStableBefore_bindOne hActive ⟨token, hToken, hAnchorStem⟩ hSize hStable

theorem isStableBefore_none : IsStableBefore tokens window active 0 Bindings.none where
  isSound hGet := absurd hGet (by simp)
  isBefore hGet := absurd hGet (by simp)
  areApart hGet := absurd hGet (by simp)
  isBest hGet := absurd hGet (by simp)
  isFirst hGet := absurd hGet (by simp)
  isLeft _ _ place _ hBefore := absurd hBefore (Nat.not_lt_zero place)

theorem isStable_bind (hSize : binder.window.toNat + tokens.length < 2 ^ 64) :
    IsStable tokens binder.window.toNat active (binder.bind tokens active) :=
  isStableBefore_foldl hSize tokens [] Bindings.none rfl isStableBefore_none

end Existence

/-! ## No other assignment is stable -/

section Uniqueness

variable {tokens : List Token} {window : Nat} {active : List Anchor} {bindings others : Bindings}

/-- A numeral that belongs to a kind with a later anchor belongs to no earlier one. -/
theorem IsStable.not_takesBefore (h : IsStable tokens window active bindings) {anchor : Anchor}
    {binding : Binding} (hGet : bindings.get? anchor = some binding) :
    ¬ bindings.TakesBefore binding.anchor binding.numeral := by
  rintro ⟨other, another, hOther, hSame, hBefore⟩
  obtain rfl := h.areApart hOther hGet hSame
  rw [hGet] at hOther
  cases hOther
  exact Nat.lt_irrefl _ hBefore

/-- If two stable assignments agree on the anchors before a place, what one of them gives to an
anchor at that place, the other gives to it, too. -/
theorem IsStable.get?_of_agree (h : IsStable tokens window active bindings)
    (hOthers : IsStable tokens window active others) {anchor : Anchor} {binding : Binding}
    (hAgree : ∀ other another, another.anchor < binding.anchor →
      (bindings.get? other = some another ↔ others.get? other = some another))
    (hGet : bindings.get? anchor = some binding) : others.get? anchor = some binding := by
  obtain ⟨hActive, hAnchor, hValue, hReaches⟩ := h.isSound hGet
  have hTakes : ∀ numeral, bindings.TakesBefore binding.anchor numeral ↔
      others.TakesBefore binding.anchor numeral := by
    intro numeral
    constructor <;> rintro ⟨other, another, hOther, hNumeral, hBefore⟩
    · exact ⟨other, another, (hAgree other another hBefore).mp hOther, hNumeral, hBefore⟩
    · exact ⟨other, another, (hAgree other another hBefore).mpr hOther, hNumeral, hBefore⟩
  -- every other case would give the numeral to an earlier anchor as well
  have hNot : ¬ others.TakesBefore binding.anchor binding.numeral := by
    rw [← hTakes]
    exact h.not_takesBefore hGet
  cases hOther : others.get? anchor with
  | none =>
      exact absurd (hOthers.isLeft hActive hOther binding.anchor hAnchor hAnchor.lt_length
        binding.numeral ⟨_, hValue⟩ hReaches) hNot
  | some another =>
      obtain ⟨-, -, hOtherValue, hOtherReaches⟩ := hOthers.isSound hOther
      rcases Nat.lt_trichotomy binding.anchor another.anchor with hLt | hSame | hGt
      · exact absurd (hOthers.isFirst hOther binding.anchor hAnchor hLt binding.numeral
          ⟨_, hValue⟩ hReaches) hNot
      · by_cases hNumeral : binding.numeral = another.numeral
        · obtain ⟨place, numeral, value⟩ := binding
          obtain ⟨otherPlace, otherNumeral, otherValue⟩ := another
          dsimp only at hSame hNumeral hValue hOtherValue
          subst hSame hNumeral
          rw [hValue] at hOtherValue
          cases hOtherValue
          rfl
        · rw [← hSame] at hOtherReaches
          exfalso
          rcases anchor.prefers_or_prefers hNumeral (hReaches.ne hActive hAnchor)
              (hOtherReaches.ne hActive hAnchor) with hBetter | hBetter
          · apply hNot
            rw [hSame] at hBetter hReaches ⊢
            exact hOthers.isBest hOther binding.numeral ⟨_, hValue⟩ hReaches hBetter
          · apply hOthers.not_takesBefore hOther
            rw [← hSame, ← hTakes]
            exact h.isBest hGet another.numeral ⟨_, hOtherValue⟩ hOtherReaches hBetter
      · rw [← hAgree anchor another hGt, hGet] at hOther
        cases hOther
        exact absurd hGt (Nat.lt_irrefl _)

/-- **Stable assignments agree**, by induction on the place of the anchor. -/
theorem IsStable.get?_iff (h : IsStable tokens window active bindings)
    (hOthers : IsStable tokens window active others) (limit : Nat) :
    ∀ (anchor : Anchor) (binding : Binding), binding.anchor < limit →
      (bindings.get? anchor = some binding ↔ others.get? anchor = some binding) := by
  induction limit with
  | zero =>
      intro anchor binding hBefore
      exact absurd hBefore (Nat.not_lt_zero _)
  | succ limit ih =>
      intro anchor binding hBefore
      have hAgree : ∀ other another, another.anchor < binding.anchor →
          (bindings.get? other = some another ↔ others.get? other = some another) :=
        fun other another hEarlier => ih other another (by omega)
      exact ⟨h.get?_of_agree hOthers hAgree,
        hOthers.get?_of_agree h fun other another hEarlier => (hAgree other another hEarlier).symm⟩

theorem eq_of_get? (h : ∀ anchor, bindings.get? anchor = others.get? anchor) :
    bindings = others := by
  obtain ⟨get?⟩ := bindings
  obtain ⟨get?'⟩ := others
  congr
  exact funext h

theorem IsStable.eq (h : IsStable tokens window active bindings)
    (hOthers : IsStable tokens window active others) : bindings = others := by
  apply eq_of_get?
  intro anchor
  apply Option.ext
  intro binding
  exact h.get?_iff hOthers (binding.anchor + 1) anchor binding (Nat.lt_succ_self _)

end Uniqueness

/-- **The binder's assignment is the stable one.**  For a window of one place or more, as long as
places fit a 64-bit word, an assignment is stable exactly if the binder makes it. -/
theorem isStable_iff_eq_bind (window : UInt64) {tokens : List Token} (active : List Anchor)
    (hWindow : 1 ≤ window.toNat) (hSize : tokens.length + window.toNat < 2 ^ 64)
    (bindings : Bindings) :
    IsStable tokens window.toNat active bindings ↔
      bindings = (Binder.ofWindow window).bind tokens active := by
  have hBinder := Binder.window_ofWindow hWindow
  have hStable : IsStable tokens (Binder.ofWindow window).window.toNat active
      ((Binder.ofWindow window).bind tokens active) :=
    isStable_bind (by rw [hBinder]; omega)
  rw [hBinder] at hStable
  constructor
  · intro h
    exact h.eq hStable
  · rintro rfl
    exact hStable

/-- Years with the numeral before them, a salary with the one behind it, and no age. -/
private def threeYears : Bindings where
  get?
    | .salary => some { anchor := 2, numeral := 3, value := 50000 }
    | .age => none
    | .years => some { anchor := 1, numeral := 0, value := 3 }

/-- Years look back for their numeral, the salary looks ahead, and nothing is left for the age. -/
theorem isStable_iff_eq_bind_three_anchors :
    IsStable (tokenize "3 years salary 50,000 age") 4 [.age, .years, .salary] threeYears := by
  have hGet : ∀ anchor ∈ Anchor.all, threeYears.get? anchor = ((Binder.ofWindow 4).bind
      (tokenize "3 years salary 50,000 age") [.age, .years, .salary]).get? anchor := by
    decide +kernel
  apply (isStable_iff_eq_bind 4 [.age, .years, .salary] (by decide) (by decide +kernel) _).mpr
  exact eq_of_get? fun anchor => hGet anchor anchor.mem_all

end StaffSearch.Query
