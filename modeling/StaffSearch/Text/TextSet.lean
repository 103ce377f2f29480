/-!
# Finite sets of texts

A set of texts is kept as the strictly increasing list of its elements, texts being ordered by code
points. So equal sets are equal lists, and a set is written in one way only.

## Main results

* `mem_insert`, `mem_ofList` — the elements of a set that is built up.
* `eq_of_mem_iff` — a set is what its elements are.
-/

namespace StaffSearch

/-- A finite set of texts. -/
structure TextSet where
  /-- The elements in increasing order. -/
  elements : List String
  /-- They are strictly increasing. -/
  increasing : elements.Pairwise (· < ·)
  deriving DecidableEq

namespace TextSet

/-- Puts a text into its place in an increasing list, unless it is there. -/
def insertInto (text : String) : List String → List String
  | [] => [text]
  | x :: rest =>
    if text < x then text :: x :: rest
    else if x < text then x :: insertInto text rest
    else x :: rest

@[simp] theorem mem_insertInto {text y : String} {list : List String} :
    y ∈ insertInto text list ↔ y = text ∨ y ∈ list := by
  induction list with
  | nil => simp [insertInto]
  | cons x rest ih =>
    unfold insertInto
    split
    · simp
    · split
      · simp only [List.mem_cons, ih]
        constructor <;> rintro (h | h | h) <;> simp [h]
      · next h h' =>
        have : text = x := String.le_antisymm (String.not_lt.mp h') (String.not_lt.mp h)
        simp [this]

theorem increasing_insertInto {text : String} {list : List String} (h : list.Pairwise (· < ·)) :
    (insertInto text list).Pairwise (· < ·) := by
  induction list with
  | nil => simp [insertInto]
  | cons x rest ih =>
    rw [List.pairwise_cons] at h
    unfold insertInto
    split
    · next hlt =>
      refine List.pairwise_cons.mpr ⟨?_, List.pairwise_cons.mpr h⟩
      intro y hy
      rcases List.mem_cons.mp hy with rfl | hy
      · exact hlt
      · exact String.lt_trans hlt (h.1 y hy)
    · split
      · next hlt =>
        refine List.pairwise_cons.mpr ⟨?_, ih h.2⟩
        intro y hy
        rcases mem_insertInto.mp hy with rfl | hy
        · exact hlt
        · exact h.1 y hy
      · exact List.pairwise_cons.mpr h

/-- The set without elements. -/
def empty : TextSet := ⟨[], List.Pairwise.nil⟩

/-- The set with one more element. -/
def insert (text : String) (set : TextSet) : TextSet :=
  ⟨insertInto text set.elements, increasing_insertInto set.increasing⟩

/-- The set of the elements of a list. -/
def ofList (list : List String) : TextSet := list.foldr insert empty

@[simp] theorem mem_insert {text y : String} {set : TextSet} :
    y ∈ (set.insert text).elements ↔ y = text ∨ y ∈ set.elements := mem_insertInto

@[simp] theorem mem_ofList {y : String} {list : List String} :
    y ∈ (ofList list).elements ↔ y ∈ list := by
  induction list with
  | nil => simp [ofList, empty]
  | cons x rest ih =>
    rw [ofList, List.foldr_cons, mem_insert, List.mem_cons]
    exact or_congr Iff.rfl ih

/-- Sets with the same elements are the same. -/
theorem eq_of_mem_iff {a b : TextSet} (h : ∀ y, y ∈ a.elements ↔ y ∈ b.elements) : a = b := by
  have hNodup : ∀ set : TextSet, set.elements.Nodup := fun set =>
    set.increasing.imp fun hLess => String.ne_of_lt hLess
  have hPerm := (List.perm_ext_iff_of_nodup (hNodup a) (hNodup b)).mpr h
  have hElements : a.elements = b.elements :=
    hPerm.eq_of_pairwise (fun x y _ _ hLess hGreater => absurd hGreater (String.lt_asymm hLess))
      a.increasing b.increasing
  cases a
  cases b
  cases hElements
  rfl

end TextSet

end StaffSearch
