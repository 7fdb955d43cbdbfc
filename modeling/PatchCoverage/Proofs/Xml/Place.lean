import Mathlib.Data.List.Lex
import Mathlib.Data.List.Sort
import PatchCoverage.Xml.Element

namespace PatchCoverage.Xml.Element

/-!
# Places in a document

The place of an element is the way to it from the outermost element: which child
to take at each step.  Places in lexicographic order are elements in the order
of the document, each before what it contains.

`ListsNamed` says that a list holds all elements of a name, each with its place
and in the order of the document, without the traversal that finds them.  Main
statements: `listsNamed_iff`, by which there is one such list, and
`map_snd_namedIn`, by which it holds what the traversal finds.
-/

/-- The element at a place inside an element. -/
def descendant? : Element → List Nat → Option Element
  | element, [] => some element
  | element, index :: place => element.children[index]?.bind fun child => child.descendant? place

mutual

/-- An element and all that it contains, with their places. -/
def located : Element → List (List Nat × Element)
  | node name attributes children =>
    ([], node name attributes children) :: locatedFrom 0 children

/-- Elements and all that they contain, with their places; `index` is the number
of the first one. -/
def locatedFrom (index : Nat) : List Element → List (List Nat × Element)
  | [] => []
  | element :: elements =>
    element.located.map (fun (place, found) => (index :: place, found)) ++
      locatedFrom (index + 1) elements

end

mutual

/-- Without the places it is the traversal of the tree. -/
theorem map_snd_located :
    ∀ element : Element, element.located.map Prod.snd = element.withDescendants
  | node name attributes children => by
      rw [located, withDescendants, List.map_cons, map_snd_locatedFrom 0 children]

theorem map_snd_locatedFrom (index : Nat) :
    ∀ elements : List Element, (locatedFrom index elements).map Prod.snd = listDescendants elements
  | [] => rfl
  | element :: elements => by
      rw [locatedFrom, listDescendants, List.map_append, map_snd_locatedFrom (index + 1) elements,
        ← map_snd_located element, List.map_map]
      rfl

end

mutual

/-- Every element is listed with its place, and nothing else is. -/
theorem mem_located :
    ∀ (element : Element) (place : List Nat) (found : Element),
      (place, found) ∈ element.located ↔ element.descendant? place = some found
  | node name attributes children, place, found => by
      rw [located, List.mem_cons, mem_locatedFrom 0 children]
      cases place with
      | nil => simp [descendant?, eq_comm]
      | cons index place => simp [descendant?, Element.children]

theorem mem_locatedFrom (first : Nat) :
    ∀ (elements : List Element) (place : List Nat) (found : Element),
      (place, found) ∈ locatedFrom first elements ↔
        ∃ index below, place = (first + index) :: below ∧
          (elements[index]?.bind fun child => child.descendant? below) = some found
  | [], place, found => by simp [locatedFrom]
  | element :: elements, place, found => by
      rw [locatedFrom, List.mem_append, mem_locatedFrom (first + 1) elements, List.mem_map]
      constructor
      · rintro (⟨⟨below, other⟩, hMem, hSame⟩ | ⟨index, below, rfl, hFound⟩)
        · obtain ⟨rfl, rfl⟩ := Prod.mk.inj hSame
          exact ⟨0, below, rfl, (mem_located element below other).mp hMem⟩
        · exact ⟨index + 1, below, by rw [Nat.add_assoc, Nat.add_comm 1], hFound⟩
      · rintro ⟨index, below, rfl, hFound⟩
        cases index with
        | zero => exact .inl ⟨(below, found), (mem_located element below found).mpr hFound, rfl⟩
        | succ index =>
            exact .inr ⟨index, below, by rw [Nat.add_assoc, Nat.add_comm 1], hFound⟩

end

mutual

/-- Elements are listed in the order of the document. -/
theorem pairwise_located :
    ∀ element : Element, element.located.Pairwise fun first second => first.1 < second.1
  | node name attributes children => by
      rw [located, List.pairwise_cons]
      refine ⟨?_, pairwise_locatedFrom 0 children⟩
      rintro ⟨place, found⟩ hMem
      obtain ⟨index, below, rfl, -⟩ := (mem_locatedFrom 0 children place found).mp hMem
      exact List.nil_lt_cons _ _

theorem pairwise_locatedFrom (index : Nat) :
    ∀ elements : List Element,
      (locatedFrom index elements).Pairwise fun first second => first.1 < second.1
  | [] => .nil
  | element :: elements => by
      rw [locatedFrom, List.pairwise_append]
      refine ⟨?_, pairwise_locatedFrom (index + 1) elements, ?_⟩
      · rw [List.pairwise_map]
        exact (pairwise_located element).imp fun h => List.cons_lt_cons_self.mpr h
      · -- What follows lies below a later child.
        rintro ⟨earlier, one⟩ hEarlier ⟨later, other⟩ hLater
        obtain ⟨⟨below, found⟩, -, hSame⟩ := List.mem_map.mp hEarlier
        obtain ⟨rfl, rfl⟩ := Prod.mk.inj hSame
        obtain ⟨next, rest, rfl, -⟩ := (mem_locatedFrom (index + 1) elements later other).mp hLater
        exact List.cons_lt_cons_iff.mpr (.inl (by omega))

end

/-! ## Elements of a name -/

/-- A list holds the elements of a name with their places, in the order of the
document. -/
structure ListsNamed (root : Element) (name : String) (items : List (List Nat × Element)) :
    Prop where
  sorted : items.Pairwise fun first second => first.1 < second.1
  mem_iff : ∀ place found,
    (place, found) ∈ items ↔ root.descendant? place = some found ∧ found.name = name

/-- The elements of a name with their places. -/
def namedIn (root : Element) (name : String) : List (List Nat × Element) :=
  root.located.filter fun item => item.2.name == name

theorem map_snd_namedIn (root : Element) (name : String) :
    (root.namedIn name).map Prod.snd = root.allNamed name := by
  rw [allNamed, ← map_snd_located, List.filter_map]
  rfl

theorem listsNamed_namedIn (root : Element) (name : String) :
    root.ListsNamed name (root.namedIn name) := by
  refine ⟨root.pairwise_located.filter _, ?_⟩
  intro place found
  rw [namedIn, List.mem_filter, mem_located, beq_iff_eq]

theorem listDescendants_eq_flatMap :
    ∀ elements : List Element, listDescendants elements = elements.flatMap withDescendants
  | [] => rfl
  | element :: elements => by
      rw [listDescendants, listDescendants_eq_flatMap elements, List.flatMap_cons]

/-- Elements of a name are the outermost one, if it has that name, and those in its
children. -/
theorem allNamed_node (wanted name : String) (attributes : List (String × String))
    (children : List Element) :
    (node name attributes children).allNamed wanted =
      (if name = wanted then [node name attributes children] else []) ++
        children.flatMap (·.allNamed wanted) := by
  have hChildren : (listDescendants children).filter (fun found => found.name == wanted) =
      children.flatMap (·.allNamed wanted) := by
    rw [listDescendants_eq_flatMap, List.filter_flatMap]
    rfl
  rw [allNamed, withDescendants, List.filter_cons, hChildren]
  by_cases hName : name = wanted <;> simp [Element.name, hName]

/-- There is one list of the elements of a name. -/
theorem listsNamed_iff {root : Element} {name : String} {items : List (List Nat × Element)} :
    root.ListsNamed name items ↔ items = root.namedIn name := by
  constructor
  · intro hLists
    let Before (first second : List Nat × Element) : Prop := first.1 < second.1
    have : Std.Irrefl Before := ⟨fun item => lt_irrefl item.1⟩
    have : Std.Antisymm Before := ⟨fun _ _ hFirst hSecond => (lt_asymm hFirst hSecond).elim⟩
    refine List.Pairwise.eq_of_mem_iff (r := Before) hLists.sorted
      (listsNamed_namedIn root name).sorted fun item => ?_
    rw [hLists.mem_iff item.1 item.2, (listsNamed_namedIn root name).mem_iff item.1 item.2]
  · rintro rfl
    exact listsNamed_namedIn root name

end PatchCoverage.Xml.Element
