import Mathlib.Data.List.Forall2
import PatchCoverage.Proofs.Number.Integer
import PatchCoverage.Proofs.Xml.Place
import PatchCoverage.Report.FromXml

namespace PatchCoverage

/-!
# What a report says of a document

The report of a document is described here a second time, as a relation between
elements and what they stand for: `IsCounterOf`, `IsClassOf`, `IsPackageOf` and,
for a whole document, `IsReportOf`.  Packages are found by their places, counts
by the grammar of integers.

Main statements: `isReportOf_iff`, by which a document has one report, the one
that is read; `exists_listsClasses`, by which every class of a package is read
once and no other element is.
-/

open Xml (Element)

/-- What an attribute counts.  An integer counts as itself if it has at most 4300
digits; a longer one, any other text and a missing attribute count as zero. -/
inductive CountsAs : Option String → Int → Prop
  /-- An integer that can be read. -/
  | integer {text : String} {value : Int} {digitCount : Nat}
      (hWritten : WritesInteger text value digitCount) (hShort : digitCount ≤ digitLimit) :
      CountsAs (some text) value
  /-- An integer that is too long. -/
  | tooLong {text : String} {value : Int} {digitCount : Nat}
      (hWritten : WritesInteger text value digitCount) (hLong : digitLimit < digitCount) :
      CountsAs (some text) 0
  /-- No integer. -/
  | other {text : String} (hOther : ∀ value digitCount, ¬ WritesInteger text value digitCount) :
      CountsAs (some text) 0
  /-- No attribute. -/
  | missing : CountsAs none 0

/-- A counter is that of an element. -/
structure IsCounterOf (element : Element) (counter : Counter) : Prop where
  kind : counter.kind = (element.attribute? "type").getD ""
  missed : CountsAs (element.attribute? "missed") counter.missed
  covered : CountsAs (element.attribute? "covered") counter.covered

/-- A class is that of an element: with the counters directly inside it, or, only
if there are none, with those directly inside its methods. -/
structure IsClassOf (element : Element) (cls : ClassCoverage) : Prop where
  name : cls.name = (element.attribute? "name").getD ""
  sourceName : cls.sourceName = (element.attribute? "sourcefilename").getD ""
  ownCounters : (∃ child ∈ element.children, child.name = "counter") →
    List.Forall₂ IsCounterOf (element.children.filter fun child => child.name = "counter")
      cls.counters
  methodCounters : (∀ child ∈ element.children, child.name ≠ "counter") →
    List.Forall₂ IsCounterOf
      ((element.children.filter fun child => child.name = "method").flatMap fun method =>
        method.children.filter fun child => child.name = "counter")
      cls.counters

/-- A package is that of an element, with the classes directly inside it. -/
structure IsPackageOf (element : Element) (package : PackageCoverage) : Prop where
  name : package.name = (element.attribute? "name").getD ""
  classes : List.Forall₂ IsClassOf (element.children.filter fun child => child.name = "class")
    package.classes

/-- A report is that of a document: its packages are those of all elements of that
name, at any depth, in the order of the document. -/
def IsReportOf (root : Element) (report : Report) : Prop :=
  ∃ items, root.ListsNamed "package" items ∧
    List.Forall₂ (fun item package => IsPackageOf item.2 package) items report.packages

/-! ## The report is the one that is read -/

theorem countsAs_iff {element : Element} {name : String} {value : Int} :
    CountsAs (element.attribute? name) value ↔ value = Report.integerAttribute element name := by
  unfold Report.integerAttribute
  cases element.attribute? name with
  | none =>
      constructor
      · rintro ⟨⟩
        rfl
      · rintro rfl
        exact .missing
  | some text =>
      rw [Option.map_some]
      constructor
      · rintro (⟨hWritten, hShort⟩ | ⟨hWritten, hLong⟩ | hOther)
        · rw [readInteger_of_writesInteger hWritten, if_pos hShort]
        · rw [readInteger_of_writesInteger hWritten, if_neg (Nat.not_le_of_lt hLong)]
        · rw [readInteger_eq_notInteger_iff.mpr hOther]
      · -- What is not refused as no integer is written as one, long or short.
        rintro rfl
        by_cases hRead : readInteger text = .error .notInteger
        · rw [hRead]
          exact .other (readInteger_eq_notInteger_iff.mp hRead)
        · obtain ⟨number, digitCount, hWritten⟩ := exists_writesInteger hRead
          rw [readInteger_of_writesInteger hWritten]
          by_cases hShort : digitCount ≤ digitLimit
          · rw [if_pos hShort]
            exact .integer hWritten hShort
          · rw [if_neg hShort]
            exact .tooLong hWritten (Nat.lt_of_not_le hShort)

theorem forall₂_iff_eq_map {α β : Type} {Relates : α → β → Prop} {convert : α → β}
    (h : ∀ a b, Relates a b ↔ b = convert a) {items : List α} {results : List β} :
    List.Forall₂ Relates items results ↔ results = items.map convert := by
  have hRelates : Relates = fun a b => convert a = b := by
    funext a b
    exact propext ((h a b).trans eq_comm)
  rw [hRelates, ← List.forall₂_map_left_iff (R := Eq), List.forall₂_eq_eq_eq, eq_comm]

theorem isCounterOf_iff (element : Element) (counter : Counter) :
    IsCounterOf element counter ↔ counter = Report.counterOf element := by
  constructor
  · rintro ⟨hKind, hMissed, hCovered⟩
    rw [countsAs_iff] at hMissed hCovered
    rw [Report.counterOf, ← hKind, ← hMissed, ← hCovered]
  · rintro rfl
    exact ⟨rfl, countsAs_iff.mpr rfl, countsAs_iff.mpr rfl⟩

theorem counterElements_of_own {element : Element}
    (h : ∃ child ∈ element.children, child.name = "counter") :
    Report.counterElements element = element.childrenNamed "counter" := by
  obtain ⟨child, hMem, hName⟩ := h
  have hOwn : child ∈ element.childrenNamed "counter" :=
    List.mem_filter.mpr ⟨hMem, beq_iff_eq.mpr hName⟩
  unfold Report.counterElements
  rw [if_neg fun hEmpty => List.ne_nil_of_mem hOwn (List.isEmpty_iff.mp hEmpty)]

theorem counterElements_of_none {element : Element}
    (h : ∀ child ∈ element.children, child.name ≠ "counter") :
    Report.counterElements element =
      (element.childrenNamed "method").flatMap fun method => method.childrenNamed "counter" := by
  have hNone : element.childrenNamed "counter" = [] :=
    List.filter_eq_nil_iff.mpr fun child hMem hName => h child hMem (beq_iff_eq.mp hName)
  unfold Report.counterElements
  rw [if_pos (List.isEmpty_iff.mpr hNone)]

theorem isClassOf_iff (element : Element) (cls : ClassCoverage) :
    IsClassOf element cls ↔ cls = Report.classOf element := by
  constructor
  · rintro ⟨hName, hSource, hOwn, hMethods⟩
    have hCounters : cls.counters = (Report.counterElements element).map Report.counterOf := by
      by_cases hCounter : ∃ child ∈ element.children, child.name = "counter"
      · rw [counterElements_of_own hCounter]
        exact (forall₂_iff_eq_map isCounterOf_iff).mp (hOwn hCounter)
      · push Not at hCounter
        rw [counterElements_of_none hCounter]
        exact (forall₂_iff_eq_map isCounterOf_iff).mp (hMethods hCounter)
    rw [Report.classOf, ← hName, ← hSource, ← hCounters]
  · rintro rfl
    refine ⟨rfl, rfl, fun hCounter => ?_, fun hCounter => ?_⟩
    · exact (forall₂_iff_eq_map isCounterOf_iff).mpr
        (congrArg (List.map Report.counterOf) (counterElements_of_own hCounter))
    · exact (forall₂_iff_eq_map isCounterOf_iff).mpr
        (congrArg (List.map Report.counterOf) (counterElements_of_none hCounter))

theorem isPackageOf_iff (element : Element) (package : PackageCoverage) :
    IsPackageOf element package ↔ package = Report.packageOf element := by
  constructor
  · rintro ⟨hName, hClasses⟩
    rw [Report.packageOf, ← hName]
    exact congrArg (PackageCoverage.mk package.name)
      ((forall₂_iff_eq_map isClassOf_iff).mp hClasses)
  · rintro rfl
    exact ⟨rfl, (forall₂_iff_eq_map isClassOf_iff).mpr rfl⟩

/-- A document has one report, the one that is read. -/
theorem isReportOf_iff (root : Element) (report : Report) :
    IsReportOf root report ↔ report = Report.ofElement root := by
  have hPackages : (root.allNamed "package").map Report.packageOf =
      (root.namedIn "package").map fun item => Report.packageOf item.2 := by
    rw [← Element.map_snd_namedIn, List.map_map]
    rfl
  have hEach : ∀ (item : List Nat × Element) (package : PackageCoverage),
      IsPackageOf item.2 package ↔ package = Report.packageOf item.2 :=
    fun item => isPackageOf_iff item.2
  rw [Report.ofElement, hPackages]
  constructor
  · rintro ⟨items, hLists, hItems⟩
    rw [Element.listsNamed_iff.mp hLists] at hItems
    exact congrArg Report.mk ((forall₂_iff_eq_map hEach).mp hItems)
  · rintro rfl
    exact ⟨_, Element.listsNamed_namedIn root "package", (forall₂_iff_eq_map hEach).mpr rfl⟩

/-! ## Classes -/

/-- A class directly inside a package: the place of the package, and the number of
the class in it. -/
def IsClassAt (root : Element) (place : List Nat) (index : Nat) (package cls : Element) : Prop :=
  root.descendant? place = some package ∧ package.name = "package" ∧
    package.children[index]? = some cls ∧ cls.name = "class"

/-- A list holds all classes directly inside packages, in the order of the packages
and, for each of them, in the order of the classes in it. -/
structure ListsClasses (root : Element) (places : List (List Nat × Nat)) : Prop where
  nodup : places.Nodup
  sorted : places.Pairwise (Prod.Lex (· < ·) (· < ·))
  mem_iff : ∀ place index,
    (place, index) ∈ places ↔ ∃ package cls, IsClassAt root place index package cls

/-- The classes directly inside packages, each with the place of its package, the
package, the class and its number. -/
def classItems (root : Element) : List ((List Nat × Element) × Element × Nat) :=
  (root.namedIn "package").flatMap fun item =>
    (item.2.children.zipIdx.filter fun child => child.1.name == "class").map fun child =>
      (item, child)

theorem mem_classItems {root package cls : Element} {place : List Nat} {index : Nat} :
    ((place, package), cls, index) ∈ classItems root ↔
      IsClassAt root place index package cls := by
  simp only [classItems, List.mem_flatMap, List.mem_map, List.mem_filter,
    List.mem_zipIdx_iff_getElem?, beq_iff_eq, Prod.mk.injEq, Prod.exists, IsClassAt]
  constructor
  · rintro ⟨_, _, hItem, _, _, ⟨hChild, hName⟩, ⟨rfl, rfl⟩, rfl, rfl⟩
    have hNamed := ((Element.listsNamed_namedIn root "package").mem_iff _ _).mp hItem
    exact ⟨hNamed.1, hNamed.2, hChild, hName⟩
  · rintro ⟨hPlace, hPackage, hChild, hName⟩
    exact ⟨place, package, ((Element.listsNamed_namedIn root "package").mem_iff _ _).mpr
      ⟨hPlace, hPackage⟩, cls, index, ⟨hChild, hName⟩, ⟨rfl, rfl⟩, rfl, rfl⟩

theorem map_fst_filter_zipIdx (element : Element) :
    (element.children.zipIdx.filter fun child => child.1.name == "class").map Prod.fst =
      element.childrenNamed "class" := by
  rw [Element.childrenNamed, ← List.zipIdx_map_fst 0 element.children, List.filter_map,
    List.zipIdx_map_fst]
  rfl

/-- The classes of a report are those directly inside packages. -/
theorem classes_ofElement (root : Element) :
    (Report.ofElement root).classes = (classItems root).map fun item =>
      (Report.packageOf item.1.2, Report.classOf item.2.1) := by
  rw [Report.classes, Report.ofElement, ← Element.map_snd_namedIn, List.map_map, List.flatMap_map,
    classItems, List.map_flatMap]
  refine congrArg (List.flatMap · _) (funext fun item => ?_)
  calc
    (Report.packageOf item.2).classes.map (fun cls => (Report.packageOf item.2, cls)) =
        (item.2.childrenNamed "class").map fun cls =>
          (Report.packageOf item.2, Report.classOf cls) := List.map_map
    _ = _ := by
        rw [← map_fst_filter_zipIdx, List.map_map, List.map_map]
        rfl

theorem classCount_eq_length (report : Report) : report.classCount = report.classes.length := by
  obtain ⟨packages⟩ := report
  induction packages with
  | nil => rfl
  | cons package packages ih =>
      rw [Report.classes, List.flatMap_cons, List.length_append, List.length_map]
      exact congrArg (package.classes.length + ·) ih

theorem pairwise_zipIdx {α : Type} (items : List α) :
    items.zipIdx.Pairwise fun first second => first.2 < second.2 := by
  rw [← List.pairwise_map (f := Prod.snd) (R := (· < ·)), List.zipIdx_map_snd]
  exact List.pairwise_lt_range'

theorem pairwise_classItems (root : Element) :
    (classItems root).Pairwise fun first second =>
      Prod.Lex (· < ·) (· < ·) (first.1.1, first.2.2) (second.1.1, second.2.2) := by
  unfold classItems
  rw [List.pairwise_flatMap]
  refine ⟨fun item _ => ?_, ?_⟩
  · -- Inside one package the numbers increase.
    rw [List.pairwise_map]
    exact ((pairwise_zipIdx item.2.children).filter _).imp fun h => .right _ h
  · refine (Element.listsNamed_namedIn root "package").sorted.imp fun hBefore => ?_
    intro earlier hEarlier later hLater
    obtain ⟨_, -, rfl⟩ := List.mem_map.mp hEarlier
    obtain ⟨_, -, rfl⟩ := List.mem_map.mp hLater
    exact .left _ _ hBefore

/-- The classes of a report are, one for one, those directly inside packages. -/
theorem exists_listsClasses (root : Element) :
    ∃ places, ListsClasses root places ∧
      List.Forall₂ (fun place item => ∃ package cls, IsClassAt root place.1 place.2 package cls ∧
        IsPackageOf package item.1 ∧ IsClassOf cls item.2) places (Report.ofElement root).classes ∧
      (Report.ofElement root).classCount = places.length := by
  have hSorted : ((classItems root).map fun item => (item.1.1, item.2.2)).Pairwise
      (Prod.Lex (· < ·) (· < ·)) := List.pairwise_map.mpr (pairwise_classItems root)
  refine ⟨(classItems root).map fun item => (item.1.1, item.2.2), ⟨?_, hSorted, ?_⟩, ?_, ?_⟩
  · refine hSorted.imp ?_
    rintro first _ hBefore rfl
    exact irrefl_of (Prod.Lex (· < ·) (· < ·)) first hBefore
  · intro place index
    constructor
    · intro hMem
      obtain ⟨⟨⟨_, package⟩, cls, _⟩, hItem, hSame⟩ := List.mem_map.mp hMem
      obtain ⟨rfl, rfl⟩ := Prod.mk.inj hSame
      exact ⟨package, cls, mem_classItems.mp hItem⟩
    · rintro ⟨package, cls, hAt⟩
      exact List.mem_map.mpr ⟨((place, package), cls, index), mem_classItems.mpr hAt, rfl⟩
  · rw [classes_ofElement, List.forall₂_map_left_iff, List.forall₂_map_right_iff, List.forall₂_same]
    rintro ⟨⟨place, package⟩, cls, index⟩ hItem
    exact ⟨package, cls, mem_classItems.mp hItem, (isPackageOf_iff package _).mpr rfl,
      (isClassOf_iff cls _).mpr rfl⟩
  · rw [classCount_eq_length, classes_ofElement, List.length_map, List.length_map]

end PatchCoverage
