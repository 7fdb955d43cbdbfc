import Mathlib.Logic.Relation
import PatchCoverage.Proofs.Xml.Place
import PatchCoverage.Report.FromXml

namespace PatchCoverage

/-!
# Documents that are read alike

`ClassReading` is what is read of a class before it is decided which of its
counters are its own: those directly inside it and those inside its methods.
Only some counters may be of interest, and `wanted` tells which.

`ReadsAlike` says that two elements agree in everything that any reading takes
from them.  It is kept by a change inside an element, `ReadsAlike.inside`, so a
change of a document needs to be looked at only where it happens; the main
statement `readings_of_eqvGen` goes on to any number of changes.
-/

open Xml (Element)

/-- The counters directly inside an element. -/
def ownCounters (element : Element) : List Counter :=
  (element.childrenNamed "counter").map Report.counterOf

/-- The counters directly inside the methods of an element. -/
def methodCounters (element : Element) : List Counter :=
  (element.childrenNamed "method").flatMap ownCounters

/-- A class has its own counters or, only without any, those of its methods. -/
theorem counters_classOf (element : Element) :
    (Report.classOf element).counters =
      if ownCounters element = [] then methodCounters element else ownCounters element := by
  unfold Report.classOf Report.counterElements ownCounters methodCounters
  simp only [List.isEmpty_iff, List.map_eq_nil_iff]
  split
  · rw [List.map_flatMap]
    rfl
  · rfl

/-- What is read of a class. -/
structure ClassReading where
  /-- The name of the class. -/
  name : String
  /-- The name of its source file. -/
  sourceName : String
  /-- The wanted counters directly inside it. -/
  own : List Counter
  /-- The wanted counters inside its methods. -/
  methods : List Counter

section Readings

variable (wanted : Counter → Bool)

/-- The reading of a class. -/
def classReading (element : Element) : ClassReading :=
  ⟨(element.attribute? "name").getD "", (element.attribute? "sourcefilename").getD "",
    (ownCounters element).filter wanted, (methodCounters element).filter wanted⟩

/-- The readings of the classes directly inside an element. -/
def classReadings (element : Element) : List ClassReading :=
  (element.childrenNamed "class").map (classReading wanted)

/-- The readings of all packages of a document: their names and classes. -/
def packageReadings (element : Element) : List (String × List ClassReading) :=
  (element.allNamed "package").map fun package =>
    ((package.attribute? "name").getD "", classReadings wanted package)

/-- Everything that is read of an element is the same for another. -/
structure ReadsAlike (first second : Element) : Prop where
  name : first.name = second.name
  attributes : first.attributes = second.attributes
  own : first.name = "class" ∨ first.name = "method" →
    (ownCounters first).filter wanted = (ownCounters second).filter wanted
  methods : (methodCounters first).filter wanted = (methodCounters second).filter wanted
  classes : classReadings wanted first = classReadings wanted second
  packages : packageReadings wanted first = packageReadings wanted second

end Readings

variable {wanted : Counter → Bool}

theorem ReadsAlike.classReading {first second : Element} (h : ReadsAlike wanted first second)
    (hName : first.name = "class") :
    PatchCoverage.classReading wanted first = PatchCoverage.classReading wanted second := by
  unfold PatchCoverage.classReading Element.attribute?
  rw [h.own (.inl hName), h.methods, h.attributes]

theorem packageReadings_node (name : String) (attributes : List (String × String))
    (children : List Element) :
    packageReadings wanted (.node name attributes children) =
      (if name = "package" then
        [((attributes.lookup "name").getD "",
          classReadings wanted (.node name attributes children))] else []) ++
        children.flatMap (packageReadings wanted) := by
  rw [packageReadings, Element.allNamed_node, List.map_append, List.map_flatMap]
  split <;> rfl

/-- Elements that differ in what is inside them are read alike if the parts that
matter are. -/
theorem readsAlike_node {name : String} {attributes : List (String × String)}
    {children others : List Element}
    (hOwn : name = "class" ∨ name = "method" →
      (ownCounters (.node name attributes children)).filter wanted =
        (ownCounters (.node name attributes others)).filter wanted)
    (hMethods : (methodCounters (.node name attributes children)).filter wanted =
      (methodCounters (.node name attributes others)).filter wanted)
    (hClasses : classReadings wanted (.node name attributes children) =
      classReadings wanted (.node name attributes others))
    (hPackages : children.flatMap (packageReadings wanted) =
      others.flatMap (packageReadings wanted)) :
    ReadsAlike wanted (.node name attributes children) (.node name attributes others) := by
  refine ⟨rfl, rfl, hOwn, hMethods, hClasses, ?_⟩
  rw [packageReadings_node, packageReadings_node, hClasses, hPackages]

theorem childrenNamed_append {label name : String} {attributes : List (String × String)}
    {before after : List Element} :
    (Element.node name attributes (before ++ after)).childrenNamed label =
      (Element.node name attributes before).childrenNamed label ++
        (Element.node name attributes after).childrenNamed label :=
  List.filter_append _ _

theorem childrenNamed_cons {label name : String} {attributes : List (String × String)}
    {child : Element} {after : List Element} :
    (Element.node name attributes (child :: after)).childrenNamed label =
      (if child.name = label then [child] else []) ++
        (Element.node name attributes after).childrenNamed label := by
  by_cases hName : child.name = label <;>
    simp [Element.childrenNamed, Element.children, hName]

theorem childrenNamed_eq_nil {label name : String} {attributes : List (String × String)}
    {children : List Element} (h : ∀ child ∈ children, child.name ≠ label) :
    (Element.node name attributes children).childrenNamed label = [] :=
  List.filter_eq_nil_iff.mpr fun child hMem hName => h child hMem (beq_iff_eq.mp hName)

theorem packageReadings_eq_nil {element : Element}
    (h : ∀ found ∈ element.withDescendants, found.name ≠ "package") :
    packageReadings wanted element = [] :=
  List.map_eq_nil_iff.mpr (List.filter_eq_nil_iff.mpr fun found hMem hName =>
    h found hMem (beq_iff_eq.mp hName))

/-- An element that says nothing of interest can be added to another. -/
theorem ReadsAlike.insert {name : String} {attributes : List (String × String)}
    {before after : List Element} {added : Element} (hMethod : added.name ≠ "method")
    (hClass : added.name ≠ "class")
    (hCounter : added.name = "counter" → name = "class" ∨ name = "method" →
      wanted (Report.counterOf added) = false)
    (hPlain : ∀ found ∈ added.withDescendants, found.name ≠ "package") :
    ReadsAlike wanted (.node name attributes (before ++ after))
      (.node name attributes (before ++ added :: after)) := by
  have hSame : ∀ label, added.name ≠ label →
      (Element.node name attributes (before ++ after)).childrenNamed label =
        (Element.node name attributes (before ++ added :: after)).childrenNamed label := by
    intro label hName
    rw [childrenNamed_append, childrenNamed_append, childrenNamed_cons, if_neg hName,
      List.nil_append]
  refine readsAlike_node (fun hName => ?_) ?_ ?_ ?_
  · by_cases hAdded : added.name = "counter"
    · rw [ownCounters, ownCounters, childrenNamed_append, childrenNamed_append,
        childrenNamed_cons, if_pos hAdded]
      simp [hCounter hAdded hName]
    · rw [ownCounters, ownCounters, hSame "counter" hAdded]
  · rw [methodCounters, methodCounters, hSame "method" hMethod]
  · rw [classReadings, classReadings, hSame "class" hClass]
  · rw [List.flatMap_append, List.flatMap_append, List.flatMap_cons,
      packageReadings_eq_nil hPlain, List.nil_append]

/-- Elements are read alike if children of theirs are. -/
theorem ReadsAlike.inside {name : String} {attributes : List (String × String)}
    {before after : List Element} {child other : Element} (h : ReadsAlike wanted child other) :
    ReadsAlike wanted (.node name attributes (before ++ child :: after))
      (.node name attributes (before ++ other :: after)) := by
  -- One part for each role of the child: a counter, a method, a class, or around a package.
  refine readsAlike_node (fun _ => ?_) ?_ ?_ ?_
  · have hCounter : Report.counterOf child = Report.counterOf other := by
      unfold Report.counterOf Report.integerAttribute Element.attribute?
      rw [h.attributes]
    unfold ownCounters
    rw [childrenNamed_append, childrenNamed_append, childrenNamed_cons, childrenNamed_cons,
      ← h.name]
    split <;> simp [hCounter]
  · unfold methodCounters
    rw [childrenNamed_append, childrenNamed_append, childrenNamed_cons, childrenNamed_cons,
      ← h.name]
    split
    · rename_i hMethod
      simp [h.own (.inr hMethod)]
    · rfl
  · unfold classReadings
    rw [childrenNamed_append, childrenNamed_append, childrenNamed_cons, childrenNamed_cons,
      ← h.name]
    split
    · rename_i hClass
      simp [h.classReading hClass]
    · rfl
  · simp [h.packages]

/-- Any number of changes that readings do not notice leaves the readings of a
document as they are. -/
theorem readings_of_eqvGen {Changes : Element → Element → Prop}
    (hStep : ∀ {first second}, Changes first second → ReadsAlike wanted first second)
    {first second : Element} (h : Relation.EqvGen Changes first second) :
    first.name = second.name ∧ packageReadings wanted first = packageReadings wanted second := by
  induction h with
  | rel first second hChange => exact ⟨(hStep hChange).name, (hStep hChange).packages⟩
  | refl element => exact ⟨rfl, rfl⟩
  | symm first second _ ih => exact ⟨ih.1.symm, ih.2.symm⟩
  | trans first second third _ _ ihFirst ihSecond =>
      exact ⟨ihFirst.1.trans ihSecond.1, ihFirst.2.trans ihSecond.2⟩

end PatchCoverage
