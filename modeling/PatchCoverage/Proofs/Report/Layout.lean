import PatchCoverage.Proofs.Failure
import PatchCoverage.Proofs.Report.Alike
import PatchCoverage.Proofs.Report.Reading

namespace PatchCoverage

/-!
# What a report does not depend on

Two documents can be laid out differently and still have the same report:
packages may be gathered in groups, and documents say more than a report is
interested in.  `Rearranges` is one such change, made anywhere in a document.

Main statements: `Rearranges.readsAlike`, by which one change is not noticed by
any reading, and `readReport_of_document`, the account of a whole document.
-/

open Xml (Element)

/-- Changes of a document that its report says nothing of. -/
inductive Rearranges : Element → Element → Prop
  /-- Packages and groups that stand in a row are wrapped in a group. -/
  | wrap {name : String} {attributes groupAttributes : List (String × String)}
      {before inside after : List Element}
      (hInside : ∀ child ∈ inside, child.name = "package" ∨ child.name = "group") :
      Rearranges (.node name attributes (before ++ inside ++ after))
        (.node name attributes (before ++ .node "group" groupAttributes inside :: after))
  /-- A source file, or a counter of a package, a group or the report, is added. -/
  | add {name : String} {attributes : List (String × String)} {before after : List Element}
      {added : Element}
      (hAdded : added.name = "sourcefile" ∨
        added.name = "counter" ∧ (name = "package" ∨ name = "group" ∨ name = "report"))
      (hPlain : ∀ found ∈ added.withDescendants, found.name ≠ "package") :
      Rearranges (.node name attributes (before ++ after))
        (.node name attributes (before ++ added :: after))
  /-- An element inside is changed. -/
  | inside {name : String} {attributes : List (String × String)} {before after : List Element}
      {child other : Element} (hChild : Rearranges child other) :
      Rearranges (.node name attributes (before ++ child :: after))
        (.node name attributes (before ++ other :: after))

/-! ## One change -/

/-- No reading notices a change of the layout. -/
theorem Rearranges.readsAlike {wanted : Counter → Bool} {first second : Element}
    (h : Rearranges first second) : ReadsAlike wanted first second := by
  induction h with
  | @wrap name attributes groupAttributes before inside after hInside =>
      have hNone : ∀ label, label ≠ "package" → label ≠ "group" →
          (Element.node name attributes inside).childrenNamed label = [] := by
        intro label hPackage hGroup
        refine childrenNamed_eq_nil fun child hMem hName => ?_
        rcases hInside child hMem with hChild | hChild
        · exact hPackage (hName.symm.trans hChild)
        · exact hGroup (hName.symm.trans hChild)
      have hSame : ∀ label, label ≠ "package" → label ≠ "group" →
          (Element.node name attributes (before ++ inside ++ after)).childrenNamed label =
            (Element.node name attributes
              (before ++ .node "group" groupAttributes inside :: after)).childrenNamed label := by
        intro label hPackage hGroup
        rw [childrenNamed_append, childrenNamed_append, childrenNamed_append, childrenNamed_cons,
          hNone label hPackage hGroup, if_neg fun hName => hGroup hName.symm, List.append_nil,
          List.nil_append]
      -- A row of packages and groups has no part in the other readings of the parent.
      refine readsAlike_node (fun _ => ?_) ?_ ?_ ?_
      · rw [ownCounters, ownCounters, hSame "counter" (by decide) (by decide)]
      · rw [methodCounters, methodCounters, hSame "method" (by decide) (by decide)]
      · rw [classReadings, classReadings, hSame "class" (by decide) (by decide)]
      · rw [List.flatMap_append, List.flatMap_append, List.flatMap_append, List.flatMap_cons,
          packageReadings_node, if_neg (by decide), List.nil_append, List.append_assoc]
  | @add name attributes before after added hAdded hPlain =>
      have hOther : ∀ label, label ≠ "sourcefile" → label ≠ "counter" → added.name ≠ label := by
        rintro label hSource hCounter rfl
        exact hAdded.elim hSource fun h => hCounter h.1
      refine .insert (hOther _ (by decide) (by decide)) (hOther _ (by decide) (by decide))
        (fun hCounter hName => ?_) hPlain
      -- Only a source file can have been added to a class or a method.
      have hParent : name = "package" ∨ name = "group" ∨ name = "report" :=
        (hAdded.resolve_left fun hSource => absurd (hSource ▸ hCounter) (by decide)).2
      rcases hName with rfl | rfl <;> exact absurd hParent (by decide)
  | inside _ ih => exact ih.inside

/-! ## A whole document -/

/-- The class of its reading. -/
def ClassReading.cls (reading : ClassReading) : ClassCoverage :=
  ⟨reading.name, reading.sourceName, if reading.own = [] then reading.methods else reading.own⟩

theorem cls_classReading (element : Element) :
    (classReading (fun _ => true) element).cls = Report.classOf element := by
  unfold classReading ClassReading.cls
  rw [List.filter_true, List.filter_true, ← counters_classOf]
  rfl

/-- A report is made of the readings of a document. -/
theorem ofElement_eq (root : Element) :
    Report.ofElement root = ⟨(packageReadings (fun _ => true) root).map fun package =>
      ⟨package.1, package.2.map ClassReading.cls⟩⟩ := by
  have hPackage : ∀ package : Element, Report.packageOf package =
      ⟨(package.attribute? "name").getD "",
        (classReadings (fun _ => true) package).map ClassReading.cls⟩ := by
    intro package
    rw [classReadings, List.map_map, Report.packageOf]
    exact congrArg _ (List.map_congr_left fun cls _ => (cls_classReading cls).symm)
  rw [Report.ofElement, packageReadings, List.map_map]
  exact congrArg _ (List.map_congr_left fun package _ => hPackage package)

/-- Documents that differ in their layout have the same report. -/
theorem ofElement_of_rearranged {first second : Element}
    (h : Relation.EqvGen Rearranges first second) :
    first.name = second.name ∧ Report.ofElement first = Report.ofElement second := by
  obtain ⟨hName, hReadings⟩ := readings_of_eqvGen Rearranges.readsAlike h
  exact ⟨hName, by rw [ofElement_eq, hReadings, ← ofElement_eq]⟩

theorem Report.ofOctets_eq_ok {octets : List UInt8} {root : Element} (file : PathName)
    (wording : String) (hDocument : Element.ofOctets octets = .ok root)
    (hRoot : root.name = "report") :
    Report.ofOctets file wording octets = .ok (.ofElement root) := by
  unfold Report.ofOctets
  rw [hDocument]
  dsimp only
  rw [if_pos hRoot]

theorem World.readReport_eq_ok {world : World} {file : PathName} {octets : List UInt8}
    {root : Element} (hRead : world.read file = .ok octets)
    (hDocument : Element.ofOctets octets = .ok root) (hRoot : root.name = "report") :
    world.readReport file = .ok (.ofElement root) := by
  unfold World.readReport
  rw [hRead]
  exact Report.ofOctets_eq_ok file _ hDocument hRoot

/-- The account of a document that is a report: what is read of it is the one
report that the document has, its classes are, one for one, those directly inside
packages, and a document that differs in its layout has the same report. -/
theorem World.readReport_of_document {world : World} {file : PathName} {octets : List UInt8}
    {root : Element} (hRead : world.read file = .ok octets)
    (hDocument : Element.ofOctets octets = .ok root) (hRoot : root.name = "report") :
    ∃ report, world.readReport file = .ok report ∧
      (∀ other, IsReportOf root other ↔ other = report) ∧
      (∃ places, ListsClasses root places ∧
        List.Forall₂ (fun place item => ∃ package cls,
          IsClassAt root place.1 place.2 package cls ∧ IsPackageOf package item.1 ∧
            IsClassOf cls item.2) places report.classes ∧
        report.classCount = places.length) ∧
      ∀ (otherWorld : World) (otherFile : PathName) (otherOctets : List UInt8)
        (otherRoot : Element), otherWorld.read otherFile = .ok otherOctets →
        Element.ofOctets otherOctets = .ok otherRoot →
        Relation.EqvGen Rearranges root otherRoot →
        otherWorld.readReport otherFile = .ok report := by
  refine ⟨.ofElement root, readReport_eq_ok hRead hDocument hRoot, isReportOf_iff root,
    exists_listsClasses root, ?_⟩
  intro otherWorld otherFile otherOctets otherRoot hOtherRead hOtherDocument hRearranged
  obtain ⟨hName, hReport⟩ := ofElement_of_rearranged hRearranged
  rw [hReport]
  exact readReport_eq_ok hOtherRead hOtherDocument (hName ▸ hRoot)

/-- A world with one file, a report. -/
def worldOfReport (document : String) : World :=
  { environment := ⟨[]⟩
    files := .directory [("report.xml", .file (encodeUtf8 document))]
    directory := []
    git := none
    input := []
    columns := 80 }

/-- The name of that file. -/
def reportName : PathName :=
  ⟨"", ["report.xml"]⟩

theorem read_worldOfReport (document : String) :
    (worldOfReport document).read reportName = .ok (encodeUtf8 document) := by
  have hPlace : (worldOfReport document).locate reportName = .ok ["report.xml"] := by
    have hName : reportName.hasZero = false ∧
        ¬ PathName.sizeLimit < reportName.toText.utf8ByteSize := by decide +kernel
    rw [World.locate, hName.1, if_neg Bool.false_ne_true, if_neg hName.2]
    rfl
  rw [World.read, hPlace]
  rfl

/-- A package with one class as it is written. -/
def packageText : String :=
  "<package name='p'><class name='A'><counter missed='1'/></class></package>"

/-- That package. -/
def packageElement : Element :=
  .node "package" [("name", "p")] [
    .node "class" [("name", "A")] [.node "counter" [("missed", "1")] []]]

/-- The package on its own and in a group: both documents have the same report. -/
theorem readReport_of_groupedPackage :
    ∃ report,
      (worldOfReport ("<report>" ++ packageText ++ "</report>")).readReport reportName =
          .ok report ∧
        (worldOfReport ("<report><group>" ++ packageText ++ "</group></report>")).readReport
          reportName = .ok report ∧
        report.classCount = 1 ∧ IsReportOf (.node "report" [] [packageElement]) report := by
  have hPlain : Element.ofOctets (encodeUtf8 ("<report>" ++ packageText ++ "</report>")) =
      .ok (.node "report" [] [packageElement]) := by decide +kernel
  have hGrouped : Element.ofOctets
      (encodeUtf8 ("<report><group>" ++ packageText ++ "</group></report>")) =
      .ok (.node "report" [] [.node "group" [] [packageElement]]) := by decide +kernel
  have hWrapped : Rearranges (.node "report" [] ([] ++ [packageElement] ++ []))
      (.node "report" [] ([] ++ [.node "group" [] [packageElement]])) := .wrap (by decide)
  obtain ⟨report, hRead, hReport, -, hOther⟩ :=
    World.readReport_of_document (read_worldOfReport _) hPlain rfl
  have hSame : report = ⟨[⟨"p", [⟨"A", "", [⟨"", 1, 0⟩]⟩]⟩]⟩ := by
    rw [← (hReport _).mp ((isReportOf_iff _ _).mpr rfl)]
    decide +kernel
  refine ⟨report, hRead, ?_, ?_, (hReport report).mpr rfl⟩
  · exact hOther _ _ _ _ (read_worldOfReport _) hGrouped (.rel _ _ hWrapped)
  · rw [hSame]
    rfl

/-- A document with one class that has one counter. -/
def countedElement (missed covered : String) : Element :=
  .node "report" [] [.node "package" [("name", "p")] [
    .node "class" [("name", "p/A"), ("sourcefilename", "A.java")] [
      .node "counter" [("type", "INSTRUCTION"), ("missed", missed), ("covered", covered)] []]]]

theorem integerAttribute_eq (element : Element) (name : String) :
    Report.integerAttribute element name =
      ((element.attribute? name).bind fun text => (readInteger text).toOption).getD 0 := by
  unfold Report.integerAttribute
  cases element.attribute? name with
  | none => rfl
  | some text =>
      rw [Option.map_some, Option.bind_some]
      cases readInteger text <;> rfl

theorem ofElement_countedElement (missed covered : String) :
    Report.ofElement (countedElement missed covered) =
      ⟨[⟨"p", [⟨"p/A", "A.java", [⟨"INSTRUCTION",
        (readInteger missed).toOption.getD 0, (readInteger covered).toOption.getD 0⟩]⟩]⟩]⟩ := by
  simp [Report.ofElement, Report.packageOf, Report.classOf, Report.counterElements,
    Report.counterOf, integerAttribute_eq, countedElement, Element.allNamed,
    Element.withDescendants, Element.listDescendants, Element.childrenNamed, Element.children,
    Element.name, Element.attribute?, Element.attributes, List.lookup_cons]

/-- An integer of 4301 digits is written where a document counts what is covered, and
its report has none covered. -/
theorem covered_missed_of_4301_digits :
    WritesInteger (String.ofList ('1' :: List.replicate 4300 '0')) (10 ^ 4300) 4301 ∧
      Report.ofElement (countedElement "1" (String.ofList ('1' :: List.replicate 4300 '0'))) =
        ⟨[⟨"p", [⟨"p/A", "A.java", [⟨"INSTRUCTION", 1, 0⟩]⟩]⟩]⟩ := by
  have hWritten := writesInteger_ten_pow 4300
  have hOne : readInteger "1" = .ok 1 := by decide
  refine ⟨hWritten, ?_⟩
  rw [ofElement_countedElement, readInteger_of_writesInteger hWritten, if_neg (by decide), hOne]
  rfl

end PatchCoverage
