import PatchCoverage.Proofs.Report.Layout
import PatchCoverage.Proofs.Report.Reading
import PatchCoverage.Scoring.Analysis

namespace PatchCoverage

/-!
# Counters of other kinds

An analysis scores one kind of counter.  `analyze_onlyKind` says that it reads no
other, but which counters a class has was settled before: its own, of whatever
kind, keep those of its methods from being read.  `Recounts` changes counters of
other kinds in a document, and `SameLevel` says when such a change leaves the
counters of the kind with a class where they were read.

The main statement is `analyze_of_recounted`: two documents that differ in
counters of other kinds have the same counters of the kind if and only if all
their classes are read at the same level, and then every analysis is the same.
-/

open Xml (Element)

/-! ## Only one kind is read -/

/-- Whether a counter is of a kind. -/
def isOfKind (kind : String) (counter : Counter) : Bool :=
  counter.kind == kind

/-- A class with its counters of one kind. -/
def ClassCoverage.onlyKind (kind : String) (cls : ClassCoverage) : ClassCoverage :=
  { cls with counters := cls.counters.filter (isOfKind kind) }

/-- A package whose classes have only counters of one kind. -/
def PackageCoverage.onlyKind (kind : String) (package : PackageCoverage) : PackageCoverage :=
  { package with classes := package.classes.map (ClassCoverage.onlyKind kind) }

/-- A report whose classes have only counters of one kind. -/
def Report.onlyKind (kind : String) (report : Report) : Report :=
  ⟨report.packages.map (PackageCoverage.onlyKind kind)⟩

theorem totals_onlyKind (kind : String) (cls : ClassCoverage) :
    (cls.onlyKind kind).totals kind = cls.totals kind := by
  unfold ClassCoverage.totals ClassCoverage.onlyKind isOfKind
  rw [List.filter_filter]
  simp only [Bool.and_self]

theorem judge_onlyKind (rules : ScoringRules) (changed : List String) (package : PackageCoverage)
    (cls : ClassCoverage) :
    rules.judge changed (package.onlyKind rules.counterKind) (cls.onlyKind rules.counterKind) =
      rules.judge changed package cls := by
  unfold ScoringRules.judge ClassCoverage.percentage?
  rw [totals_onlyKind]
  rfl

theorem classes_onlyKind (kind : String) (report : Report) :
    (report.onlyKind kind).classes =
      report.classes.map fun item => (item.1.onlyKind kind, item.2.onlyKind kind) := by
  unfold Report.classes Report.onlyKind
  rw [List.flatMap_map, List.map_flatMap]
  refine congrArg (List.flatMap · _) (funext fun package => ?_)
  rw [List.map_map]
  exact List.map_map

theorem resultsUntilError_map {α β γ ε : Type} (convert : α → β) (step : β → Except ε γ)
    (items : List α) :
    resultsUntilError step (items.map convert) =
      resultsUntilError (fun item => step (convert item)) items := by
  induction items with
  | nil => rfl
  | cons item items ih =>
      rw [List.map_cons, resultsUntilError, resultsUntilError, ih]

/-- An analysis reads only counters of the kind that it scores. -/
theorem analyze_onlyKind (rules : ScoringRules) (report : Report) (changed : List String) :
    rules.analyze (report.onlyKind rules.counterKind) changed = rules.analyze report changed := by
  unfold ScoringRules.analyze
  rw [classes_onlyKind, resultsUntilError_map]
  simp only [judge_onlyKind]

/-! ## Changes of counters of other kinds -/

/-- Counters of other kinds than one are added to a class or a method. -/
inductive Recounts (kind : String) : Element → Element → Prop
  /-- A counter is added; it has no package inside. -/
  | add {name : String} {attributes : List (String × String)} {before after : List Element}
      {added : Element} (hParent : name = "class" ∨ name = "method")
      (hCounter : added.name = "counter") (hKind : (added.attribute? "type").getD "" ≠ kind)
      (hPlain : ∀ found ∈ added.withDescendants, found.name ≠ "package") :
      Recounts kind (.node name attributes (before ++ after))
        (.node name attributes (before ++ added :: after))
  /-- An element inside is changed. -/
  | inside {name : String} {attributes : List (String × String)} {before after : List Element}
      {child other : Element} (hChild : Recounts kind child other) :
      Recounts kind (.node name attributes (before ++ child :: after))
        (.node name attributes (before ++ other :: after))

/-- The only element inside is changed. -/
theorem Recounts.onlyChild {kind name : String} {attributes : List (String × String)}
    {child other : Element} (h : Recounts kind child other) :
    Recounts kind (.node name attributes [child]) (.node name attributes [other]) :=
  show Recounts kind (.node name attributes ([] ++ [child]))
    (.node name attributes ([] ++ [other])) from .inside h

/-- No reading that wants one kind notices counters of other kinds. -/
theorem Recounts.readsAlike {kind : String} {first second : Element}
    (h : Recounts kind first second) : ReadsAlike (isOfKind kind) first second := by
  induction h with
  | add hParent hCounter hKind hPlain =>
      have hUnwanted := beq_eq_false_iff_ne.mpr hKind
      exact .insert (hCounter ▸ by decide) (hCounter ▸ by decide) (fun _ _ => hUnwanted) hPlain
  | inside _ ih => exact ih.inside

/-- Two classes that differ in counters of other kinds are read at the same level:
the first has a counter of the kind itself, or its methods have none, or both
classes have counters themselves or neither has. -/
def SameLevel (kind : String) (first second : Element) : Prop :=
  (∃ counter ∈ ownCounters first, counter.kind = kind) ∨
    (∀ counter ∈ methodCounters first, counter.kind ≠ kind) ∨
    (ownCounters first = [] ↔ ownCounters second = [])

instance (kind : String) (first second : Element) : Decidable (SameLevel kind first second) :=
  inferInstanceAs (Decidable (_ ∨ _ ∨ _))

/-- All classes of two documents, package by package, are read at the same level. -/
def SameLevels (kind : String) (first second : Element) : Prop :=
  List.Forall₂
    (fun package other =>
      List.Forall₂ (SameLevel kind) (package.childrenNamed "class") (other.childrenNamed "class"))
    (first.allNamed "package") (second.allNamed "package")

instance (kind : String) (first second : Element) : Decidable (SameLevels kind first second) :=
  inferInstanceAs (Decidable (List.Forall₂ _ _ _))

theorem filter_isOfKind_eq_nil_iff {kind : String} {counters : List Counter} :
    counters.filter (isOfKind kind) = [] ↔ ∀ counter ∈ counters, counter.kind ≠ kind := by
  simp [isOfKind]

/-- Classes with the same counters of a kind at each level are left with the same
ones exactly if they are read at the same level. -/
theorem onlyKind_classOf_eq_iff {kind : String} {first second : Element}
    (h : classReading (isOfKind kind) first = classReading (isOfKind kind) second) :
    (Report.classOf first).onlyKind kind = (Report.classOf second).onlyKind kind ↔
      SameLevel kind first second := by
  obtain ⟨hName, hSource, hOwn, hMethods⟩ := ClassReading.mk.inj h
  have hCounters : (Report.classOf first).onlyKind kind = (Report.classOf second).onlyKind kind ↔
      (Report.classOf first).counters.filter (isOfKind kind) =
        (Report.classOf second).counters.filter (isOfKind kind) := by
    constructor
    · exact fun hSame => congrArg ClassCoverage.counters hSame
    · intro hSame
      unfold ClassCoverage.onlyKind
      rw [hSame]
      exact congrArg₂ (ClassCoverage.mk · · _) hName hSource
  rw [hCounters, counters_classOf, counters_classOf]
  unfold SameLevel
  by_cases hFirst : ownCounters first = [] <;> by_cases hSecond : ownCounters second = []
  · simp [hFirst, hSecond, hMethods]
  · -- The first class is read at its methods, the second one at itself, without the kind.
    rw [if_pos hFirst, if_neg hSecond, ← hOwn, hFirst, List.filter_nil,
      filter_isOfKind_eq_nil_iff]
    simp [hSecond]
  · have hNone : (ownCounters first).filter (isOfKind kind) = [] := by
      rw [hOwn, hSecond, List.filter_nil]
    have hNoCounter : ¬ ∃ counter ∈ ownCounters first, counter.kind = kind := by
      rintro ⟨counter, hMem, hKind⟩
      exact filter_isOfKind_eq_nil_iff.mp hNone counter hMem hKind
    rw [if_neg hFirst, if_pos hSecond, ← hMethods, hNone, eq_comm, filter_isOfKind_eq_nil_iff]
    simp [hFirst, hSecond, hNoCounter]
  · simp [hFirst, hSecond, hOwn]

section Lists

variable {α β γ : Type} {firsts : List α} {seconds : List β}

theorem map_eq_map_iff_forall₂ {first : α → γ} {second : β → γ} :
    firsts.map first = seconds.map second ↔
      List.Forall₂ (fun a b => first a = second b) firsts seconds := by
  rw [← List.forall₂_eq_eq_eq, List.forall₂_map_left_iff, List.forall₂_map_right_iff]

/-- Relations that agree on the pairs of two lists hold for the lists alike. -/
theorem forall₂_iff_of_forall₂ {Pairs Relates Other : α → β → Prop}
    (hPairs : List.Forall₂ Pairs firsts seconds)
    (hAgree : ∀ a b, Pairs a b → (Relates a b ↔ Other a b)) :
    List.Forall₂ Relates firsts seconds ↔ List.Forall₂ Other firsts seconds := by
  induction hPairs with
  | nil => simp
  | cons hPair _ ih => rw [List.forall₂_cons, List.forall₂_cons, hAgree _ _ hPair, ih]

end Lists

/-- Packages with the same readings are left with the same classes exactly if all of
these are read at the same level. -/
theorem onlyKind_packageOf_eq_iff {kind : String} {first second : Element}
    (hName : (first.attribute? "name").getD "" = (second.attribute? "name").getD "")
    (hClasses : classReadings (isOfKind kind) first = classReadings (isOfKind kind) second) :
    (Report.packageOf first).onlyKind kind = (Report.packageOf second).onlyKind kind ↔
      List.Forall₂ (SameLevel kind) (first.childrenNamed "class")
        (second.childrenNamed "class") := by
  have hParts : (Report.packageOf first).onlyKind kind = (Report.packageOf second).onlyKind kind ↔
      ((first.childrenNamed "class").map fun cls => (Report.classOf cls).onlyKind kind) =
        (second.childrenNamed "class").map fun cls => (Report.classOf cls).onlyKind kind := by
    unfold PackageCoverage.onlyKind Report.packageOf
    rw [PackageCoverage.mk.injEq, List.map_map, List.map_map]
    exact ⟨And.right, And.intro hName⟩
  rw [hParts, map_eq_map_iff_forall₂]
  exact forall₂_iff_of_forall₂ (map_eq_map_iff_forall₂.mp hClasses)
    fun _ _ hReading => onlyKind_classOf_eq_iff hReading

/-- Documents with the same readings have the same counters of a kind exactly if all
classes are read at the same level. -/
theorem onlyKind_ofElement_eq_iff {kind : String} {first second : Element}
    (h : packageReadings (isOfKind kind) first = packageReadings (isOfKind kind) second) :
    (Report.ofElement first).onlyKind kind = (Report.ofElement second).onlyKind kind ↔
      SameLevels kind first second := by
  have hParts : (Report.ofElement first).onlyKind kind = (Report.ofElement second).onlyKind kind ↔
      ((first.allNamed "package").map fun package => (Report.packageOf package).onlyKind kind) =
        (second.allNamed "package").map fun package =>
          (Report.packageOf package).onlyKind kind := by
    unfold Report.onlyKind Report.ofElement
    rw [Report.mk.injEq, List.map_map, List.map_map]
    rfl
  rw [hParts, map_eq_map_iff_forall₂]
  refine forall₂_iff_of_forall₂ (map_eq_map_iff_forall₂.mp h) fun package other hReading => ?_
  obtain ⟨hName, hClasses⟩ := Prod.mk.inj hReading
  exact onlyKind_packageOf_eq_iff hName hClasses

/-! ## Two documents -/

/-- Documents that differ in counters of other kinds have the same counters of the
kind exactly if all classes are read at the same level; then every analysis that
scores the kind is the same. -/
theorem analyze_of_recounted {kind : String} {first second : List UInt8} {root other : Element}
    (hFirst : Element.ofOctets first = .ok root) (hSecond : Element.ofOctets second = .ok other)
    (hRoot : root.name = "report")
    (hRecounted : Relation.EqvGen (Recounts kind) root other) :
    ∃ report otherReport, (∀ file wording, Report.ofOctets file wording first = .ok report) ∧
      (∀ file wording, Report.ofOctets file wording second = .ok otherReport) ∧
      (report.onlyKind kind = otherReport.onlyKind kind ↔ SameLevels kind root other) ∧
      (SameLevels kind root other → ∀ (rules : ScoringRules) (changed : List String),
        rules.counterKind = kind →
          rules.analyze report changed = rules.analyze otherReport changed) := by
  obtain ⟨hName, hReadings⟩ := readings_of_eqvGen Recounts.readsAlike hRecounted
  have hLevels := onlyKind_ofElement_eq_iff hReadings
  refine ⟨.ofElement root, .ofElement other,
    fun file wording => Report.ofOctets_eq_ok file wording hFirst hRoot,
    fun file wording => Report.ofOctets_eq_ok file wording hSecond (hName ▸ hRoot), hLevels, ?_⟩
  rintro hSame rules changed rfl
  calc
    rules.analyze (.ofElement root) changed =
        rules.analyze ((Report.ofElement root).onlyKind rules.counterKind) changed :=
      (analyze_onlyKind rules _ changed).symm
    _ = rules.analyze ((Report.ofElement other).onlyKind rules.counterKind) changed := by
        rw [hLevels.mpr hSame]
    _ = rules.analyze (.ofElement other) changed := analyze_onlyKind rules _ changed

/-- A document with one class, around what is inside it. -/
def oneClassText (inside : String) : String :=
  "<report><package name='p'><class name='A' sourcefilename='A'>" ++ inside ++
    "</class></package></report>"

/-- A document with one class. -/
def oneClassElement (inside : List Element) : Element :=
  .node "report" [] [.node "package" [("name", "p")] [
    .node "class" [("name", "A"), ("sourcefilename", "A")] inside]]

/-- A counter of a line that was covered. -/
def lineCounter : Element :=
  .node "counter" [("type", "LINE"), ("covered", "1")] []

/-- A counter of branches, of which there are none. -/
def branchCounter : Element :=
  .node "counter" [("type", "BRANCH")] []

theorem recounts_branchCounter (inside : List Element) :
    Recounts "LINE" (oneClassElement inside) (oneClassElement (inside ++ [branchCounter])) := by
  have hClass : Recounts "LINE"
      (.node "class" [("name", "A"), ("sourcefilename", "A")] (inside ++ []))
      (.node "class" [("name", "A"), ("sourcefilename", "A")] (inside ++ [branchCounter])) :=
    .add (.inl rfl) rfl (by decide) (by decide)
  rw [List.append_nil] at hClass
  exact hClass.onlyChild.onlyChild

/-- The line counted by a class itself is scored with and without branches. -/
theorem analyze_of_recounted_with_own_line :
    ∃ report otherReport,
      (∀ file wording, Report.ofOctets file wording
        (encodeUtf8 (oneClassText "<counter type='LINE' covered='1'/>")) = .ok report) ∧
      (∀ file wording, Report.ofOctets file wording (encodeUtf8
        (oneClassText "<counter type='LINE' covered='1'/><counter type='BRANCH'/>")) =
          .ok otherReport) ∧
      ∀ (rules : ScoringRules) (changed : List String), rules.counterKind = "LINE" →
        rules.analyze report changed = rules.analyze otherReport changed := by
  have hFirst : Element.ofOctets
      (encodeUtf8 (oneClassText "<counter type='LINE' covered='1'/>")) =
      .ok (oneClassElement [lineCounter]) := by decide +kernel
  have hSecond : Element.ofOctets (encodeUtf8
      (oneClassText "<counter type='LINE' covered='1'/><counter type='BRANCH'/>")) =
      .ok (oneClassElement [lineCounter, branchCounter]) := by decide +kernel
  obtain ⟨report, otherReport, hReport, hOther, -, hSame⟩ :=
    analyze_of_recounted hFirst hSecond rfl (.rel _ _ (recounts_branchCounter [lineCounter]))
  exact ⟨report, otherReport, hReport, hOther, hSame (by decide +kernel)⟩

/-- Rules that score lines. -/
def lineRules : ScoringRules :=
  ⟨"", "", "LINE", .zero⟩

/-- A line counted in a method is scored, and is not once the class itself counts
branches. -/
theorem line_missed_beside_branches :
    ∃ root other,
      Element.ofOctets (encodeUtf8
        (oneClassText "<method><counter type='LINE' covered='1'/></method>")) = .ok root ∧
      Element.ofOctets (encodeUtf8 (oneClassText
        "<method><counter type='LINE' covered='1'/></method><counter type='BRANCH'/>")) =
          .ok other ∧
      root.name = "report" ∧ Recounts "LINE" root other ∧
      ∃ result otherResult,
        (lineRules.analyze (.ofElement root) ["p/A"]).outcome = .ok result ∧
        (lineRules.analyze (.ofElement other) ["p/A"]).outcome = .ok otherResult ∧
        (result.entries.length, result.skipped) = (1, []) ∧
        (otherResult.entries.length, otherResult.skipped) = (0, ["p/A"]) := by
  have hRecounts := recounts_branchCounter [.node "method" [] [lineCounter]]
  have hScored : ((lineRules.analyze
      (.ofElement (oneClassElement [.node "method" [] [lineCounter]])) ["p/A"]).outcome.map
      fun result => (result.entries.length, result.skipped)).toOption = some (1, []) := by
    decide +kernel
  have hSkipped : ((lineRules.analyze (.ofElement
      (oneClassElement [.node "method" [] [lineCounter], branchCounter])) ["p/A"]).outcome.map
      fun result => (result.entries.length, result.skipped)).toOption = some (0, ["p/A"]) := by
    decide +kernel
  obtain ⟨result, hResult, hScored⟩ := exists_of_toOption_map hScored
  obtain ⟨otherResult, hOtherResult, hSkipped⟩ := exists_of_toOption_map hSkipped
  exact ⟨_, _, by decide +kernel, by decide +kernel, rfl, hRecounts, result, otherResult,
    hResult, hOtherResult, hScored, hSkipped⟩

end PatchCoverage
