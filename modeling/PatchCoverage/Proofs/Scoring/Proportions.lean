import PatchCoverage.Config.Validation
import PatchCoverage.Proofs.Failure
import PatchCoverage.Proofs.Number.Monotone
import PatchCoverage.Proofs.Report.Kinds
import PatchCoverage.Proofs.Report.Reading
import PatchCoverage.Proofs.Scoring.Exactness

namespace PatchCoverage

/-!
# Entries as proportions

An entry is a proportion if what it covers is a part of what it counts.  Its
percentage is then one that a threshold can be.  Every entry counts something, since
a class without a positive sum is skipped; that neither part of the sum is negative
is up to the document.  An attribute that is no integer counts as zero, but a
negative integer counts as itself, and nothing behind the reader looks at its sign.

The main statement is `proportions_iff`, for every document that can be read.  A
document with a negative count is `percentage_of_negative_count`.
-/

/-! ## Counts of a document -/

namespace Xml.Element

theorem mem_withDescendants_iff {root found : Element} :
    found ∈ root.withDescendants ↔ ∃ place, root.descendant? place = some found := by
  rw [← map_snd_located, List.mem_map]
  constructor
  · rintro ⟨⟨place, _⟩, hMem, rfl⟩
    exact ⟨place, (mem_located root place _).mp hMem⟩
  · rintro ⟨place, hFound⟩
    exact ⟨(place, found), (mem_located root place found).mpr hFound, rfl⟩

theorem descendant?_append (root : Element) (place below : List Nat) :
    root.descendant? (place ++ below) =
      (root.descendant? place).bind fun element => element.descendant? below := by
  induction place generalizing root with
  | nil => simp [descendant?]
  | cons index place ih => simp [descendant?, ih, Option.bind_assoc]

/-- What stands inside an element of a document belongs to the document. -/
theorem mem_withDescendants_of_mem_children {root parent child : Element}
    (h : parent ∈ root.withDescendants) (hChild : child ∈ parent.children) :
    child ∈ root.withDescendants := by
  obtain ⟨place, hPlace⟩ := mem_withDescendants_iff.mp h
  obtain ⟨index, hIndex⟩ := List.mem_iff_getElem?.mp hChild
  apply mem_withDescendants_iff.mpr
  refine ⟨place ++ [index], ?_⟩
  rw [descendant?_append, hPlace]
  simp [descendant?, hIndex]

/-- An attribute of a counter counts as a negative integer. -/
def HasNegativeCount (root : Element) : Prop :=
  ∃ counter ∈ root.allNamed "counter", ∃ name ∈ ["missed", "covered"],
    ∃ value < 0, CountsAs (counter.attribute? name) value

theorem hasNegativeCount_iff {root : Element} :
    root.HasNegativeCount ↔ ∃ counter ∈ root.allNamed "counter", ∃ name ∈ ["missed", "covered"],
      Report.integerAttribute counter name < 0 := by
  unfold HasNegativeCount
  simp only [countsAs_iff, exists_eq_right]

instance (root : Element) : Decidable root.HasNegativeCount :=
  decidable_of_iff _ hasNegativeCount_iff.symm

/-- The counters of a class stand inside it. -/
theorem mem_allNamed_of_mem_counterElements {root cls counter : Element}
    (hClass : cls ∈ root.withDescendants) (h : counter ∈ Report.counterElements cls) :
    counter ∈ root.allNamed "counter" := by
  have hInside {parent : Element} (hParent : parent ∈ root.withDescendants)
      (hCounter : counter ∈ parent.childrenNamed "counter") :
      counter ∈ root.allNamed "counter" := by
    obtain ⟨hChild, hName⟩ := List.mem_filter.mp hCounter
    exact List.mem_filter.mpr ⟨mem_withDescendants_of_mem_children hParent hChild, hName⟩
  unfold Report.counterElements at h
  dsimp only at h
  split at h
  · obtain ⟨method, hMethod, hCounter⟩ := List.mem_flatMap.mp h
    apply hInside _ hCounter
    exact mem_withDescendants_of_mem_children hClass (List.mem_filter.mp hMethod).1
  · exact hInside hClass h

theorem exists_mem_counterElements {root : Element} {item : PackageCoverage × ClassCoverage}
    (hItem : item ∈ (Report.ofElement root).classes) {counter : Counter}
    (hCounter : counter ∈ item.2.counters) :
    ∃ element ∈ root.allNamed "counter", counter = Report.counterOf element := by
  rw [classes_ofElement] at hItem
  obtain ⟨⟨⟨place, package⟩, cls, index⟩, hClass, rfl⟩ := List.mem_map.mp hItem
  obtain ⟨hPlace, -, hIndex, -⟩ := mem_classItems.mp hClass
  obtain ⟨element, hElement, rfl⟩ := List.mem_map.mp hCounter
  have hPackage : package ∈ root.withDescendants := mem_withDescendants_iff.mpr ⟨place, hPlace⟩
  have hInside : cls ∈ root.withDescendants :=
    mem_withDescendants_of_mem_children hPackage (List.mem_of_getElem? hIndex)
  exact ⟨element, mem_allNamed_of_mem_counterElements hInside hElement, rfl⟩

/-- A document without negative counts has a report without them. -/
theorem hasCounts_ofElement {root : Element} (h : ¬ root.HasNegativeCount) :
    (Report.ofElement root).HasCounts := by
  intro item hItem counter hCounter
  obtain ⟨element, hElement, rfl⟩ := exists_mem_counterElements hItem hCounter
  have hNonneg {name : String} (hName : name ∈ ["missed", "covered"]) :
      0 ≤ Report.integerAttribute element name := by
    by_contra hNegative
    exact h (hasNegativeCount_iff.mpr ⟨element, hElement, name, hName, lt_of_not_ge hNegative⟩)
  exact ⟨hNonneg (by simp), hNonneg (by simp)⟩

end Xml.Element

/-! ## Percentages of proportions -/

namespace ScoredFile

/-- What a file covers is a part of what it counts. -/
structure IsPart (file : ScoredFile) : Prop where
  nonneg : 0 ≤ file.covered
  le_total : file.covered ≤ file.missed + file.covered

theorem isPart_iff (file : ScoredFile) : file.IsPart ↔ 0 ≤ file.missed ∧ 0 ≤ file.covered := by
  constructor
  · rintro ⟨hCovered, hTotal⟩
    exact ⟨by omega, hCovered⟩
  · rintro ⟨hMissed, hCovered⟩
    exact ⟨hCovered, by omega⟩

/-- Rounding keeps the percentage of a proportion between those of nothing and of
all. -/
theorem IsProportion.exists_isPercentage {file : ScoredFile} (h : file.IsProportion) :
    ∃ percentage, file.percentage = .ok percentage ∧ isPercentage percentage = true := by
  obtain ⟨hMissed, hCovered, hTotal⟩ := h
  obtain ⟨quotient, fraction, hQuotient, hFraction, -⟩ :=
    Binary64.hasValue_ofQuotient hCovered hTotal (by omega)
  obtain ⟨percentage, shown, hPercentage, hShown, -⟩ :=
    IsProportion.percentage_near ⟨hMissed, hCovered, hTotal⟩
  have hOne : Binary64.ofQuotient 1 1 = .ok (Binary64.ofNat 1) := by decide +kernel
  have hWhole : Binary64.ofNat 1 * Binary64.hundred = Binary64.hundred := by decide +kernel
  have hOneValue : (Binary64.ofNat 1).HasValue (1 : Nat) := Binary64.hasValue_ofNat (by norm_num)
  have hProduct : percentage = quotient * Binary64.hundred := by
    rw [ScoredFile.percentage, coveragePercentage, hQuotient] at hPercentage
    exact (Except.ok.inj hPercentage).symm
  -- The quotient is at most one; the product with one hundred keeps that order.
  have hFractionLe : fraction ≤ (1 : Nat) :=
    Binary64.le_of_ofQuotient hCovered (by norm_num) hTotal (by norm_num) (by omega) hQuotient
      hOne hFraction hOneValue
  have hShownLe : shown ≤ 100 := by
    rw [hProduct] at hShown
    exact hFraction.le_of_mul hOneValue Binary64.hasValue_hundred hFractionLe hShown
      (hWhole.symm ▸ Binary64.hasValue_hundred)
  refine ⟨percentage, hPercentage, ?_⟩
  rw [isPercentage, Bool.and_eq_true,
    Binary64.le_eq_true_iff Binary64.hasValue_zero.toRat? hShown.toRat?,
    Binary64.le_eq_true_iff hShown.toRat? Binary64.hasValue_hundred.toRat?]
  exact ⟨hShown.nonneg, hShownLe⟩

end ScoredFile

/-! ## Entries of an analysis -/

/-- What holds of single items exactly when it holds of their partners holds of all
of the one exactly when it holds of all of the other. -/
theorem forall_mem_iff_of_forall₂ {α β : Type} {Relates : α → β → Prop} {first : α → Prop}
    {second : β → Prop} {items : List α} {results : List β}
    (h : List.Forall₂ Relates items results)
    (hEach : ∀ item result, Relates item result → (first item ↔ second result)) :
    (∀ item ∈ items, first item) ↔ ∀ result ∈ results, second result := by
  induction h with
  | nil => simp
  | cons hRelates _ ih =>
      rw [List.forall_mem_cons, List.forall_mem_cons, hEach _ _ hRelates, ih]

namespace ScoringRules

variable {rules : ScoringRules} {report : Report} {changed : List String}

/-- The sums of a class's counters are counts. -/
def HasCounts (rules : ScoringRules) (item : PackageCoverage × ClassCoverage) : Prop :=
  0 ≤ item.2.missedOf rules.counterKind ∧ 0 ≤ item.2.coveredOf rules.counterKind

theorem Scores.isPart_iff {item : PackageCoverage × ClassCoverage} {file : ScoredFile}
    (h : rules.Scores item file) : rules.HasCounts item ↔ file.IsPart := by
  rw [ScoredFile.isPart_iff, h.missed, h.covered, HasCounts]

/-- Every entry counts something. -/
theorem IsJoin.total_pos {warnings : List String} {result : ChangeCoverage}
    (h : rules.IsJoin report changed warnings result) :
    ∀ file ∈ result.entries, 0 < file.missed + file.covered := by
  intro file hFile
  obtain ⟨item, hItem, hScores⟩ := exists_scores_of_mem h.entries hFile
  have hCounts : rules.Counts item := (mem_of_mem_scoredClasses hItem).2
  rw [hScores.missed, hScores.covered]
  exact hCounts

end ScoringRules

/-- The entries of an analysis of any document that can be read count something, and
are proportions exactly when no sum of a scored class is negative; so they are if the
document has no negative count.  The percentage of a proportion is one that a
threshold can be. -/
theorem proportions_iff {file : PathName} {wording : String} {octets : List UInt8}
    {report : Report} (rules : ScoringRules) (changed : List String) {result : ChangeCoverage}
    (hReport : Report.ofOctets file wording octets = .ok report)
    (hOutcome : (rules.analyze report changed).outcome = .ok result) :
    ∃ root, Xml.Element.ofOctets octets = .ok root ∧ IsReportOf root report ∧
      (∀ entry ∈ result.entries, 0 < entry.missed + entry.covered) ∧
      ((∀ entry ∈ result.entries, entry.IsPart) ↔
        ∀ item ∈ rules.scoredClasses changed report.classes, rules.HasCounts item) ∧
      (¬ root.HasNegativeCount → ∀ entry ∈ result.entries, entry.IsPart) ∧
      ∀ entry ∈ result.entries, entry.IsPart →
        ∃ percentage, entry.percentage = .ok percentage ∧ isPercentage percentage = true := by
  obtain ⟨root, hRoot, hName⟩ : ∃ root, Xml.Element.ofOctets octets = .ok root ∧
      report = .ofElement root := by
    unfold Report.ofOctets at hReport
    cases hDocument : Xml.Element.ofOctets octets with
    | error fault =>
        rw [hDocument] at hReport
        cases hReport
    | ok root =>
        rw [hDocument] at hReport
        dsimp only at hReport
        split at hReport
        · exact ⟨root, rfl, (Except.ok.inj hReport).symm⟩
        · cases hReport
  obtain ⟨warnings, hJoin⟩ := ScoringRules.exists_isJoin_of_analyze hOutcome
  have hParts : (∀ item ∈ rules.scoredClasses changed report.classes, rules.HasCounts item) ↔
      ∀ entry ∈ result.entries, entry.IsPart :=
    forall_mem_iff_of_forall₂ hJoin.entries fun item entry => ScoringRules.Scores.isPart_iff
  refine ⟨root, hRoot, (isReportOf_iff root report).mpr hName, hJoin.total_pos, hParts.symm, ?_, ?_⟩
  · intro hNone
    subst hName
    apply hParts.mp
    intro item hItem
    have hMem := (ScoringRules.mem_of_mem_scoredClasses hItem).1
    exact ClassCoverage.totals_nonneg (Xml.Element.hasCounts_ofElement hNone item hMem) _
  · intro entry hEntry hPart
    obtain ⟨hMissed, hCovered⟩ := entry.isPart_iff.mp hPart
    exact ScoredFile.IsProportion.exists_isPercentage
      ⟨hMissed, hCovered, hJoin.total_pos entry hEntry⟩

/-- A configuration that scores lines, for a report at the top of the repository. -/
def configurationOfLines : Configuration :=
  { Configuration.standard "/" with
    coverage := ⟨.ofNat 50, "LINE", true⟩
    paths := .of "" "" "r" }

/-- A count that is no integer leaves the entry a proportion. -/
theorem proportions_of_malformed_count :
    ∃ report result,
      Report.ofOctets (PathName.ofText "r") ""
        (encodeUtf8 (oneClassText "<counter type='LINE' missed='-' covered='3'/>")) =
          .ok report ∧
      (configurationOfLines.scoringRules.analyze report ["p/A"]).outcome = .ok result ∧
      result.entries.length = 1 ∧
      ∀ entry ∈ result.entries, entry.IsPart ∧
        ∃ percentage, entry.percentage = .ok percentage ∧ isPercentage percentage = true := by
  have hDocument : Xml.Element.ofOctets
      (encodeUtf8 (oneClassText "<counter type='LINE' missed='-' covered='3'/>")) =
      .ok (oneClassElement
        [.node "counter" [("type", "LINE"), ("missed", "-"), ("covered", "3")] []]) := by
    decide +kernel
  have hReport := Report.ofOctets_eq_ok (PathName.ofText "r") "" hDocument rfl
  obtain ⟨result, hOutcome, hLength⟩ := exists_of_toOption_map (by decide +kernel :
    ((configurationOfLines.scoringRules.analyze (.ofElement (oneClassElement
      [.node "counter" [("type", "LINE"), ("missed", "-"), ("covered", "3")] []]))
        ["p/A"]).outcome.map fun result => result.entries.length).toOption = some 1)
  obtain ⟨root, hRoot, -, -, -, hParts, hPercentages⟩ :=
    proportions_iff configurationOfLines.scoringRules ["p/A"] hReport hOutcome
  obtain rfl := Except.ok.inj (hDocument.symm.trans hRoot)
  have hEntries := hParts (by decide +kernel)
  exact ⟨_, result, hReport, hOutcome, hLength, fun entry hEntry =>
    ⟨hEntries entry hEntry, hPercentages entry hEntry (hEntries entry hEntry)⟩⟩

/-- With a negative count, under a configuration that is accepted, more is covered
than there is. -/
theorem percentage_of_negative_count :
    configurationOfLines.problems false = [] ∧
      ∃ report result,
        Report.ofOctets (PathName.ofText "r") ""
          (encodeUtf8 (oneClassText "<counter type='LINE' missed='-5' covered='10'/>")) =
            .ok report ∧
        (configurationOfLines.scoringRules.analyze report ["p/A"]).outcome = .ok result ∧
        ∃ entry ∈ result.entries, entry.missed + entry.covered < entry.covered ∧
          ∃ percentage, entry.percentage = .ok percentage ∧ isPercentage percentage = false := by
  have hDocument : Xml.Element.ofOctets
      (encodeUtf8 (oneClassText "<counter type='LINE' missed='-5' covered='10'/>")) =
      .ok (oneClassElement
        [.node "counter" [("type", "LINE"), ("missed", "-5"), ("covered", "10")] []]) := by
    decide +kernel
  have hReport := Report.ofOctets_eq_ok (PathName.ofText "r") "" hDocument rfl
  obtain ⟨result, hOutcome, hEntries⟩ := exists_of_toOption_map (by decide +kernel :
    ((configurationOfLines.scoringRules.analyze (.ofElement (oneClassElement
      [.node "counter" [("type", "LINE"), ("missed", "-5"), ("covered", "10")] []]))
        ["p/A"]).outcome.map ChangeCoverage.entries).toOption =
      some [⟨"p/A", "A", "A", -5, 10, true⟩])
  refine ⟨by decide +kernel, _, result, hReport, hOutcome, ⟨"p/A", "A", "A", -5, 10, true⟩,
    by simp [hEntries], by norm_num, Binary64.ofNat 200, by decide +kernel, by decide +kernel⟩

end PatchCoverage
