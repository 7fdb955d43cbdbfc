import PatchCoverage.Proofs.Number.Monotone
import PatchCoverage.Proofs.Scoring.Exactness

namespace PatchCoverage

/-!
# Verdicts are monotone

Two reports of the same classes are analysed for the same changed files.  Where
every class that is scored misses no more in the second one and covers no less,
every percentage of the second analysis is at least that of the first, and so is the
average.  Each percentage is rounded, and so is each step of the sum; that the order
comes through is what `Binary64.Within` is for.

`verdicts_monotone` is the main statement: covering more, or asking for less, turns
no pass into a failure.
-/

/-- The packages of a report and their classes, each with its name and source file,
without any counters. -/
def Report.outline (report : Report) : List (String × List (String × String)) :=
  report.packages.map fun package =>
    (package.name, package.classes.map fun cls => (cls.name, cls.sourceName))

/-- Two classes that differ in their counters only. -/
structure SameClass (first second : PackageCoverage × ClassCoverage) : Prop where
  package : first.1.name = second.1.name
  name : first.2.name = second.2.name
  sourceName : first.2.sourceName = second.2.sourceName

/-- Classes of one outline correspond to each other. -/
theorem Report.forall₂_classes {first second : Report} (h : first.outline = second.outline) :
    List.Forall₂ SameClass first.classes second.classes := by
  obtain ⟨firstPackages⟩ := first
  obtain ⟨secondPackages⟩ := second
  unfold outline at h
  unfold classes
  dsimp only at h ⊢
  have hClasses {package other : PackageCoverage} {firstClasses secondClasses : List ClassCoverage}
      (hName : package.name = other.name)
      (h : (firstClasses.map fun cls => (cls.name, cls.sourceName)) =
        secondClasses.map fun cls => (cls.name, cls.sourceName)) :
      List.Forall₂ SameClass (firstClasses.map fun cls => (package, cls))
        (secondClasses.map fun cls => (other, cls)) := by
    rw [List.forall₂_map_left_iff, List.forall₂_map_right_iff]
    rw [← List.forall₂_eq_eq_eq, List.forall₂_map_left_iff, List.forall₂_map_right_iff] at h
    exact h.imp fun _ _ hSame => ⟨hName, (Prod.mk.inj hSame).1, (Prod.mk.inj hSame).2⟩
  rw [← List.forall₂_eq_eq_eq, List.forall₂_map_left_iff, List.forall₂_map_right_iff] at h
  induction h with
  | nil => exact .nil
  | cons hPackage _ ih =>
      obtain ⟨hName, hSame⟩ := Prod.mk.inj hPackage
      rw [List.flatMap_cons, List.flatMap_cons]
      exact List.rel_append (hClasses hName hSame) ih

namespace ScoringRules

/-- A class that has something to count in two reports, and in the second one misses
no more and covers no less. -/
structure Improves (rules : ScoringRules) (first second : PackageCoverage × ClassCoverage) :
    Prop where
  counts : rules.Counts first
  counts_after : rules.Counts second
  missed : second.2.missedOf rules.counterKind ≤ first.2.missedOf rules.counterKind
  covered : first.2.coveredOf rules.counterKind ≤ second.2.coveredOf rules.counterKind

/-- The rules with another threshold. -/
def withThreshold (rules : ScoringRules) (threshold : Binary64) : ScoringRules :=
  { rules with threshold }

section Join

variable {rules : ScoringRules} {changed : List String}

theorem matches_iff_of_sameClass {first second : PackageCoverage × ClassCoverage}
    (h : SameClass first second) : rules.Matches changed first ↔ rules.Matches changed second := by
  unfold Matches sourcePath
  rw [h.package, h.sourceName]

/-- Where every matched class improves, the same classes are scored. -/
theorem forall₂_scoredClasses {first second : List (PackageCoverage × ClassCoverage)}
    (hSame : List.Forall₂ SameClass first second)
    (hImproves : ∀ pair ∈ first.zip second, rules.Matches changed pair.1 →
      rules.Improves pair.1 pair.2) :
    List.Forall₂ (fun before after => SameClass before after ∧ rules.Improves before after)
      (rules.scoredClasses changed first) (rules.scoredClasses changed second) := by
  induction hSame with
  | nil => exact .nil
  | @cons before after first second hClass _ ih =>
      rw [List.zip_cons_cons, List.forall_mem_cons] at hImproves
      obtain ⟨hBefore, hOthers⟩ := hImproves
      by_cases hMatches : rules.Matches changed before
      · have hBetter := hBefore hMatches
        rw [scoredClasses_cons_of_counts hMatches hBetter.counts,
          scoredClasses_cons_of_counts ((matches_iff_of_sameClass hClass).mp hMatches)
            hBetter.counts_after]
        exact .cons ⟨hClass, hBetter⟩ (ih hOthers)
      · rw [scoredClasses_cons_of_not_matches hMatches,
          scoredClasses_cons_of_not_matches
            fun hAfter => hMatches ((matches_iff_of_sameClass hClass).mpr hAfter)]
        exact ih hOthers

end Join

end ScoringRules

/-! ## Percentages -/

/-- A file that misses no more and covers no less has no smaller percentage. -/
theorem ScoredFile.IsProportion.exists_within {before after : ScoredFile}
    (hBefore : before.IsProportion) (hAfter : after.IsProportion)
    (hMissed : after.missed ≤ before.missed) (hCovered : before.covered ≤ after.covered) :
    ∃ less more, before.percentage = .ok less ∧ after.percentage = .ok more ∧
      Binary64.Within (2 ^ 7) less more := by
  obtain ⟨less, lower, hLess, hLower, -⟩ := hBefore.percentage_near
  obtain ⟨more, upper, hMore, hUpper, hNear⟩ := hAfter.percentage_near
  refine ⟨less, more, hLess, hMore, lower, upper, hLower, hUpper, ?_, ?_⟩
  · obtain ⟨fraction, part, hFraction, hPart, -⟩ :=
      Binary64.hasValue_ofQuotient hBefore.covered_nonneg hBefore.total_pos
        (by linarith [hBefore.missed_nonneg])
    obtain ⟨fractionAfter, partAfter, hFractionAfter, hPartAfter, -⟩ :=
      Binary64.hasValue_ofQuotient hAfter.covered_nonneg hAfter.total_pos
        (by linarith [hAfter.missed_nonneg])
    rw [percentage, coveragePercentage, hFraction] at hLess
    rw [percentage, coveragePercentage, hFractionAfter] at hMore
    obtain rfl := Except.ok.inj hLess
    obtain rfl := Except.ok.inj hMore
    -- Beside the product of the covered items only the missed ones are left to compare.
    have hCross : before.covered * (after.missed + after.covered) ≤
        after.covered * (before.missed + before.covered) := by
      have hParts : before.covered * after.missed ≤ after.covered * before.missed :=
        mul_le_mul hCovered hMissed hAfter.missed_nonneg hAfter.covered_nonneg
      linarith
    have hOrder := Binary64.le_of_ofQuotient hBefore.covered_nonneg hAfter.covered_nonneg
      hBefore.total_pos hAfter.total_pos hCross hFraction hFractionAfter hPart hPartAfter
    exact hPart.le_of_mul hPartAfter Binary64.hasValue_hundred hOrder hLower hUpper
  · have hBound := hAfter.exactPercentage_bounds.2
    have hShown := (abs_le.mp hNear).2
    linarith

/-! ## Verdicts -/

/-- A scored file is the other one after a change that fails no file that passed. -/
structure ScoredFile.StillMeets (before after : ScoredFile) : Prop where
  path : before.path = after.path
  sourceName : before.sourceName = after.sourceName
  className : before.className = after.className
  meets : before.meetsThreshold = true → after.meetsThreshold = true

section Runs

variable {rules : ScoringRules} {lower : Binary64}

/-- The scored file of a class that improves has a percentage in order with the one
before, and meets a lower threshold if the one before met the threshold. -/
theorem ScoringRules.Improves.stillMeets {first second : PackageCoverage × ClassCoverage}
    (hClass : SameClass first second) (hImproves : rules.Improves first second)
    (hLower : lower.le rules.threshold = true) {before after : ScoredFile}
    (hBefore : rules.Scores first before) (hAfter : (rules.withThreshold lower).Scores second after)
    (hProportion : before.IsProportion) (hProportionAfter : after.IsProportion) :
    before.StillMeets after ∧
      ∃ less more, before.percentage = .ok less ∧ after.percentage = .ok more ∧
        Binary64.Within (2 ^ 7) less more := by
  have hMissed : after.missed ≤ before.missed := by
    rw [hBefore.missed, hAfter.missed]
    exact hImproves.missed
  have hCovered : before.covered ≤ after.covered := by
    rw [hBefore.covered, hAfter.covered]
    exact hImproves.covered
  obtain ⟨less, more, hLess, hMore, hWithin⟩ :=
    hProportion.exists_within hProportionAfter hMissed hCovered
  refine ⟨⟨?_, ?_, ?_, ?_⟩, less, more, hLess, hMore, hWithin⟩
  · rw [hBefore.path, hAfter.path]
    unfold ScoringRules.sourcePath ScoringRules.withThreshold
    rw [hClass.package, hClass.sourceName]
  · rw [hBefore.sourceName, hAfter.sourceName, hClass.sourceName]
  · rw [hBefore.className, hAfter.className, hClass.name]
  · obtain ⟨percentage, hPercentage, hVerdict⟩ := hBefore.verdict
    obtain ⟨percentageAfter, hPercentageAfter, hVerdictAfter⟩ := hAfter.verdict
    obtain rfl := Except.ok.inj (hPercentage.symm.trans hLess)
    obtain rfl := Except.ok.inj (hPercentageAfter.symm.trans hMore)
    rw [hVerdict, hVerdictAfter]
    intro hMeets
    exact Binary64.le_trans hLower (Binary64.le_trans hMeets hWithin.le)

/-- The files of two analyses, class by class, and their percentages. -/
theorem forall₂_stillMeets {first second : List (PackageCoverage × ClassCoverage)}
    (hClasses : List.Forall₂ (fun before after => SameClass before after ∧
      rules.Improves before after) first second)
    (hLower : lower.le rules.threshold = true) {before after : List ScoredFile}
    (hBefore : List.Forall₂ rules.Scores first before)
    (hAfter : List.Forall₂ (rules.withThreshold lower).Scores second after)
    (hProportions : ∀ file ∈ before, file.IsProportion)
    (hProportionsAfter : ∀ file ∈ after, file.IsProportion) :
    List.Forall₂ ScoredFile.StillMeets before after ∧
      ∃ percentages percentagesAfter, before.mapM ScoredFile.percentage = .ok percentages ∧
        after.mapM ScoredFile.percentage = .ok percentagesAfter ∧
        List.Forall₂ (Binary64.Within (2 ^ 7)) percentages percentagesAfter := by
  induction hClasses generalizing before after with
  | nil =>
      cases hBefore
      cases hAfter
      exact ⟨.nil, [], [], rfl, rfl, .nil⟩
  | cons hClass _ ih =>
      obtain _ | ⟨hScores, hBefore⟩ := hBefore
      obtain _ | ⟨hScoresAfter, hAfter⟩ := hAfter
      obtain ⟨hFile, hFiles⟩ := List.forall_mem_cons.mp hProportions
      obtain ⟨hFileAfter, hFilesAfter⟩ := List.forall_mem_cons.mp hProportionsAfter
      obtain ⟨hMeets, less, more, hLess, hMore, hWithin⟩ :=
        hClass.2.stillMeets hClass.1 hLower hScores hScoresAfter hFile hFileAfter
      obtain ⟨hOthers, percentages, percentagesAfter, hPercentages, hPercentagesAfter, hOrder⟩ :=
        ih hBefore hAfter hFiles hFilesAfter
      refine ⟨.cons hMeets hOthers, less :: percentages, more :: percentagesAfter, ?_, ?_,
        .cons hWithin hOrder⟩
      · rw [List.mapM_cons, hLess, hPercentages]
        rfl
      · rw [List.mapM_cons, hMore, hPercentagesAfter]
        rfl

/-- A result whose percentages are in order with those of another one that meets its
threshold, meets a threshold that is no higher. -/
theorem ChangeCoverage.meetsThreshold_of_within {before after : ChangeCoverage}
    (hLower : after.threshold.le before.threshold = true)
    (hLength : before.entries.length = after.entries.length)
    {percentages percentagesAfter : List Binary64}
    (hPercentages : before.entries.mapM ScoredFile.percentage = .ok percentages)
    (hPercentagesAfter : after.entries.mapM ScoredFile.percentage = .ok percentagesAfter)
    (hOrder : List.Forall₂ (Binary64.Within (2 ^ 7)) percentages percentagesAfter)
    (hMeets : before.meetsThreshold = .ok true) : after.meetsThreshold = .ok true := by
  by_cases hNone : after.entries = []
  · exact meetsThreshold_of_no_entries hNone
  · have hSome : before.entries ≠ [] := by
      intro hEmpty
      rw [hEmpty, List.length_nil, eq_comm, List.length_eq_zero_iff] at hLength
      exact hNone hLength
    have hStart : Binary64.Within (2 ^ 60) Binary64.zero Binary64.zero :=
      ⟨0, 0, Binary64.hasValue_zero, Binary64.hasValue_zero, le_rfl, by norm_num⟩
    have hMeans := (Binary64.Within.foldl_add hOrder hStart).div_ofNat
      (List.length_pos_iff.mpr hNone)
    rw [meetsThreshold_eq (average_eq hPercentages hSome), Except.ok.injEq, hLength] at hMeets
    rw [meetsThreshold_eq (average_eq hPercentagesAfter hNone), Except.ok.injEq]
    exact Binary64.le_trans hLower (Binary64.le_trans hMeets hMeans)

end Runs

/-- Covering more, or asking for less, turns no pass into a failure. -/
theorem verdicts_monotone {rules : ScoringRules} {changed : List String} {first second : Report}
    {lower : Binary64} (hSame : first.outline = second.outline) (hFirst : first.HasCounts)
    (hSecond : second.HasCounts)
    (hImproves : ∀ pair ∈ first.classes.zip second.classes, rules.Matches changed pair.1 →
      rules.Improves pair.1 pair.2)
    (hLower : lower.le rules.threshold = true) :
    ∃ before after, (rules.analyze first changed).outcome = .ok before ∧
      ((rules.withThreshold lower).analyze second changed).outcome = .ok after ∧
      List.Forall₂ ScoredFile.StillMeets before.entries after.entries ∧
      (before.meetsThreshold = .ok true → after.meetsThreshold = .ok true) := by
  obtain ⟨warnings, before, hAnalysis, hJoin, hProportions⟩ :=
    ScoringRules.exists_isJoin_of_hasCounts rules changed hFirst
  obtain ⟨warningsAfter, after, hAnalysisAfter, hJoinAfter, hProportionsAfter⟩ :=
    ScoringRules.exists_isJoin_of_hasCounts (rules.withThreshold lower) changed hSecond
  have hClasses := ScoringRules.forall₂_scoredClasses (Report.forall₂_classes hSame) hImproves
  obtain ⟨hFiles, percentages, percentagesAfter, hPercentages, hPercentagesAfter, hOrder⟩ :=
    forall₂_stillMeets hClasses hLower hJoin.entries hJoinAfter.entries hProportions
      hProportionsAfter
  refine ⟨before, after, by rw [hAnalysis], by rw [hAnalysisAfter], hFiles, ?_⟩
  refine ChangeCoverage.meetsThreshold_of_within ?_ hFiles.length_eq hPercentages
    hPercentagesAfter hOrder
  rw [hJoin.threshold, hJoinAfter.threshold]
  exact hLower

/-- The report of 29 in 50 with one instruction more that is covered. -/
def reportOf30In50 : Report :=
  ⟨[⟨"com/acme", [⟨"com/acme/Foo", "Foo.java", [⟨"INSTRUCTION", 20, 30⟩]⟩]⟩]⟩

/-- Rules that ask for half of the instructions. -/
def rulesOf50Percent : ScoringRules :=
  rulesOf58Percent.withThreshold (.ofNat 50)

/-- An instruction more and ten per cent less to ask for: what passed passes. -/
theorem verdicts_monotone_of_30_in_50 :
    ∃ before after,
      (rulesOf50Percent.analyze reportOf29In50 ["src/com/acme/Foo.java"]).outcome = .ok before ∧
      ((rulesOf50Percent.withThreshold (.ofNat 40)).analyze reportOf30In50
        ["src/com/acme/Foo.java"]).outcome = .ok after ∧
      List.Forall₂ ScoredFile.StillMeets before.entries after.entries ∧
      before.meetsThreshold = .ok true ∧ after.meetsThreshold = .ok true := by
  have hImproves : ∀ pair ∈ reportOf29In50.classes.zip reportOf30In50.classes,
      rulesOf50Percent.Matches ["src/com/acme/Foo.java"] pair.1 →
        rulesOf50Percent.Improves pair.1 pair.2 := by
    intro pair hPair _
    obtain rfl := List.mem_singleton.mp hPair
    exact ⟨by decide, by decide, by decide, by decide⟩
  have hCounts : reportOf30In50.HasCounts := by
    unfold Report.HasCounts
    decide
  have hLower : (Binary64.ofNat 40).le rulesOf50Percent.threshold = true := by
    decide +kernel
  obtain ⟨before, after, hBefore, hAfter, hFiles, hMeets⟩ :=
    verdicts_monotone (by decide) hasCounts_reportOf29In50 hCounts hImproves hLower
  have hRun : ((rulesOf50Percent.analyze reportOf29In50
      ["src/com/acme/Foo.java"]).outcome.toOption.map ChangeCoverage.meetsThreshold) =
      some (.ok true) := by
    decide +kernel
  rw [hBefore] at hRun
  have hMet := Option.some.inj hRun
  exact ⟨before, after, hBefore, hAfter, hFiles, hMet, hMeets hMet⟩

end PatchCoverage
