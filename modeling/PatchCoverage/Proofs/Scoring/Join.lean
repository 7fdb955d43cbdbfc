import Mathlib.Data.List.Forall2
import Mathlib.Algebra.BigOperators.Group.List.Basic
import Mathlib.Algebra.Ring.Int.Defs
import PatchCoverage.Config.Basic
import PatchCoverage.Scoring.Analysis

namespace PatchCoverage

/-!
# An analysis is a join

The analysis of a report is described here a second time, without its loop: the
classes whose source file changed are selected, and each of them makes one
scored file or one skipped path.  `ScoringRules.IsJoin` is that description.

The main statement is `analyze_eq_ok_iff_isJoin`: an analysis returns a result
exactly when the result is the join, so classes whose source file did not
change have no part in it.
-/

/-- The items of a kind that a class missed, over all its counters. -/
def ClassCoverage.missedOf (cls : ClassCoverage) (kind : String) : Int :=
  ((cls.counters.filter fun counter => counter.kind = kind).map Counter.missed).sum

/-- The items of a kind that a class covered, over all its counters. -/
def ClassCoverage.coveredOf (cls : ClassCoverage) (kind : String) : Int :=
  ((cls.counters.filter fun counter => counter.kind = kind).map Counter.covered).sum

theorem ClassCoverage.totals_eq (cls : ClassCoverage) (kind : String) :
    cls.totals kind = (cls.missedOf kind, cls.coveredOf kind) := by
  have hFilter : (cls.counters.filter fun counter => counter.kind == kind) =
      cls.counters.filter fun counter => counter.kind = kind :=
    List.filter_congr fun counter _ => by simp [beq_eq_decide]
  simp only [totals, missedOf, coveredOf, hFilter, List.sum, List.foldr_map]

namespace ScoringRules

/-- The path in the repository of a class's source file. -/
def sourcePath (rules : ScoringRules) (item : PackageCoverage × ClassCoverage) : String :=
  expectedSourcePath rules.modulePath rules.sourceRoot item.1.name item.2.sourceName

/-- A class is matched when it names a source file and that file changed. -/
def Matches (rules : ScoringRules) (changed : List String)
    (item : PackageCoverage × ClassCoverage) : Prop :=
  item.2.sourceName ≠ "" ∧ rules.sourcePath item ∈ changed

instance (rules : ScoringRules) (changed : List String) :
    DecidablePred (rules.Matches changed) :=
  fun _ => inferInstanceAs (Decidable (_ ∧ _))

/-- A class counts when it has items of the scored kind. -/
def Counts (rules : ScoringRules) (item : PackageCoverage × ClassCoverage) : Prop :=
  0 < item.2.missedOf rules.counterKind + item.2.coveredOf rules.counterKind

instance (rules : ScoringRules) : DecidablePred rules.Counts :=
  fun _ => inferInstanceAs (Decidable (_ < _))

/-- The matched classes of a list that count. -/
def scoredClasses (rules : ScoringRules) (changed : List String)
    (items : List (PackageCoverage × ClassCoverage)) : List (PackageCoverage × ClassCoverage) :=
  (items.filter fun item => rules.Matches changed item).filter fun item => rules.Counts item

/-- The matched classes of a list that have nothing to count. -/
def skippedClasses (rules : ScoringRules) (changed : List String)
    (items : List (PackageCoverage × ClassCoverage)) : List (PackageCoverage × ClassCoverage) :=
  (items.filter fun item => rules.Matches changed item).filter fun item => ¬ rules.Counts item

/-- What a scored file says of the class that it was made from.  The verdict
compares the threshold with the percentage of the sums that the file keeps. -/
structure Scores (rules : ScoringRules) (item : PackageCoverage × ClassCoverage)
    (file : ScoredFile) : Prop where
  path : file.path = rules.sourcePath item
  sourceName : file.sourceName = item.2.sourceName
  className : file.className = item.2.name
  missed : file.missed = item.2.missedOf rules.counterKind
  covered : file.covered = item.2.coveredOf rules.counterKind
  verdict : ∃ percentage, file.percentage = .ok percentage ∧
    file.meetsThreshold = rules.threshold.le percentage

/-- The result of joining a report with changed files, and the warnings that
go with it. -/
structure IsJoin (rules : ScoringRules) (report : Report) (changed : List String)
    (warnings : List String) (result : ChangeCoverage) : Prop where
  changedFiles : result.changedFiles = changed
  threshold : result.threshold = rules.threshold
  entries : List.Forall₂ rules.Scores (rules.scoredClasses changed report.classes) result.entries
  skipped : result.skipped = (rules.skippedClasses changed report.classes).map rules.sourcePath
  warnings : warnings = result.skipped.map (skippedWarning rules.counterKind)

/-- A class makes at most one scored file. -/
theorem Scores.unique {rules : ScoringRules} {item : PackageCoverage × ClassCoverage}
    {first second : ScoredFile} (hFirst : rules.Scores item first)
    (hSecond : rules.Scores item second) : first = second := by
  have hPath : first.path = second.path := hFirst.path.trans hSecond.path.symm
  have hSourceName : first.sourceName = second.sourceName :=
    hFirst.sourceName.trans hSecond.sourceName.symm
  have hClassName : first.className = second.className :=
    hFirst.className.trans hSecond.className.symm
  have hMissed : first.missed = second.missed := hFirst.missed.trans hSecond.missed.symm
  have hCovered : first.covered = second.covered := hFirst.covered.trans hSecond.covered.symm
  have hVerdict : first.meetsThreshold = second.meetsThreshold := by
    obtain ⟨firstPercentage, hFirstPercentage, hFirstVerdict⟩ := hFirst.verdict
    obtain ⟨secondPercentage, hSecondPercentage, hSecondVerdict⟩ := hSecond.verdict
    rw [ScoredFile.percentage, hMissed, hCovered] at hFirstPercentage
    have hSame : firstPercentage = secondPercentage :=
      Except.ok.inj (hFirstPercentage.symm.trans hSecondPercentage)
    rw [hFirstVerdict, hSecondVerdict, hSame]
  cases first
  cases second
  simp_all only

/-! ## Judging one class -/

/-- The percentage of a class, from its counters of the kind that is scored. -/
def percentageOf (rules : ScoringRules) (item : PackageCoverage × ClassCoverage) :
    Except ArithmeticError Binary64 :=
  coveragePercentage (item.2.missedOf rules.counterKind) (item.2.coveredOf rules.counterKind)

/-- The scored file of a class with the given percentage. -/
def scoredFile (rules : ScoringRules) (item : PackageCoverage × ClassCoverage)
    (percentage : Binary64) : ScoredFile :=
  { path := rules.sourcePath item
    sourceName := item.2.sourceName
    className := item.2.name
    missed := item.2.missedOf rules.counterKind
    covered := item.2.coveredOf rules.counterKind
    meetsThreshold := rules.threshold.le percentage }

theorem scores_scoredFile {rules : ScoringRules} {item : PackageCoverage × ClassCoverage}
    {percentage : Binary64} (h : rules.percentageOf item = .ok percentage) :
    rules.Scores item (rules.scoredFile item percentage) :=
  ⟨rfl, rfl, rfl, rfl, rfl, percentage, h, rfl⟩

/-- A file that a class is scored by is the one with the percentage of the
class. -/
theorem Scores.exists_percentageOf {rules : ScoringRules}
    {item : PackageCoverage × ClassCoverage} {file : ScoredFile}
    (hScores : rules.Scores item file) :
    ∃ percentage, rules.percentageOf item = .ok percentage ∧
      file = rules.scoredFile item percentage := by
  obtain ⟨percentage, hPercentage, -⟩ := hScores.verdict
  have hExists : rules.percentageOf item = .ok percentage := by
    rw [percentageOf, ← hScores.missed, ← hScores.covered]
    exact hPercentage
  exact ⟨percentage, hExists, hScores.unique (scores_scoredFile hExists)⟩

theorem judge_of_not_matches {rules : ScoringRules} {changed : List String}
    {item : PackageCoverage × ClassCoverage} (hMatches : ¬ rules.Matches changed item) :
    rules.judge changed item.1 item.2 = .ok .unrelated := by
  have hUnrelated :
      (item.2.sourceName.isEmpty || !changed.contains (rules.sourcePath item)) = true := by
    by_contra hRelated
    apply hMatches
    simpa [Matches] using hRelated
  simp only [judge]
  exact if_pos hUnrelated

/-- What is left of judging a class once it is matched. -/
theorem judge_of_matches {rules : ScoringRules} {changed : List String}
    {item : PackageCoverage × ClassCoverage} (hMatches : rules.Matches changed item) :
    rules.judge changed item.1 item.2 =
      (item.2.percentage? rules.counterKind).map fun
        | none => .skipped (rules.sourcePath item)
        | some percentage => .scored (rules.scoredFile item percentage) := by
  have hRelated :
      ¬ (item.2.sourceName.isEmpty || !changed.contains (rules.sourcePath item)) = true := by
    simpa [Matches] using hMatches
  simp only [judge, ClassCoverage.totals_eq]
  exact if_neg hRelated

theorem percentage?_of_counts {rules : ScoringRules} {item : PackageCoverage × ClassCoverage}
    (hCounts : rules.Counts item) :
    item.2.percentage? rules.counterKind = (rules.percentageOf item).map some := by
  simp only [ClassCoverage.percentage?, ClassCoverage.totals_eq]
  exact if_pos hCounts

theorem percentage?_of_not_counts {rules : ScoringRules}
    {item : PackageCoverage × ClassCoverage} (hCounts : ¬ rules.Counts item) :
    item.2.percentage? rules.counterKind = .ok none := by
  simp only [ClassCoverage.percentage?, ClassCoverage.totals_eq]
  exact if_neg hCounts

theorem judge_of_not_counts {rules : ScoringRules} {changed : List String}
    {item : PackageCoverage × ClassCoverage} (hMatches : rules.Matches changed item)
    (hCounts : ¬ rules.Counts item) :
    rules.judge changed item.1 item.2 = .ok (.skipped (rules.sourcePath item)) := by
  rw [judge_of_matches hMatches, percentage?_of_not_counts hCounts]
  rfl

/-- A matched class that counts is judged to be scored, by a file that says
what it should, and by no other. -/
theorem judge_eq_ok_iff_of_counts {rules : ScoringRules} {changed : List String}
    {item : PackageCoverage × ClassCoverage} (hMatches : rules.Matches changed item)
    (hCounts : rules.Counts item) (judgement : Judgement) :
    rules.judge changed item.1 item.2 = .ok judgement ↔
      ∃ file, rules.Scores item file ∧ judgement = .scored file := by
  rw [judge_of_matches hMatches, percentage?_of_counts hCounts]
  constructor
  · intro hJudge
    cases hPercentage : rules.percentageOf item with
    | error error => simp [hPercentage, Except.map] at hJudge
    | ok percentage =>
        rw [hPercentage] at hJudge
        exact ⟨_, scores_scoredFile hPercentage, (Except.ok.inj hJudge).symm⟩
  · rintro ⟨file, hScores, rfl⟩
    obtain ⟨percentage, hPercentage, rfl⟩ := hScores.exists_percentageOf
    rw [hPercentage]
    rfl

/-! ## Walking through all classes -/

/-- Steps that all succeed are those whose results are the run's. -/
theorem resultsUntilError_eq_none_iff {α β ε : Type} {step : α → Except ε β} {items : List α}
    {results : List β} :
    resultsUntilError step items = (results, none) ↔
      List.Forall₂ (fun item result => step item = .ok result) items results := by
  induction items generalizing results with
  | nil =>
      rw [List.forall₂_nil_left_iff]
      simp [resultsUntilError, eq_comm]
  | cons item items ih =>
      rw [List.forall₂_cons_left_iff]
      cases hStep : step item with
      | error error => simp [resultsUntilError, hStep]
      | ok result =>
          simp only [resultsUntilError, hStep, Prod.mk.injEq, Except.ok.injEq]
          constructor
          · rintro ⟨rfl, hNone⟩
            exact ⟨result, _, rfl, ih.mp (Prod.ext rfl hNone), rfl⟩
          · rintro ⟨_, rest, rfl, hRest, rfl⟩
            simp [ih.mpr hRest]

section Walk

variable {rules : ScoringRules} {changed : List String}
  {items : List (PackageCoverage × ClassCoverage)}

/-- The judgements on a list of classes, each one that succeeds. -/
def Judged (rules : ScoringRules) (changed : List String)
    (items : List (PackageCoverage × ClassCoverage)) (judgements : List Judgement) : Prop :=
  List.Forall₂ (fun item judgement => rules.judge changed item.1 item.2 = .ok judgement)
    items judgements

variable {item : PackageCoverage × ClassCoverage}

theorem scoredClasses_cons_of_counts (hMatches : rules.Matches changed item)
    (hCounts : rules.Counts item) :
    rules.scoredClasses changed (item :: items) = item :: rules.scoredClasses changed items := by
  simp only [scoredClasses, List.filter_cons, hMatches, hCounts, decide_true, if_true]

theorem scoredClasses_cons_of_not_counts (hCounts : ¬ rules.Counts item) :
    rules.scoredClasses changed (item :: items) = rules.scoredClasses changed items := by
  by_cases hMatches : rules.Matches changed item <;>
    simp [scoredClasses, hMatches, hCounts]

theorem scoredClasses_cons_of_not_matches (hMatches : ¬ rules.Matches changed item) :
    rules.scoredClasses changed (item :: items) = rules.scoredClasses changed items := by
  simp [scoredClasses, hMatches]

theorem skippedClasses_cons_of_counts (hCounts : rules.Counts item) :
    rules.skippedClasses changed (item :: items) = rules.skippedClasses changed items := by
  by_cases hMatches : rules.Matches changed item <;>
    simp [skippedClasses, hMatches, hCounts]

theorem skippedClasses_cons_of_not_counts (hMatches : rules.Matches changed item)
    (hCounts : ¬ rules.Counts item) :
    rules.skippedClasses changed (item :: items) = item :: rules.skippedClasses changed items := by
  simp only [skippedClasses, List.filter_cons, hMatches, hCounts, decide_true, if_true,
    not_false_eq_true]

theorem skippedClasses_cons_of_not_matches (hMatches : ¬ rules.Matches changed item) :
    rules.skippedClasses changed (item :: items) = rules.skippedClasses changed items := by
  simp [skippedClasses, hMatches]

/-- The scored files and the skipped paths among the judgements are those of
the scored and the skipped classes. -/
theorem Judged.scored_and_skipped {judgements : List Judgement}
    (hJudged : rules.Judged changed items judgements) :
    List.Forall₂ rules.Scores (rules.scoredClasses changed items)
        (judgements.filterMap Judgement.scored?) ∧
      judgements.filterMap Judgement.skipped? =
        (rules.skippedClasses changed items).map rules.sourcePath := by
  -- One class at a time: it goes to one of the two lists, or to neither.
  induction hJudged with
  | nil => exact ⟨.nil, rfl⟩
  | @cons item judgement items judgements hJudge hRest ih =>
      by_cases hMatches : rules.Matches changed item
      · by_cases hCounts : rules.Counts item
        · obtain ⟨file, hScores, rfl⟩ :=
            (judge_eq_ok_iff_of_counts hMatches hCounts judgement).mp hJudge
          rw [scoredClasses_cons_of_counts hMatches hCounts,
            skippedClasses_cons_of_counts hCounts]
          exact ⟨.cons hScores ih.1, ih.2⟩
        · rw [judge_of_not_counts hMatches hCounts] at hJudge
          obtain rfl := Except.ok.inj hJudge
          rw [scoredClasses_cons_of_not_counts hCounts,
            skippedClasses_cons_of_not_counts hMatches hCounts]
          exact ⟨ih.1, congrArg (rules.sourcePath item :: ·) ih.2⟩
      · rw [judge_of_not_matches hMatches] at hJudge
        obtain rfl := Except.ok.inj hJudge
        rw [scoredClasses_cons_of_not_matches hMatches,
          skippedClasses_cons_of_not_matches hMatches]
        exact ih

/-- Every class of a list is judged once the scored ones have their files. -/
theorem exists_judged {files : List ScoredFile}
    (hFiles : List.Forall₂ rules.Scores (rules.scoredClasses changed items) files) :
    ∃ judgements, rules.Judged changed items judgements := by
  induction items generalizing files with
  | nil => exact ⟨[], .nil⟩
  | cons item items ih =>
      by_cases hMatches : rules.Matches changed item
      · by_cases hCounts : rules.Counts item
        · rw [scoredClasses_cons_of_counts hMatches hCounts] at hFiles
          obtain ⟨file, rest, hScores, hRest, rfl⟩ := List.forall₂_cons_left_iff.mp hFiles
          obtain ⟨judgements, hJudged⟩ := ih hRest
          exact ⟨.scored file :: judgements,
            .cons ((judge_eq_ok_iff_of_counts hMatches hCounts _).mpr ⟨file, hScores, rfl⟩)
              hJudged⟩
        · rw [scoredClasses_cons_of_not_counts hCounts] at hFiles
          obtain ⟨judgements, hJudged⟩ := ih hFiles
          exact ⟨_, .cons (judge_of_not_counts hMatches hCounts) hJudged⟩
      · rw [scoredClasses_cons_of_not_matches hMatches] at hFiles
        obtain ⟨judgements, hJudged⟩ := ih hFiles
        exact ⟨_, .cons (judge_of_not_matches hMatches) hJudged⟩

end Walk

/-- An analysis returns the results of its judgements. -/
theorem analyze_of_judged {rules : ScoringRules} {report : Report} {changed : List String}
    {judgements : List Judgement} (hJudged : rules.Judged changed report.classes judgements) :
    rules.analyze report changed =
      { warnings := (judgements.filterMap Judgement.skipped?).map
          (skippedWarning rules.counterKind)
        outcome := .ok
          { changedFiles := changed
            threshold := rules.threshold
            entries := judgements.filterMap Judgement.scored?
            skipped := judgements.filterMap Judgement.skipped? } } := by
  unfold analyze
  -- The run is the only part that is not already in the form of the statement.
  generalize hRun : resultsUntilError _ report.classes = run
  obtain rfl : run = (judgements, none) :=
    hRun.symm.trans (resultsUntilError_eq_none_iff.mpr hJudged)
  rfl

/-- An analysis that returns has judged every class. -/
theorem exists_judged_of_analyze {rules : ScoringRules} {report : Report}
    {changed : List String} {result : ChangeCoverage}
    (hOutcome : (rules.analyze report changed).outcome = .ok result) :
    ∃ judgements, rules.Judged changed report.classes judgements := by
  unfold analyze at hOutcome
  generalize hRun : resultsUntilError _ report.classes = run at hOutcome
  obtain ⟨judgements, error?⟩ := run
  cases error? with
  | none => exact ⟨judgements, resultsUntilError_eq_none_iff.mp hRun⟩
  | some error => cases hOutcome

/-- What an analysis returns is the join. -/
theorem isJoin_of_judged {rules : ScoringRules} {report : Report} {changed : List String}
    {judgements : List Judgement} (hJudged : rules.Judged changed report.classes judgements) :
    rules.IsJoin report changed
      ((judgements.filterMap Judgement.skipped?).map (skippedWarning rules.counterKind))
      { changedFiles := changed
        threshold := rules.threshold
        entries := judgements.filterMap Judgement.scored?
        skipped := judgements.filterMap Judgement.skipped? } :=
  ⟨rfl, rfl, hJudged.scored_and_skipped.1, hJudged.scored_and_skipped.2, rfl⟩

/-- An analysis that returns has the join of its report. -/
theorem exists_isJoin_of_analyze {rules : ScoringRules} {report : Report} {changed : List String}
    {result : ChangeCoverage} (h : (rules.analyze report changed).outcome = .ok result) :
    ∃ warnings, rules.IsJoin report changed warnings result := by
  obtain ⟨judgements, hJudged⟩ := exists_judged_of_analyze h
  rw [analyze_of_judged hJudged] at h
  obtain rfl := Except.ok.inj h
  exact ⟨_, isJoin_of_judged hJudged⟩

/-- There is one join at most. -/
theorem IsJoin.unique {rules : ScoringRules} {report : Report} {changed : List String}
    {firstWarnings secondWarnings : List String} {first second : ChangeCoverage}
    (hFirst : rules.IsJoin report changed firstWarnings first)
    (hSecond : rules.IsJoin report changed secondWarnings second) :
    firstWarnings = secondWarnings ∧ first = second := by
  have hChangedFiles : first.changedFiles = second.changedFiles :=
    hFirst.changedFiles.trans hSecond.changedFiles.symm
  have hThreshold : first.threshold = second.threshold :=
    hFirst.threshold.trans hSecond.threshold.symm
  have hEntries : first.entries = second.entries :=
    List.right_unique_forall₂' (R := rules.Scores) (fun _ _ _ => Scores.unique) hFirst.entries
      hSecond.entries
  have hSkipped : first.skipped = second.skipped := hFirst.skipped.trans hSecond.skipped.symm
  have hResults : first = second := by
    cases first
    cases second
    simp_all only
  exact ⟨by rw [hFirst.warnings, hSecond.warnings, hSkipped], hResults⟩

/-- Every scored file comes from a scored class. -/
theorem exists_scores_of_mem {rules : ScoringRules}
    {items : List (PackageCoverage × ClassCoverage)} {files : List ScoredFile}
    (hFiles : List.Forall₂ rules.Scores items files) {file : ScoredFile} (hMem : file ∈ files) :
    ∃ item ∈ items, rules.Scores item file := by
  induction hFiles with
  | nil => simp at hMem
  | @cons item first items files hScores hRest ih =>
      rcases List.mem_cons.mp hMem with rfl | hLater
      · exact ⟨item, by simp, hScores⟩
      · obtain ⟨other, hOther, hOtherScores⟩ := ih hLater
        exact ⟨other, List.mem_cons_of_mem _ hOther, hOtherScores⟩

/-- Classes that have percentages have scored files. -/
theorem exists_scores_of_percentages {rules : ScoringRules}
    {items : List (PackageCoverage × ClassCoverage)}
    (hPercentages : ∀ item ∈ items, ∃ percentage, rules.percentageOf item = .ok percentage) :
    ∃ files, List.Forall₂ rules.Scores items files := by
  induction items with
  | nil => exact ⟨[], .nil⟩
  | cons item items ih =>
      obtain ⟨percentage, hPercentage⟩ := hPercentages item (by simp)
      obtain ⟨files, hFiles⟩ := ih fun other hOther =>
        hPercentages other (List.mem_cons_of_mem _ hOther)
      exact ⟨_, .cons (scores_scoredFile hPercentage) hFiles⟩

/-- An analysis returns once all scored classes have percentages. -/
theorem exists_isJoin_of_percentages {rules : ScoringRules} {report : Report}
    {changed : List String}
    (hPercentages : ∀ item ∈ rules.scoredClasses changed report.classes, ∃ percentage,
      rules.percentageOf item = .ok percentage) :
    ∃ warnings result, rules.analyze report changed = ⟨warnings, .ok result⟩ ∧
      rules.IsJoin report changed warnings result := by
  obtain ⟨files, hFiles⟩ := exists_scores_of_percentages hPercentages
  obtain ⟨judgements, hJudged⟩ := exists_judged hFiles
  exact ⟨_, _, analyze_of_judged hJudged, isJoin_of_judged hJudged⟩

/-- An analysis returns a result, with some warnings, exactly when these are
the join of the report with the changed files. -/
theorem analyze_eq_ok_iff_isJoin (configuration : Configuration) (report : Report)
    (changed warnings : List String) (result : ChangeCoverage) :
    configuration.scoringRules.analyze report changed = ⟨warnings, .ok result⟩ ↔
      configuration.scoringRules.IsJoin report changed warnings result := by
  constructor
  · intro hAnalysis
    obtain ⟨judgements, hJudged⟩ :=
      exists_judged_of_analyze (congrArg Analysis.outcome hAnalysis)
    rw [analyze_of_judged hJudged] at hAnalysis
    obtain ⟨rfl, hResult⟩ := Analysis.mk.inj hAnalysis
    obtain rfl := Except.ok.inj hResult
    exact isJoin_of_judged hJudged
  · intro hJoin
    -- The files of a join show that all judgements succeed; what they make is the same join.
    obtain ⟨judgements, hJudged⟩ := exists_judged hJoin.entries
    obtain ⟨rfl, rfl⟩ := hJoin.unique (isJoin_of_judged hJudged)
    exact analyze_of_judged hJudged

end ScoringRules

end PatchCoverage
