import PatchCoverage.Proofs.Publish.Printed
import PatchCoverage.Proofs.Scoring.Exactness
import PatchCoverage.World.Unlimited

namespace PatchCoverage

/-!
# A result can be reported

The numbers of a result are quotients that nothing guards: a scored file divides
by the sum of its counters, and the mean by the number of files.  What keeps them
defined is the analysis, which scores a class only if its sum is positive and
computes the same quotient for the verdict.  So the analysis can fail for a
quotient out of range and for nothing else, and what it returns can be reported
in every form.

The main statement is `reportable_of_analyze`.
-/

/-! ## How an analysis fails -/

theorem Binary64.eq_overflow_of_checkFinite {value : Binary64} {error : ArithmeticError}
    (h : checkFinite value = .error error) : error = .overflow := by
  cases value with
  | infinity negative => exact (Except.error.inj h).symm
  | nan => cases h
  | finite negative quanta inRange fewBits => cases h

/-- A percentage of something fails for its size alone. -/
theorem eq_overflow_of_coveragePercentage {missed covered : Int} {error : ArithmeticError}
    (hTotal : 0 < missed + covered) (h : coveragePercentage missed covered = .error error) :
    error = .overflow := by
  have hDivisor : ¬ missed + covered = 0 := by omega
  unfold coveragePercentage Binary64.ofQuotient at h
  rw [if_neg hDivisor] at h
  cases hQuotient : Binary64.checkFinite (Binary64.ofFraction
      (decide (covered < 0) != decide (missed + covered < 0)) covered.natAbs
      (missed + covered).natAbs) with
  | ok quotient =>
      rw [hQuotient] at h
      cases h
  | error fault =>
      rw [hQuotient] at h
      obtain rfl := Except.error.inj h
      exact Binary64.eq_overflow_of_checkFinite hQuotient

/-- Steps that do not all succeed end with the failure of one of them. -/
theorem exists_error_of_resultsUntilError {α β ε : Type} {step : α → Except ε β}
    {items : List α} {results : List β} {error : ε}
    (h : resultsUntilError step items = (results, some error)) :
    ∃ item ∈ items, step item = .error error := by
  induction items generalizing results with
  | nil => cases h
  | cons item items ih =>
      cases hStep : step item with
      | error fault =>
          simp only [resultsUntilError, hStep, Prod.mk.injEq, Option.some.injEq] at h
          exact ⟨item, List.mem_cons_self, hStep.trans (congrArg Except.error h.2)⟩
      | ok result =>
          simp only [resultsUntilError, hStep, Prod.mk.injEq] at h
          obtain ⟨later, hLater, hFault⟩ := ih (Prod.ext rfl h.2)
          exact ⟨later, List.mem_cons_of_mem _ hLater, hFault⟩

namespace ScoringRules

variable {rules : ScoringRules} {report : Report} {changed : List String}

/-- Judging a class divides only by a positive sum. -/
theorem eq_overflow_of_judge {item : PackageCoverage × ClassCoverage} {error : ArithmeticError}
    (h : rules.judge changed item.1 item.2 = .error error) : error = .overflow := by
  by_cases hMatches : rules.Matches changed item
  · by_cases hCounts : rules.Counts item
    · rw [judge_of_matches hMatches, percentage?_of_counts hCounts] at h
      cases hPercentage : rules.percentageOf item with
      | ok percentage =>
          rw [hPercentage] at h
          cases h
      | error fault =>
          rw [hPercentage] at h
          obtain rfl := Except.error.inj h
          exact eq_overflow_of_coveragePercentage hCounts hPercentage
    · rw [judge_of_not_counts hMatches hCounts] at h
      cases h
  · rw [judge_of_not_matches hMatches] at h
    cases h

/-- An analysis fails for a quotient out of range and for nothing else. -/
theorem eq_overflow_of_analyze {error : ArithmeticError}
    (h : (rules.analyze report changed).outcome = .error error) : error = .overflow := by
  unfold analyze at h
  generalize hRun : resultsUntilError _ report.classes = run at h
  obtain ⟨judgements, error?⟩ := run
  cases error? with
  | none => cases h
  | some fault =>
      obtain rfl := Except.error.inj h
      obtain ⟨item, -, hJudge⟩ := exists_error_of_resultsUntilError hRun
      exact eq_overflow_of_judge hJudge

/-- The quotient of a scored file was computed for its verdict. -/
theorem exists_percentage_of_analyze {result : ChangeCoverage}
    (h : (rules.analyze report changed).outcome = .ok result) :
    ∀ file ∈ result.entries, ∃ percentage, file.percentage = .ok percentage := by
  intro file hFile
  obtain ⟨warnings, hJoin⟩ := exists_isJoin_of_analyze h
  obtain ⟨item, -, hScores⟩ := exists_scores_of_mem hJoin.entries hFile
  obtain ⟨percentage, hPercentage, -⟩ := hScores.verdict
  exact ⟨percentage, hPercentage⟩

end ScoringRules

/-! ## Reporting a result -/

/-- All that is derived from a result exists, and every report on it is made. -/
structure ChangeCoverage.IsReportable (result : ChangeCoverage) (target : LinkTarget) :
    Prop where
  total : ∃ total, result.total = .ok total
  divisor : result.entries ≠ [] →
    Binary64.zero.lt (Binary64.ofNat result.fileCount) = true
  average : ∃ average, result.average = .ok average
  verdict : ∃ met, result.meetsThreshold = .ok met
  outputs : ∃ outputs, StepOutput.ofResult target result = .ok outputs
  commands : ∃ lines, StepOutput.commandLines target result = .ok lines
  block : ∀ mark, ∃ written, StepOutput.block mark target result = .ok written
  summary : ∃ page, StepSummary.text target result = .ok page
  document : ∃ json, JsonReport.document target result = .ok json
  documentText : JsonReport.countsFit result = true →
    ∃ printed, JsonReport.text target result = .ok printed
  terminal : ∃ report, TerminalReport.blocks result = .ok report ∧
    (∀ terminal, (Console.print terminal report).error? = none) ∧
    ∀ (limits : Limits) terminal error,
      (@Console.print limits terminal report).error? ≠ some (.markup error)

/-- The number of some files is not rounded to zero. -/
theorem Binary64.zero_lt_ofNat {count : Nat} (h : 0 < count) :
    Binary64.zero.lt (Binary64.ofNat count) = true := by
  rcases Binary64.ofNat_eq_infinity_or h with hInfinity | ⟨value, hValue, hLower⟩
  · rw [hInfinity]
    decide +kernel
  · have hCount : (0 : ℚ) < count := by exact_mod_cast h
    have hNotLe : (Binary64.ofNat count).le Binary64.zero = false := by
      by_contra hLe
      rw [Bool.not_eq_false, Binary64.le_eq_true_iff hValue.toRat? hasValue_zero.toRat?] at hLe
      linarith
    have hOrder : Binary64.zero.lt (Binary64.ofNat count) = !(Binary64.ofNat count).le .zero := by
      apply Binary64.lt_eq_not_le_iff.mpr
      obtain ⟨_, _, _, hZero, -⟩ := hasValue_zero
      obtain ⟨_, _, _, hNumber, -⟩ := hValue
      rw [hZero, hNumber]
      exact ⟨nofun, nofun⟩
    rw [hOrder, hNotLe]
    rfl

theorem StepOutput.exists_ofResult (target : LinkTarget) {result : ChangeCoverage}
    (hDefined : ∀ file ∈ result.entries, ∃ percentage, file.percentage = .ok percentage) :
    ∃ outputs, ofResult target result = .ok outputs := by
  obtain ⟨overall, hOverall⟩ := ChangeCoverage.exists_overallText hDefined
  obtain ⟨rows, hRows⟩ := target.exists_tableRows hDefined
  exact ⟨_, by rw [ofResult, hOverall, hRows]; rfl⟩

/-- A result is reportable once its files have their percentages. -/
theorem ChangeCoverage.isReportable {result : ChangeCoverage} (target : LinkTarget)
    (hDefined : ∀ file ∈ result.entries, ∃ percentage, file.percentage = .ok percentage) :
    result.IsReportable target := by
  obtain ⟨percentages, hPercentages⟩ := exists_mapM_eq_ok hDefined
  obtain ⟨average, hAverage⟩ := exists_average hDefined
  obtain ⟨report, hReport, hShown⟩ := TerminalReport.exists_blocks_isShown hDefined
  obtain ⟨json, hJson, -⟩ := JsonReport.exists_document target hDefined hAverage
  exact {
    total := ⟨_, by rw [total, ChangeCoverage.percentages, hPercentages]; rfl⟩
    divisor := fun hSome => Binary64.zero_lt_ofNat (List.length_pos_iff.mpr hSome)
    average := ⟨average, hAverage⟩
    verdict := ⟨_, meetsThreshold_eq hAverage⟩
    outputs := StepOutput.exists_ofResult target hDefined
    commands := StepOutput.exists_commandLines target hDefined
    block := fun mark => StepOutput.exists_block target mark hDefined
    summary := StepSummary.exists_text target hDefined
    document := ⟨json, hJson⟩
    documentText := fun hFit => JsonReport.exists_text target hDefined hFit
    terminal := by
      refine ⟨report, hReport, fun terminal => ?_, fun limits terminal error => ?_⟩
      · exact (Console.error?_print_of_isShown terminal hShown).resolve_right
          (Console.error?_print_ne Limits.prints_unlimited terminal report)
      · rcases Console.error?_print_of_isShown terminal hShown with hError | hError
        all_goals simp [hError] }

/-- An analysis returns if no counter is negative, and fails otherwise at most for a
quotient out of range; what it returns is reportable, whatever its texts are. -/
theorem reportable_of_analyze (rules : ScoringRules) (report : Report) (changed : List String) :
    (report.HasCounts → ∃ result, (rules.analyze report changed).outcome = .ok result) ∧
      (∀ error, (rules.analyze report changed).outcome = .error error → error = .overflow) ∧
      ∀ result, (rules.analyze report changed).outcome = .ok result →
        ∀ target : LinkTarget, result.IsReportable target := by
  refine ⟨?_, fun error => ScoringRules.eq_overflow_of_analyze, ?_⟩
  · intro hCounts
    obtain ⟨warnings, result, hAnalysis, -, -⟩ :=
      ScoringRules.exists_isJoin_of_hasCounts rules changed hCounts
    exact ⟨result, congrArg Analysis.outcome hAnalysis⟩
  · intro result hOutcome target
    exact ChangeCoverage.isReportable target (ScoringRules.exists_percentage_of_analyze hOutcome)

/-- A report whose names are written like tags, with a file that is skipped. -/
def reportOfTagNames : Report :=
  ⟨[⟨"[/bold]", [⟨"[bold", "[/red].java", [⟨"LINE", 1, 2⟩]⟩, ⟨"\\", "[@x].java", []⟩]⟩]⟩

/-- Rules that score its lines. -/
def rulesOfLines : ScoringRules :=
  ⟨"", "[/]/", "LINE", .ofNat 50⟩

/-- Names that are written like tags are reported like any others. -/
theorem isReportable_of_tag_names :
    reportOfTagNames.HasCounts ∧
      ∃ result, (rulesOfLines.analyze reportOfTagNames
          ["[/]/[/bold]/[/red].java", "[/]/[/bold]/[@x].java"]).outcome = .ok result ∧
        result.IsReportable ⟨"[/]", "[red"⟩ := by
  have hCounts : reportOfTagNames.HasCounts := by
    unfold Report.HasCounts
    decide
  obtain ⟨hReturns, -, hReported⟩ := reportable_of_analyze rulesOfLines reportOfTagNames
    ["[/]/[/bold]/[/red].java", "[/]/[/bold]/[@x].java"]
  obtain ⟨result, hResult⟩ := hReturns hCounts
  exact ⟨hCounts, result, hResult, hReported result hResult _⟩

-- The one failure that is left does occur: the counters cancel, all but one item.
example :
    (rulesOfLines.analyze
        ⟨[⟨"", [⟨"A", "A.java", [⟨"LINE", 1 - 10 ^ 400, 10 ^ 400⟩]⟩]⟩]⟩
        ["[/]//A.java"]).outcome.map ChangeCoverage.entries = .error .overflow := by
  decide +kernel

end PatchCoverage
