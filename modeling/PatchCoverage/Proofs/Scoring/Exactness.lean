import Mathlib.Order.Interval.Set.UnorderedInterval
import PatchCoverage.Proofs.Number.Value
import PatchCoverage.Proofs.Scoring.Average
import PatchCoverage.Proofs.Scoring.Join

namespace PatchCoverage

/-!
# How exact a verdict is

A verdict compares the threshold with a percentage that was rounded, twice for
a file and several times more for the average.  With counts that are not
negative the rounded percentages are close to the exact fractions: within
`2 ^ -45` for a file, and within `2 ^ -43` for each file and two more for the
average.

So a verdict is the exact one unless the threshold lies between the exact and
the rounded percentage.  `verdicts_exact_iff` states this for every report.
That it does happen on a threshold without any fraction is shown by
`verdict_missed_on_threshold`: 29 of 50 items are 58 per cent, and fall short
of 58 per cent.
-/

/-- The percentage of a scored file, without rounding. -/
def ScoredFile.exactPercentage (file : ScoredFile) : ℚ :=
  100 * file.covered / (file.missed + file.covered)

/-- The mean of the percentages, without rounding. -/
def ChangeCoverage.exactAverage (result : ChangeCoverage) : ℚ :=
  (result.entries.map ScoredFile.exactPercentage).sum / result.entries.length

/-- A file with counts that are not negative, and something to count. -/
structure ScoredFile.IsProportion (file : ScoredFile) : Prop where
  missed_nonneg : 0 ≤ file.missed
  covered_nonneg : 0 ≤ file.covered
  total_pos : 0 < file.missed + file.covered

/-- No counter of the report is negative. -/
def Report.HasCounts (report : Report) : Prop :=
  ∀ item ∈ report.classes, ∀ counter ∈ item.2.counters, 0 ≤ counter.missed ∧ 0 ≤ counter.covered

theorem ScoredFile.IsProportion.exactPercentage_bounds {file : ScoredFile}
    (h : file.IsProportion) : 0 ≤ file.exactPercentage ∧ file.exactPercentage ≤ 100 := by
  have hMissed : (0 : ℚ) ≤ file.missed := by exact_mod_cast h.missed_nonneg
  have hCovered : (0 : ℚ) ≤ file.covered := by exact_mod_cast h.covered_nonneg
  have hTotal : (0 : ℚ) < file.missed + file.covered := by exact_mod_cast h.total_pos
  unfold exactPercentage
  constructor
  · positivity
  · rw [div_le_iff₀ hTotal]
    linarith

/-- The percentage of a file exists, and is close to the exact one. -/
theorem ScoredFile.IsProportion.percentage_near {file : ScoredFile} (h : file.IsProportion) :
    ∃ percentage shown, file.percentage = .ok percentage ∧ percentage.HasValue shown ∧
      |shown - file.exactPercentage| ≤ 1 / 2 ^ 45 := by
  have hTotal : (0 : ℚ) < file.missed + file.covered := by exact_mod_cast h.total_pos
  obtain ⟨quotient, fraction, hQuotient, hFraction, hFractionNear⟩ :=
    Binary64.hasValue_ofQuotient h.covered_nonneg h.total_pos
      (by linarith [h.missed_nonneg] : file.covered ≤ file.missed + file.covered)
  have hExact : file.exactPercentage =
      (file.covered / (file.missed + file.covered : Int) : ℚ) * 100 := by
    unfold exactPercentage
    push_cast
    ring
  have hBounds := h.exactPercentage_bounds
  have hUnderflow := Binary64.underflow_le
  rw [hExact] at hBounds ⊢
  -- Two roundings follow each other: that of the quotient and that of the product.
  generalize (file.covered / (file.missed + file.covered : Int) : ℚ) = ideal at *
  unfold unitRoundoff at hFractionNear
  obtain ⟨hFractionLower, hFractionUpper⟩ := abs_le.mp hFractionNear
  obtain ⟨shown, hShown, hShownNear⟩ := hFraction.mul Binary64.hasValue_hundred (by linarith)
  unfold unitRoundoff at hShownNear
  obtain ⟨hShownLower, hShownUpper⟩ := abs_le.mp hShownNear
  refine ⟨quotient * Binary64.hundred, shown, ?_, hShown, ?_⟩
  · rw [percentage, coveragePercentage, hQuotient]
    rfl
  · rw [abs_le]
    constructor <;> linarith

/-- The percentages of a list of files exist, and their values add up to what
the exact ones add up to, nearly. -/
theorem exists_percentages {files : List ScoredFile} (h : ∀ file ∈ files, file.IsProportion) :
    ∃ percentages values, files.mapM ScoredFile.percentage = .ok percentages ∧
      List.Forall₂ Binary64.HasValue percentages values ∧
      values.length = files.length ∧ (∀ value ∈ values, value ≤ 101) ∧
      |values.sum - (files.map ScoredFile.exactPercentage).sum| ≤ files.length / 2 ^ 45 := by
  induction files with
  | nil => exact ⟨[], [], rfl, .nil, rfl, by simp, by simp⟩
  | cons file files ih =>
      obtain ⟨percentage, shown, hPercentage, hShown, hNear⟩ := (h file (by simp)).percentage_near
      obtain ⟨percentages, values, hPercentages, hValues, hLength, hUppers, hSumNear⟩ :=
        ih fun other hOther => h other (List.mem_cons_of_mem _ hOther)
      have hBounds := (h file (by simp)).exactPercentage_bounds
      obtain ⟨hLower, hUpper⟩ := abs_le.mp hNear
      refine ⟨percentage :: percentages, shown :: values, ?_, .cons hShown hValues, ?_, ?_, ?_⟩
      · rw [List.mapM_cons, hPercentage, hPercentages]
        rfl
      · rw [List.length_cons, List.length_cons, hLength]
      · intro value hValue
        rcases List.mem_cons.mp hValue with rfl | hRest
        · linarith
        · exact hUppers value hRest
      · rw [List.sum_cons, List.map_cons, List.sum_cons, List.length_cons]
        obtain ⟨hSumLower, hSumUpper⟩ := abs_le.mp hSumNear
        push_cast
        rw [abs_le]
        constructor <;> linarith

theorem sum_exactPercentage_bounds {files : List ScoredFile}
    (h : ∀ file ∈ files, file.IsProportion) :
    0 ≤ (files.map ScoredFile.exactPercentage).sum ∧
      (files.map ScoredFile.exactPercentage).sum ≤ 100 * files.length := by
  induction files with
  | nil => simp
  | cons file files ih =>
      obtain ⟨hLower, hUpper⟩ := (h file (by simp)).exactPercentage_bounds
      obtain ⟨hSumLower, hSumUpper⟩ :=
        ih fun other hOther => h other (List.mem_cons_of_mem _ hOther)
      rw [List.map_cons, List.sum_cons, List.length_cons]
      push_cast
      constructor <;> linarith

/-- The mean of a sum that is close to `values`, which is close to `ideal`: both
distances are those that up to `2 ^ 52` percentages have. -/
private theorem mean_near {count ideal values total : ℚ} (hCount : 1 ≤ count)
    (hCountUpper : count ≤ 2 ^ 52) (hValues : |values - ideal| ≤ count / 2 ^ 45)
    (hNonneg : 0 ≤ values) (hIdeal : ideal ≤ 100 * count)
    (hTotal : |total - values| ≤ 2 * count * unitRoundoff * values) :
    total / count ≤ 202 ∧
      |total / count - ideal / count| ≤ 202 / 2 ^ 53 * count + 1 / 2 ^ 45 := by
  have hPositive : 0 < count := by linarith
  obtain ⟨hValuesLower, hValuesUpper⟩ := abs_le.mp hValues
  obtain ⟨hTotalLower, hTotalUpper⟩ := abs_le.mp hTotal
  have hSum : values ≤ 101 * count := by linarith
  unfold unitRoundoff at hTotalLower hTotalUpper
  have hDoubled : 2 * count * (1 / 2 ^ 53) * values ≤ values := by
    have hFew : 2 * count * (1 / 2 ^ 53) ≤ 1 := by linarith
    calc 2 * count * (1 / 2 ^ 53) * values ≤ 1 * values :=
          mul_le_mul_of_nonneg_right hFew hNonneg
      _ = values := one_mul _
  have hError : 2 * count * (1 / 2 ^ 53) * values ≤ 202 / 2 ^ 53 * count * count := by
    calc 2 * count * (1 / 2 ^ 53) * values
        ≤ 2 * count * (1 / 2 ^ 53) * (101 * count) :=
          mul_le_mul_of_nonneg_left hSum (by positivity)
      _ = 202 / 2 ^ 53 * count * count := by ring
  constructor
  · rw [div_le_iff₀ hPositive]
    linarith
  · rw [← sub_div, abs_div, abs_of_pos hPositive, div_le_iff₀ hPositive, abs_le]
    constructor <;> linarith

/-- With up to `2 ^ 52` percentages the roundings add up. -/
theorem mean_near_of_few {files : List ScoredFile} {percentages : List Binary64} {values : List ℚ}
    (hFiles : ∀ file ∈ files, file.IsProportion)
    (hValues : List.Forall₂ Binary64.HasValue percentages values)
    (hLength : values.length = files.length)
    (hSumNear : |values.sum - (files.map ScoredFile.exactPercentage).sum| ≤
      files.length / 2 ^ 45)
    (hSome : files ≠ []) (hFew : files.length ≤ 2 ^ 52) :
    ∃ shown, (percentages.foldl (· + ·) Binary64.zero /
        Binary64.ofNat files.length).HasValue shown ∧
      |shown - (files.map ScoredFile.exactPercentage).sum / files.length| ≤
        (files.length + 2) / 2 ^ 45 := by
  have hCount : (1 : ℚ) ≤ files.length := by exact_mod_cast List.length_pos_iff.mpr hSome
  have hCountUpper : (files.length : ℚ) ≤ 2 ^ 52 := by exact_mod_cast hFew
  have hSumNonneg := Binary64.sum_nonneg_of_hasValue hValues
  have hSum := (sum_exactPercentage_bounds hFiles).2
  generalize (files.map ScoredFile.exactPercentage).sum = ideal at *
  obtain ⟨hSumLower, hSumUpper⟩ := abs_le.mp hSumNear
  -- Adding starts from zero, with no rounding behind it.
  have hStart : |(0 : ℚ) - 0| ≤ 2 * (0 : Nat) * unitRoundoff * 0 := by simp
  obtain ⟨total, hTotal, hTotalNear⟩ :=
    Binary64.hasValue_foldl_add hValues Binary64.hasValue_zero le_rfl hStart
      (by omega) (by linarith)
  rw [zero_add, zero_add, hLength] at hTotalNear
  have hDivisor := Binary64.hasValue_ofNat (hFew.trans (by norm_num : 2 ^ 52 ≤ 2 ^ 53))
  have hPositive : (0 : ℚ) < files.length := by linarith
  have hMeanBounds := mean_near hCount hCountUpper hSumNear hSumNonneg hSum hTotalNear
  obtain ⟨shown, hShown, hShownNear⟩ := hTotal.div hDivisor hPositive (by linarith)
  refine ⟨shown, hShown, ?_⟩
  have hUnderflow := Binary64.underflow_le
  unfold unitRoundoff at hShownNear
  obtain ⟨hShownLower, hShownUpper⟩ := abs_le.mp hShownNear
  obtain ⟨hMeanLower, hMeanUpper⟩ := abs_le.mp hMeanBounds.2
  rw [abs_le]
  constructor <;> linarith

/-- With more percentages their sum has stopped growing, and the bound is
beyond all percentages. -/
theorem mean_near_of_many {files : List ScoredFile} {percentages : List Binary64} {values : List ℚ}
    (hFiles : ∀ file ∈ files, file.IsProportion)
    (hValues : List.Forall₂ Binary64.HasValue percentages values)
    (hUppers : ∀ value ∈ values, value ≤ 101) (hMany : 2 ^ 52 < files.length) :
    ∃ shown, (percentages.foldl (· + ·) Binary64.zero /
        Binary64.ofNat files.length).HasValue shown ∧
      |shown - (files.map ScoredFile.exactPercentage).sum / files.length| ≤
        (files.length + 2) / 2 ^ 43 := by
  have hCount : (2 ^ 52 : ℚ) < files.length := by exact_mod_cast hMany
  have hPositive : (0 : ℚ) < files.length := by linarith
  obtain ⟨hSumLower, hSumUpper⟩ := sum_exactPercentage_bounds hFiles
  have hMeanLower := div_nonneg hSumLower hPositive.le
  have hMeanUpper : (files.map ScoredFile.exactPercentage).sum / files.length ≤ 100 := by
    rwa [div_le_iff₀ hPositive]
  generalize (files.map ScoredFile.exactPercentage).sum / (files.length : ℚ) = mean at *
  obtain ⟨total, hTotal, hTotalUpper⟩ :=
    Binary64.exists_hasValue_foldl_add hValues
      (fun value hValue => (hUppers value hValue).trans (by norm_num))
      Binary64.hasValue_zero (by norm_num)
  -- A count beyond all finite numbers divides the sum down to zero.
  rcases Binary64.ofNat_eq_infinity_or (by omega : 0 < files.length) with
    hInfinity | ⟨divisor, hDivisor, hDivisorLower⟩
  · refine ⟨0, by rw [hInfinity]; exact hTotal.div_infinity, ?_⟩
    rw [abs_le]
    constructor <;> linarith
  · have hDivisorPositive : 0 < divisor := by linarith
    have hQuotient : total / divisor ≤ 2 ^ 9 := by
      rw [div_le_iff₀ hDivisorPositive]
      linarith
    obtain ⟨shown, hShown, hShownNear⟩ := hTotal.div hDivisor hDivisorPositive (by linarith)
    have hNonneg := hShown.nonneg
    have hUnderflow := Binary64.underflow_le
    have hUpper := (abs_le.mp hShownNear).2
    unfold unitRoundoff at hUpper
    refine ⟨shown, hShown, ?_⟩
    rw [abs_le]
    constructor <;> linarith

/-- The average of some files exists, and is close to the exact one. -/
theorem ChangeCoverage.average_near {result : ChangeCoverage}
    (hEntries : ∀ file ∈ result.entries, file.IsProportion) (hSome : result.entries ≠ []) :
    ∃ average shown, result.average = .ok (some average) ∧ average.HasValue shown ∧
      |shown - result.exactAverage| ≤ (result.entries.length + 2) / 2 ^ 43 := by
  obtain ⟨percentages, values, hPercentages, hValues, hLength, hUppers, hSumNear⟩ :=
    exists_percentages hEntries
  have hAverage := average_eq hPercentages hSome
  rcases Nat.lt_or_ge (2 ^ 52) result.entries.length with hMany | hFew
  · obtain ⟨shown, hShown, hNear⟩ := mean_near_of_many hEntries hValues hUppers hMany
    exact ⟨_, shown, hAverage, hShown, hNear⟩
  · obtain ⟨shown, hShown, hNear⟩ :=
      mean_near_of_few hEntries hValues hLength hSumNear hSome hFew
    refine ⟨_, shown, hAverage, hShown, hNear.trans ?_⟩
    have hCount : (0 : ℚ) ≤ result.entries.length := Nat.cast_nonneg _
    linarith

/-! ## Verdicts -/

theorem ClassCoverage.totals_nonneg {cls : ClassCoverage}
    (h : ∀ counter ∈ cls.counters, 0 ≤ counter.missed ∧ 0 ≤ counter.covered) (kind : String) :
    0 ≤ cls.missedOf kind ∧ 0 ≤ cls.coveredOf kind := by
  constructor
  · apply List.sum_nonneg
    intro count hCount
    obtain ⟨counter, hCounter, rfl⟩ := List.mem_map.mp hCount
    exact (h counter (List.mem_filter.mp hCounter).1).1
  · apply List.sum_nonneg
    intro count hCount
    obtain ⟨counter, hCounter, rfl⟩ := List.mem_map.mp hCount
    exact (h counter (List.mem_filter.mp hCounter).1).2

namespace ScoringRules

/-- The scored classes of a report are classes of the report that count. -/
theorem mem_of_mem_scoredClasses {rules : ScoringRules} {changed : List String}
    {items : List (PackageCoverage × ClassCoverage)} {item : PackageCoverage × ClassCoverage}
    (h : item ∈ rules.scoredClasses changed items) : item ∈ items ∧ rules.Counts item := by
  unfold scoredClasses at h
  obtain ⟨hMatched, hCounts⟩ := List.mem_filter.mp h
  exact ⟨(List.mem_filter.mp hMatched).1, of_decide_eq_true hCounts⟩

/-- A scored file of a report without negative counters is a proportion. -/
theorem Scores.isProportion {rules : ScoringRules} {report : Report} {changed : List String}
    (hCounts : report.HasCounts) {item : PackageCoverage × ClassCoverage}
    (hItem : item ∈ rules.scoredClasses changed report.classes) {file : ScoredFile}
    (hMissed : file.missed = item.2.missedOf rules.counterKind)
    (hCovered : file.covered = item.2.coveredOf rules.counterKind) : file.IsProportion := by
  obtain ⟨hMem, hTotal⟩ := mem_of_mem_scoredClasses hItem
  obtain ⟨hMissedNonneg, hCoveredNonneg⟩ :=
    ClassCoverage.totals_nonneg (hCounts item hMem) rules.counterKind
  exact ⟨by rwa [hMissed], by rwa [hCovered], by rwa [hMissed, hCovered]⟩

/-- An analysis of a report without negative counters returns, and all that it
scores is a proportion. -/
theorem exists_isJoin_of_hasCounts (rules : ScoringRules) (changed : List String)
    {report : Report} (hCounts : report.HasCounts) :
    ∃ warnings result, rules.analyze report changed = ⟨warnings, .ok result⟩ ∧
      rules.IsJoin report changed warnings result ∧
      ∀ file ∈ result.entries, file.IsProportion := by
  have hPercentages : ∀ item ∈ rules.scoredClasses changed report.classes, ∃ percentage,
      rules.percentageOf item = .ok percentage := by
    intro item hItem
    -- Whether a file is a proportion does not depend on its verdict.
    have hFile : (rules.scoredFile item .zero).IsProportion :=
      Scores.isProportion hCounts hItem rfl rfl
    obtain ⟨percentage, -, hPercentage, -, -⟩ := hFile.percentage_near
    exact ⟨percentage, hPercentage⟩
  obtain ⟨warnings, result, hAnalysis, hJoin⟩ := exists_isJoin_of_percentages hPercentages
  refine ⟨warnings, result, hAnalysis, hJoin, ?_⟩
  intro file hFile
  obtain ⟨item, hItem, hScores⟩ := exists_scores_of_mem hJoin.entries hFile
  exact Scores.isProportion hCounts hItem hScores.missed hScores.covered

end ScoringRules

/-- Two comparisons with a limit agree unless the limit separates the numbers
that are compared with it. -/
theorem le_iff_le_iff_notMem_uIoc {limit first second : ℚ} :
    ((limit ≤ second) ↔ (limit ≤ first)) ↔ limit ∉ Set.uIoc first second := by
  rw [Set.mem_uIoc, ← not_le, ← not_le]
  tauto

theorem ScoredFile.IsProportion.le_exactPercentage_iff {file : ScoredFile} {limit : ℚ}
    (h : file.IsProportion) :
    limit ≤ file.exactPercentage ↔
      limit * (file.missed + file.covered) ≤ 100 * file.covered := by
  have hTotal : (0 : ℚ) < file.missed + file.covered := by exact_mod_cast h.total_pos
  exact le_div_iff₀ hTotal

/-- The verdicts of an analysis are those of exact arithmetic, but for
thresholds that lie between an exact percentage and the rounded one that is
shown.  The two are hardly apart. -/
theorem verdicts_exact_iff (changed : List String) {rules : ScoringRules} {report : Report}
    {limit : ℚ} (hCounts : report.HasCounts) (hLimit : rules.threshold.toRat? = some limit) :
    ∃ result, (rules.analyze report changed).outcome = .ok result ∧
      (∀ file ∈ result.entries, ∃ percentage shown,
        file.percentage = .ok percentage ∧ percentage.toRat? = some shown ∧
        |shown - file.exactPercentage| ≤ 1 / 2 ^ 45 ∧
        ((file.meetsThreshold = true ↔
            limit * (file.missed + file.covered) ≤ 100 * file.covered) ↔
          limit ∉ Set.uIoc file.exactPercentage shown)) ∧
      (result.entries = [] → result.meetsThreshold = .ok true) ∧
      (result.entries ≠ [] → ∃ average shown met,
        result.average = .ok (some average) ∧ average.toRat? = some shown ∧
        result.meetsThreshold = .ok met ∧
        |shown - result.exactAverage| ≤ (result.entries.length + 2) / 2 ^ 43 ∧
        ((met = true ↔ limit ≤ result.exactAverage) ↔
          limit ∉ Set.uIoc result.exactAverage shown)) := by
  obtain ⟨warnings, result, hAnalysis, hJoin, hProportions⟩ :=
    ScoringRules.exists_isJoin_of_hasCounts rules changed hCounts
  refine ⟨result, by rw [hAnalysis], ?_, ?_, ?_⟩
  · intro file hFile
    have hProportion := hProportions file hFile
    obtain ⟨percentage, shown, hPercentage, hShown, hNear⟩ := hProportion.percentage_near
    obtain ⟨item, -, hScores⟩ := ScoringRules.exists_scores_of_mem hJoin.entries hFile
    obtain ⟨compared, hCompared, hVerdict⟩ := hScores.verdict
    obtain rfl := Except.ok.inj (hCompared.symm.trans hPercentage)
    refine ⟨compared, shown, hPercentage, hShown.toRat?, hNear, ?_⟩
    -- Both verdicts are now comparisons of rationals with the limit.
    rw [hVerdict, Binary64.le_eq_true_iff hLimit hShown.toRat?,
      ← hProportion.le_exactPercentage_iff]
    exact le_iff_le_iff_notMem_uIoc
  · exact ChangeCoverage.meetsThreshold_of_no_entries
  · intro hSome
    obtain ⟨average, shown, hAverage, hShown, hNear⟩ :=
      ChangeCoverage.average_near hProportions hSome
    refine ⟨average, shown, result.threshold.le average, hAverage, hShown.toRat?,
      ChangeCoverage.meetsThreshold_eq hAverage, hNear, ?_⟩
    rw [hJoin.threshold, Binary64.le_eq_true_iff hLimit hShown.toRat?]
    exact le_iff_le_iff_notMem_uIoc

/-- A report of one class, with 29 of 50 instructions covered. -/
def reportOf29In50 : Report :=
  ⟨[⟨"com/acme", [⟨"com/acme/Foo", "Foo.java", [⟨"INSTRUCTION", 21, 29⟩]⟩]⟩]⟩

/-- Rules that ask for 58 per cent of the instructions. -/
def rulesOf58Percent : ScoringRules :=
  ⟨"", "src/", "INSTRUCTION", .ofNat 58⟩

theorem hasCounts_reportOf29In50 : reportOf29In50.HasCounts := by
  unfold Report.HasCounts
  decide

theorem toRat?_rulesOf58Percent : rulesOf58Percent.threshold.toRat? = some 58 := by
  have hValue := Binary64.hasValue_ofNat (by decide : 58 ≤ 2 ^ 53)
  simp only [rulesOf58Percent, hValue.toRat?, Nat.cast_ofNat]

/-- Both the file and the run fall short of the threshold. -/
theorem verdicts_of_29_in_50 {result : ChangeCoverage}
    (h : (rulesOf58Percent.analyze reportOf29In50 ["src/com/acme/Foo.java"]).outcome =
      .ok result) :
    result.entries = [⟨"src/com/acme/Foo.java", "Foo.java", "com/acme/Foo", 21, 29, false⟩] ∧
      result.meetsThreshold = .ok false := by
  have hRun : (rulesOf58Percent.analyze reportOf29In50
      ["src/com/acme/Foo.java"]).outcome.toOption.map
        (fun result => (result.entries, result.meetsThreshold)) =
      some ([⟨"src/com/acme/Foo.java", "Foo.java", "com/acme/Foo", 21, 29, false⟩],
        .ok false) := by
    decide +kernel
  rw [h] at hRun
  exact Prod.mk.inj (Option.some.inj hRun)

/-- Fifty-eight per cent of the items are covered and the threshold is 58 per
cent, but neither the file nor the run reaches it. -/
theorem verdict_missed_on_threshold :
    reportOf29In50.HasCounts ∧ rulesOf58Percent.threshold.toRat? = some 58 ∧
      ∃ result,
        (rulesOf58Percent.analyze reportOf29In50 ["src/com/acme/Foo.java"]).outcome =
          .ok result ∧
        result.meetsThreshold = .ok false ∧ (58 : ℚ) ≤ result.exactAverage ∧
        ∃ file ∈ result.entries, file.meetsThreshold = false ∧
          (58 : ℚ) * (file.missed + file.covered) ≤ 100 * file.covered := by
  obtain ⟨warnings, result, hAnalysis, -, -⟩ :=
    ScoringRules.exists_isJoin_of_hasCounts rulesOf58Percent ["src/com/acme/Foo.java"]
      hasCounts_reportOf29In50
  have hOutcome := congrArg Analysis.outcome hAnalysis
  obtain ⟨hEntries, hMet⟩ := verdicts_of_29_in_50 hOutcome
  refine ⟨hasCounts_reportOf29In50, toRat?_rulesOf58Percent, result, hOutcome, hMet, ?_,
    _, by rw [hEntries]; exact List.mem_cons_self, rfl, by norm_num⟩
  rw [ChangeCoverage.exactAverage, hEntries]
  norm_num [ScoredFile.exactPercentage]

/-- There the threshold lies between the exact percentage and the one that is
shown. -/
theorem limit_between_percentages_of_29_in_50 :
    reportOf29In50.HasCounts ∧ rulesOf58Percent.threshold.toRat? = some 58 ∧
      ∃ (file : ScoredFile) (percentage : Binary64) (shown : ℚ),
        file.missed = 21 ∧ file.covered = 29 ∧
        file.percentage = .ok percentage ∧ percentage.toRat? = some shown ∧
        58 ∈ Set.uIoc file.exactPercentage shown := by
  obtain ⟨result, hOutcome, hFiles, -⟩ :=
    verdicts_exact_iff ["src/com/acme/Foo.java"] hasCounts_reportOf29In50
      toRat?_rulesOf58Percent
  obtain ⟨hEntries, -⟩ := verdicts_of_29_in_50 hOutcome
  obtain ⟨percentage, shown, hPercentage, hShown, -, hVerdict⟩ :=
    hFiles ⟨"src/com/acme/Foo.java", "Foo.java", "com/acme/Foo", 21, 29, false⟩
      (by simp [hEntries])
  refine ⟨hasCounts_reportOf29In50, toRat?_rulesOf58Percent, _, percentage, shown, rfl, rfl,
    hPercentage, hShown, ?_⟩
  by_contra hOutside
  have hWrong := (hVerdict.mpr hOutside).mpr (by norm_num)
  exact absurd hWrong (by decide)

end PatchCoverage
