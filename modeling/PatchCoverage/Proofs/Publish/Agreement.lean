import PatchCoverage.CommandLine.Check
import PatchCoverage.Proofs.Number.Value
import PatchCoverage.Proofs.Scoring.Average
import PatchCoverage.World.Unlimited

namespace PatchCoverage

/-!
# One verdict on every channel

The verdict of a run is shown on the terminal, in the summary of the step and in
the JSON document, and it decides the exit status.  The terminal asks whether
the average is less than the threshold, all others whether it is at least the
threshold.

The two questions have opposite answers for numbers that have an order.  `nan`
has none: an average that is `nan` passes on the terminal and nowhere else.
Opposite infinities among the percentages lead to it.  `channels_agree_iff` says
that nothing else keeps the channels from agreeing.
-/

/-! ## The terminal -/

/-- The first two characters of a message. -/
def Console.Block.opening : Console.Block → List Char
  | .message text => text.toList.take 2
  | .table _ => []

namespace TerminalReport

/-- A line says that the average is too low. -/
def HasError (blocks : List Console.Block) : Prop :=
  ∃ text, Console.Block.message ("[bold red]ERROR:[/bold red]" ++ text) ∈ blocks

/-- A line says that all is well. -/
def HasSuccess (blocks : List Console.Block) : Prop :=
  ∃ text, Console.success text ∈ blocks

/-- A line says that nothing was scored. -/
def HasNotice (blocks : List Console.Block) : Prop :=
  Console.Block.message "\nNo changed files found." ∈ blocks

/-- Whether a block can be taken for a verdict. -/
def IsVerdict (block : Console.Block) : Prop :=
  block.opening = ['[', 'b'] ∨ block.opening = ['[', 'g']

theorem opening_of_error (text : String) :
    (Console.Block.message ("[bold red]ERROR:[/bold red]" ++ text)).opening = ['[', 'b'] := by
  simp [Console.Block.opening]

theorem opening_of_success (text : String) : (Console.success text).opening = ['[', 'g'] := by
  simp [Console.Block.opening, Console.success]

theorem not_isVerdict_of_mem_changedFiles {files : List String} {block : Console.Block}
    (h : block ∈ changedFiles files) : ¬ IsVerdict block := by
  unfold changedFiles at h
  rcases List.mem_cons.mp h with rfl | hRest
  · simp [IsVerdict, Console.Block.opening, Console.heading]
  · split at hRest
    · rw [List.mem_singleton.mp hRest]
      simp [IsVerdict, Console.Block.opening, Console.remark]
    · obtain ⟨path, -, rfl⟩ := List.mem_map.mp hRest
      simp [IsVerdict, Console.Block.opening]

theorem not_isVerdict_of_mem_fileCoverage {result : ChangeCoverage}
    {table : List Console.Block} (hTable : fileCoverage result = .ok table)
    {block : Console.Block} (h : block ∈ table) : ¬ IsVerdict block := by
  unfold fileCoverage at hTable
  cases hRows : result.entries.mapM tableRow with
  | error error => simp [hRows, bind, Except.bind] at hTable
  | ok rows =>
      simp only [hRows, bind, Except.bind, pure, Except.pure, Except.ok.injEq] at hTable
      rw [← hTable] at h
      split at h
      · cases h
      · simp only [List.mem_cons, List.not_mem_nil, or_false] at h
        rcases h with rfl | rfl <;> simp [IsVerdict, Console.Block.opening, Console.emptyLine]

/-- What stands in the summary in front of the verdict. -/
def beforeVerdict (result : ChangeCoverage) (average : Option Binary64) : List Console.Block :=
  (result.skipped.map fun path => Console.warning
    ("Warning: No line coverage found for " ++ Console.Markup.escape path)) ++
    (average.map fun average => Console.Block.message
      ("\nAverage coverage for changed files: [bold]" ++ percentageText average ++
        "[/bold]")).toList

/-- What the summary ends with. -/
def conclusion (result : ChangeCoverage) : Option Binary64 → Console.Block
  | none => .message "\nNo changed files found."
  | some average => verdict result.threshold average

theorem summary_eq {result : ChangeCoverage} {average : Option Binary64}
    (hAverage : result.average = .ok average) :
    summary result = .ok (beforeVerdict result average ++ [conclusion result average]) := by
  unfold summary
  cases average <;>
    simp [hAverage, bind, Except.bind, pure, Except.pure, beforeVerdict, conclusion]

theorem not_isVerdict_of_mem_beforeVerdict {result : ChangeCoverage} {average : Option Binary64}
    {block : Console.Block} (h : block ∈ beforeVerdict result average) : ¬ IsVerdict block := by
  rcases List.mem_append.mp h with hSkipped | hAverage
  · obtain ⟨path, -, rfl⟩ := List.mem_map.mp hSkipped
    simp [IsVerdict, Console.Block.opening, Console.warning]
  · cases average with
    | none => cases hAverage
    | some average =>
        rw [List.mem_singleton.mp hAverage]
        simp [IsVerdict, Console.Block.opening]

/-- The report ends with its conclusion, and nothing in front of that can be
taken for a verdict. -/
theorem exists_blocks {result : ChangeCoverage} {average : Option Binary64}
    (hDefined : ∀ file ∈ result.entries, ∃ percentage, file.percentage = .ok percentage)
    (hAverage : result.average = .ok average) :
    ∃ front, blocks result = .ok (front ++ [conclusion result average]) ∧
      ∀ block ∈ front, ¬ IsVerdict block := by
  have hRow : ∀ file ∈ result.entries, ∃ row, tableRow file = .ok row := by
    intro file hFile
    obtain ⟨percentage, hPercentage⟩ := hDefined file hFile
    simp [tableRow, hPercentage, Except.map]
  obtain ⟨rows, hRows⟩ := exists_mapM_eq_ok hRow
  obtain ⟨table, hTable⟩ : ∃ table, fileCoverage result = .ok table := by
    simp [fileCoverage, hRows, bind, Except.bind, pure, Except.pure]
  refine ⟨changedFiles result.changedFiles ++ table ++ beforeVerdict result average, ?_, ?_⟩
  · simp [blocks, hTable, summary_eq hAverage, bind, Except.bind, pure, Except.pure]
  · intro block hBlock
    rcases List.mem_append.mp hBlock with hBlock | hBlock
    · rcases List.mem_append.mp hBlock with hBlock | hBlock
      · exact not_isVerdict_of_mem_changedFiles hBlock
      · exact not_isVerdict_of_mem_fileCoverage hTable hBlock
    · exact not_isVerdict_of_mem_beforeVerdict hBlock

section Verdict

variable {front : List Console.Block} {threshold average : Binary64}

theorem exists_verdict_of_lt (h : average.lt threshold = true) :
    ∃ text, verdict threshold average = .message ("[bold red]ERROR:[/bold red]" ++ text) := by
  refine ⟨" Coverage for changed files (" ++ (percentageText average ++
    (") is below the threshold of " ++ (threshold.shortestText ++ "%"))), ?_⟩
  have hPrefix : "[bold red]ERROR:[/bold red]" ++ " Coverage for changed files (" =
      "[bold red]ERROR:[/bold red] Coverage for changed files (" := by
    decide
  rw [verdict, if_pos h, ← String.append_assoc, hPrefix]
  simp only [String.append_assoc]

theorem exists_verdict_of_not_lt (h : average.lt threshold = false) :
    ∃ text, verdict threshold average = Console.success text := by
  rw [verdict, h]
  exact ⟨_, rfl⟩

/-- The terminal prints its error if the average is less than the threshold. -/
theorem hasError_iff (hFront : ∀ block ∈ front, ¬ IsVerdict block) :
    HasError (front ++ [verdict threshold average]) ↔ average.lt threshold = true := by
  constructor
  · rintro ⟨text, hText⟩
    rcases List.mem_append.mp hText with hMem | hMem
    · exact absurd (Or.inl (opening_of_error text)) (hFront _ hMem)
    · -- The verdict would be the success, which does not begin like an error.
      by_contra hNot
      obtain ⟨other, hOther⟩ := exists_verdict_of_not_lt (Bool.eq_false_iff.mpr hNot)
      have hOpening := opening_of_error text
      rw [List.mem_singleton.mp hMem, hOther, opening_of_success] at hOpening
      simp at hOpening
  · intro hLess
    obtain ⟨text, hText⟩ := exists_verdict_of_lt hLess
    exact ⟨text, by simp [hText]⟩

/-- The terminal prints its success if the average is not less than the
threshold. -/
theorem hasSuccess_iff (hFront : ∀ block ∈ front, ¬ IsVerdict block) :
    HasSuccess (front ++ [verdict threshold average]) ↔ average.lt threshold = false := by
  constructor
  · rintro ⟨text, hText⟩
    rcases List.mem_append.mp hText with hMem | hMem
    · exact absurd (Or.inr (opening_of_success text)) (hFront _ hMem)
    · by_contra hNot
      obtain ⟨other, hOther⟩ := exists_verdict_of_lt (Bool.eq_true_of_not_eq_false hNot)
      have hOpening := opening_of_success text
      rw [List.mem_singleton.mp hMem, hOther, opening_of_error] at hOpening
      simp at hOpening
  · intro hLess
    obtain ⟨text, hText⟩ := exists_verdict_of_not_lt hLess
    exact ⟨text, by simp [hText]⟩

end Verdict

end TerminalReport

/-! ## The other channels -/

/-- The line about the average in the summary of the step. -/
def StepSummary.verdictLine (threshold average : Binary64) (passed : Bool) : String :=
  "**Average:** " ++ percentageText average ++ " " ++ verdictGlyph passed ++
    " (threshold " ++ threshold.shortestText ++ "%)"

/-- What the summary of the step ends with. -/
def StepSummary.lastLine (threshold : Binary64) : Option Binary64 → String
  | none => "No changed files found."
  | some average => verdictLine threshold average (threshold.le average)

theorem StepSummary.exists_lines (target : LinkTarget) {result : ChangeCoverage}
    {average : Option Binary64}
    (hDefined : ∀ file ∈ result.entries, ∃ percentage, file.percentage = .ok percentage)
    (hAverage : result.average = .ok average) :
    ∃ lines, StepSummary.lines target result = .ok lines ∧
      lines.getLast? = some (lastLine result.threshold average) := by
  have hRow : ∀ file ∈ result.entries, ∃ row, target.tableRow file = .ok row := by
    intro file hFile
    obtain ⟨percentage, hPercentage⟩ := hDefined file hFile
    simp [LinkTarget.tableRow, hPercentage, Except.map]
  obtain ⟨rows, hRows⟩ := exists_mapM_eq_ok hRow
  unfold StepSummary.lines
  simp only [hAverage, bind, Except.bind]
  cases average with
  | none => exact ⟨[heading, "", "No changed files found."], rfl, rfl⟩
  | some value =>
      refine ⟨[heading, ""] ++ tableHead ++ rows ++ ["", averageLine result.threshold value],
        ?_, ?_⟩
      · simp only [LinkTarget.tableRows, hRows]
      · rw [List.getLast?_append]
        rfl

/-- The JSON document holds the average and the verdict. -/
theorem JsonReport.exists_document (target : LinkTarget) {result : ChangeCoverage}
    {average : Option Binary64}
    (hDefined : ∀ file ∈ result.entries, ∃ percentage, file.percentage = .ok percentage)
    (hAverage : result.average = .ok average) :
    ∃ json, JsonReport.document target result = .ok json ∧
      json.field? "overall" = some (overall average) ∧
      json.field? "passed" =
        some (.bool (ChangeCoverage.averageMeets result.threshold average)) := by
  have hObject : ∀ file ∈ result.entries, ∃ object, fileObject target file = .ok object := by
    intro file hFile
    obtain ⟨percentage, hPercentage⟩ := hDefined file hFile
    simp [fileObject, hPercentage, Except.map]
  obtain ⟨objects, hObjects⟩ := exists_mapM_eq_ok hObject
  unfold document
  simp only [hAverage, hObjects, bind, Except.bind]
  exact ⟨_, rfl, by simp [Json.field?], by simp [Json.field?]⟩

namespace CommandLine

/-- A run that scored and may fail ends with one for a low average, and for an
error while it publishes. -/
theorem status_eq_one_iff [Limits] {world : World} {mark : String} {options : CheckOptions}
    {configuration : Configuration} {result : ChangeCoverage} {met : Bool}
    (hOutcome : (examine world options).outcome = .ok (configuration, result))
    (hFails : configuration.coverage.failUnderThreshold = true)
    (hMet : result.meetsThreshold = .ok met) :
    (runCheck world mark options).reply.ending.status = 1 ↔
      met = false ∨ (publish world mark options configuration result).error? ≠ none := by
  unfold runCheck
  simp only [hOutcome]
  cases hError : (publish world mark options configuration result).error? with
  | some error => simp [Ending.status]
  | none => cases met <;> simp [Ending.status, endingOf, hMet, hFails, failureStatus]

end CommandLine

/-! ## Agreement -/

theorem percentages_defined (files : List ScoredFile)
    (h : (files.all fun file => file.percentage.toOption.isSome) = true) :
    ∀ file ∈ files, ∃ percentage, file.percentage = .ok percentage := by
  intro file hFile
  have hSome := List.all_eq_true.mp h file hFile
  cases hPercentage : file.percentage with
  | error error => simp [hPercentage, Except.toOption] at hSome
  | ok percentage => exact ⟨percentage, rfl⟩

/-- The verdict reaches every channel, but for the terminal when the average or
the threshold is `nan`. -/
theorem channels_agree_iff [Limits] (target : LinkTarget) {result : ChangeCoverage}
    (hDefined : ∀ file ∈ result.entries, ∃ percentage, file.percentage = .ok percentage) :
    ∃ average met blocks lines json,
      result.average = .ok average ∧ result.meetsThreshold = .ok met ∧
      TerminalReport.blocks result = .ok blocks ∧
      StepSummary.lines target result = .ok lines ∧
      JsonReport.document target result = .ok json ∧
      json.field? "passed" = some (.bool met) ∧
      (∀ world mark options configuration,
        (CommandLine.examine world options).outcome = .ok (configuration, result) →
        configuration.coverage.failUnderThreshold = true →
          ((CommandLine.runCheck world mark options).reply.ending.status = 1 ↔ met = false ∨
            (CommandLine.publish world mark options configuration result).error? ≠ none)) ∧
      match average with
      | none =>
          met = true ∧ TerminalReport.HasNotice blocks ∧
            lines.getLast? = some "No changed files found." ∧ json.field? "overall" = some .null
      | some value =>
          lines.getLast? = some (StepSummary.verdictLine result.threshold value met) ∧
            ((TerminalReport.HasError blocks ↔ met = false) ∧
                (TerminalReport.HasSuccess blocks ↔ met = true) ↔
              value ≠ .nan ∧ result.threshold ≠ .nan) := by
  obtain ⟨average, hAverage⟩ := ChangeCoverage.exists_average hDefined
  have hMet := ChangeCoverage.meetsThreshold_eq hAverage
  obtain ⟨front, hBlocks, hFront⟩ := TerminalReport.exists_blocks hDefined hAverage
  obtain ⟨lines, hLines, hLast⟩ := StepSummary.exists_lines target hDefined hAverage
  obtain ⟨json, hJson, hOverall, hPassed⟩ := JsonReport.exists_document target hDefined hAverage
  refine ⟨average, _, _, lines, json, hAverage, hMet, hBlocks, hLines, hJson, hPassed, ?_, ?_⟩
  · intro world mark options configuration hOutcome hFails
    exact CommandLine.status_eq_one_iff hOutcome hFails hMet
  · cases average with
    | none => exact ⟨rfl, List.mem_append_right _ List.mem_cons_self, hLast, hOverall⟩
    | some value =>
        refine ⟨hLast, ?_⟩
        have hOrder : value.lt result.threshold = !result.threshold.le value ↔
            value ≠ .nan ∧ result.threshold ≠ .nan := Binary64.lt_eq_not_le_iff
        simp only [TerminalReport.conclusion, TerminalReport.hasError_iff hFront,
          TerminalReport.hasSuccess_iff hFront, ChangeCoverage.averageMeets, ← hOrder]
        -- What is left is about the answers to the two questions.
        cases value.lt result.threshold <;> cases result.threshold.le value <;> simp

/-- One file, half covered, with a threshold that it just reaches. -/
def halfCovered : ChangeCoverage :=
  ⟨["Foo.java"], .ofNat 50, [⟨"Foo.java", "Foo.java", "Foo", 1, 1, true⟩], []⟩

/-- The channels agree on a file that just reaches the threshold. -/
theorem channels_agree_of_half_covered :
    (∀ file ∈ halfCovered.entries, ∃ percentage, file.percentage = .ok percentage) ∧
      ∃ blocks, TerminalReport.blocks halfCovered = .ok blocks ∧
        halfCovered.meetsThreshold = .ok true ∧
        TerminalReport.HasSuccess blocks ∧ ¬ TerminalReport.HasError blocks := by
  have hDefined := percentages_defined halfCovered.entries (by decide +kernel)
  have hAverage : halfCovered.average = .ok (some (.ofNat 50)) := by
    decide +kernel
  have hMet : halfCovered.meetsThreshold = .ok true := by
    decide +kernel
  have hNumber : Binary64.ofNat 50 ≠ .nan ∧ halfCovered.threshold ≠ .nan := by
    decide +kernel
  obtain ⟨average, met, blocks, lines, json, hSame, hVerdict, hBlocks, -, -, -, -, hAgree⟩ :=
    channels_agree_iff ⟨"", ""⟩ hDefined
  have hValue : some (.ofNat 50) = average := Except.ok.inj (hAverage.symm.trans hSame)
  have hPassed : true = met := Except.ok.inj (hMet.symm.trans hVerdict)
  subst hValue hPassed
  obtain ⟨hError, hSuccess⟩ := hAgree.2.mpr hNumber
  exact ⟨hDefined, blocks, hBlocks, hMet, hSuccess.mpr rfl, fun h => by simpa using hError.mp h⟩

/-- Two files with opposite counters, far enough from zero for their percentages
to be infinite. -/
def oppositeInfinities : ChangeCoverage :=
  let huge : Int := Nat.pow 10 307
  ⟨["A.java", "B.java"], .ofNat 50,
    [⟨"A.java", "A.java", "A", 1 - huge, huge, true⟩,
      ⟨"B.java", "B.java", "B", 1 + huge, -huge, false⟩], []⟩

/-- An average that is `nan` fails the run, and the terminal says that all is
well. -/
theorem success_shown_for_failed_verdict :
    oppositeInfinities.average = .ok (some .nan) ∧
      oppositeInfinities.meetsThreshold = .ok false ∧
      ∃ blocks, TerminalReport.blocks oppositeInfinities = .ok blocks ∧
        TerminalReport.HasSuccess blocks ∧ ¬ TerminalReport.HasError blocks := by
  have hAverage : oppositeInfinities.average = .ok (some .nan) := by
    decide +kernel
  have hMet : oppositeInfinities.meetsThreshold = .ok false := by
    decide +kernel
  obtain ⟨front, hBlocks, hFront⟩ :=
    TerminalReport.exists_blocks
      (percentages_defined oppositeInfinities.entries (by decide +kernel)) hAverage
  refine ⟨hAverage, hMet, _, hBlocks, (TerminalReport.hasSuccess_iff hFront).mpr rfl, ?_⟩
  intro hError
  exact absurd ((TerminalReport.hasError_iff hFront).mp hError) (by decide)

end PatchCoverage
