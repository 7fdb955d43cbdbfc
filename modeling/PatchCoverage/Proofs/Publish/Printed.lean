import PatchCoverage.Proofs.CommandLine.Stages
import PatchCoverage.Proofs.Console.Markup
import PatchCoverage.Proofs.Publish.Agreement
import PatchCoverage.Proofs.Publish.CommandLines

namespace PatchCoverage

/-!
# Reports that are printed to the end

Whatever paths and names a result has, its report on the terminal is printed
without a fault: texts from outside are escaped, and numbers hold nothing that a tag
begins with.  The JSON document has one limit, the number of digits of a count.  All
that can keep a report from its end is a character that the output channel has no code
for.

`CommandLine.publish_eq` says what is left of publishing: the printed text, and the
steps that write to files.  Which report is printed has no influence on those, unless it
ends the run.
-/

namespace TerminalReport

open Console

/-- The styles of the report. -/
def styles : List String :=
  ["bold", "bold cyan", "bold red", "dim", "green", "red", "yellow"]

theorem isStyle_of_mem_styles {style : String} (h : style ∈ styles) : Markup.IsStyle style := by
  have hAll : ∀ style ∈ styles,
      (Markup.takeTag? (style.toList ++ [']']) = some (style.toList, []) ∧
        Markup.takeTag? ('/' :: style.toList ++ [']']) = some ('/' :: style.toList, [])) ∧
      (Markup.tagName style.toList = style.toList ∧ style.toList.head? ≠ some '/') ∧
      (trimBlank style = style ∧ style.isEmpty = false) ∧
      ∀ word ∈ styleWords style, isUnreadableColour (lowerCase word).toList = false := by
    decide +kernel
  obtain ⟨⟨hOpening, hClosing⟩, ⟨hName, hNoSlash⟩, ⟨hTrimmed, hNonempty⟩, hWords⟩ := hAll style h
  exact ⟨hOpening, hClosing, hName, hNoSlash, hTrimmed, hNonempty, hWords⟩

theorem isShown_append {front rest : String} (hFront : Markup.IsPlain front.toList)
    (h : Markup.IsShown [] rest.toList) : Markup.IsShown [] (front ++ rest).toList := by
  rw [String.toList_append]
  exact h.plain_append hFront

theorem isShown_of_isPlain {text : String} (h : Markup.IsPlain text.toList) :
    Markup.IsShown [] text.toList := by
  have hMessage := (Markup.isShown_nil []).plain_append h
  rwa [List.append_nil] at hMessage

/-- A plain text in a style, with what is shown behind it. -/
theorem isShown_styled {style text rest : String} (hStyle : style ∈ styles)
    (hText : Markup.IsPlain text.toList) (h : Markup.IsShown [] rest.toList) :
    Markup.IsShown [] ("[" ++ style ++ "]" ++ text ++ "[/" ++ style ++ "]" ++ rest).toList := by
  simpa using Markup.IsShown.styled (isStyle_of_mem_styles hStyle) hText h

/-- A message that ends with a plain text in a style. -/
theorem isShown_styled_end {style text : String} (hStyle : style ∈ styles)
    (hText : Markup.IsPlain text.toList) :
    Markup.IsShown [] ("[" ++ style ++ "]" ++ text ++ "[/" ++ style ++ "]").toList := by
  have hEnd : Markup.IsPlain "".toList := by decide
  have hMessage := isShown_styled hStyle hText (isShown_of_isPlain hEnd)
  rwa [String.append_empty] at hMessage

theorem isShown_of_mem_changedFiles {files : List String} {block : Block}
    (h : block ∈ changedFiles files) : block.IsShown := by
  unfold changedFiles at h
  rcases List.mem_cons.mp h with rfl | hRest
  · have hTitle : Markup.IsPlain
        ("Changed files (" ++ integerText files.length ++ ")").toList := by
      simp only [String.toList_append]
      exact (Markup.IsPlain.append (by decide) (Markup.isPlain_integerText _)).append (by decide)
    have hMessage := isShown_append (by decide : Markup.IsPlain "\n".toList)
      (isShown_styled (by decide : "bold cyan" ∈ styles) hTitle
        (isShown_of_isPlain (by decide : Markup.IsPlain "\n".toList)))
    simpa [heading, Block.IsShown] using hMessage
  · split at hRest
    · rw [List.mem_singleton.mp hRest]
      have hText : Markup.IsPlain "git reported no changed files".toList := by decide
      simpa [remark, Block.IsShown] using isShown_styled_end (by decide : "dim" ∈ styles) hText
    · obtain ⟨path, -, rfl⟩ := List.mem_map.mp hRest
      exact isShown_append (by decide) (Markup.isShown_escape [] path)

theorem exists_tableRow {file : ScoredFile}
    (hDefined : ∃ percentage, file.percentage = .ok percentage) :
    ∃ row, tableRow file = .ok row ∧ ∀ cell ∈ row, Markup.IsShown [] cell.toList := by
  obtain ⟨percentage, hPercentage⟩ := hDefined
  have hStyle : (if file.meetsThreshold then "green" else "red") ∈ styles := by
    split <;> decide
  have hGlyph : Markup.IsPlain (verdictGlyph file.meetsThreshold).toList := by
    unfold verdictGlyph
    split <;> decide
  refine ⟨_, by rw [tableRow, hPercentage]; rfl, ?_⟩
  simp only [List.forall_mem_cons]
  exact ⟨Markup.isShown_escape [] file.path,
    isShown_styled_end hStyle (Markup.isPlain_percentageText percentage),
    isShown_of_isPlain hGlyph, by simp⟩

/-- The table of scored files is shown. -/
theorem isShown_table {rows : List (List String)}
    (hRows : ∀ row ∈ rows, ∀ cell ∈ row, Markup.IsShown [] cell.toList) :
    (Block.table ⟨"Coverage of changed files", tableColumns, rows⟩).IsShown := by
  have hTitle : Markup.IsPlain "Coverage of changed files".toList := by decide
  refine ⟨isShown_of_isPlain hTitle, ?_, hRows⟩
  simp only [tableColumns, List.forall_mem_cons]
  exact ⟨isShown_of_isPlain (by decide), isShown_of_isPlain (by decide),
    isShown_of_isPlain (by decide), by simp⟩

theorem exists_fileCoverage {result : ChangeCoverage}
    (hDefined : ∀ file ∈ result.entries, ∃ percentage, file.percentage = .ok percentage) :
    ∃ table, fileCoverage result = .ok table ∧ ∀ block ∈ table, block.IsShown := by
  obtain ⟨rows, hRows, hShown⟩ :=
    exists_mapM_eq_ok_and fun file hFile => exists_tableRow (hDefined file hFile)
  refine ⟨_, by rw [fileCoverage, hRows]; rfl, ?_⟩
  intro block hBlock
  split at hBlock
  · cases hBlock
  · rcases List.mem_cons.mp hBlock with rfl | hGrid
    · exact Markup.isShown_nil []
    · rw [List.mem_singleton.mp hGrid]
      exact isShown_table hShown

theorem isShown_verdict (threshold average : Binary64) : (verdict threshold average).IsShown := by
  have hEnd : Markup.IsPlain (threshold.shortestText ++ "%").toList := by
    rw [String.toList_append]
    exact (Markup.isPlain_shortestText threshold).append (by decide)
  unfold verdict
  split
  · have hBetween : Markup.IsPlain ") is below the threshold of ".toList := by decide
    have hRest := isShown_append (by decide : Markup.IsPlain " Coverage for changed files (".toList)
      (isShown_append (Markup.isPlain_percentageText average)
        (isShown_append hBetween (isShown_of_isPlain hEnd)))
    have hError : Markup.IsPlain "ERROR:".toList := by decide
    simpa [Block.IsShown] using isShown_styled (by decide : "bold red" ∈ styles) hError hRest
  · have hMark : Markup.IsPlain "✓".toList := by decide
    have hFront : Markup.IsPlain " Coverage meets the threshold of ".toList := by decide
    have hRest := isShown_append hFront (isShown_of_isPlain hEnd)
    simpa [success, Block.IsShown] using isShown_styled (by decide : "green" ∈ styles) hMark hRest

theorem isShown_of_mem_beforeVerdict {result : ChangeCoverage} {average : Option Binary64}
    {block : Block} (h : block ∈ beforeVerdict result average) : block.IsShown := by
  rcases List.mem_append.mp h with hSkipped | hAverage
  · obtain ⟨path, -, rfl⟩ := List.mem_map.mp hSkipped
    have hMark : Markup.IsPlain "⚠".toList := by decide
    have hRest := isShown_append
      (by decide : Markup.IsPlain " Warning: No line coverage found for ".toList)
      (Markup.isShown_escape [] path)
    simpa [warning, Block.IsShown] using isShown_styled (by decide : "yellow" ∈ styles) hMark hRest
  · cases average with
    | none => cases hAverage
    | some average =>
        rw [List.mem_singleton.mp hAverage]
        have hFront : Markup.IsPlain "\nAverage coverage for changed files: ".toList := by decide
        have hMessage := isShown_append hFront
          (isShown_styled_end (by decide : "bold" ∈ styles) (Markup.isPlain_percentageText average))
        simpa [Block.IsShown] using hMessage

theorem isShown_conclusion (result : ChangeCoverage) (average : Option Binary64) :
    (conclusion result average).IsShown := by
  cases average with
  | none => exact isShown_of_isPlain (by decide : Markup.IsPlain "\nNo changed files found.".toList)
  | some average => exact isShown_verdict result.threshold average

/-- There is a report on every result that has its percentages, and all of it is
shown. -/
theorem exists_blocks_isShown {result : ChangeCoverage}
    (hDefined : ∀ file ∈ result.entries, ∃ percentage, file.percentage = .ok percentage) :
    ∃ report, blocks result = .ok report ∧ ∀ block ∈ report, block.IsShown := by
  obtain ⟨average, hAverage⟩ := ChangeCoverage.exists_average hDefined
  obtain ⟨table, hTable, hShown⟩ := exists_fileCoverage hDefined
  refine ⟨_, by rw [blocks, hTable, summary_eq hAverage]; rfl, ?_⟩
  intro block hBlock
  rcases List.mem_append.mp hBlock with hFront | hSummary
  · rcases List.mem_append.mp hFront with hFiles | hGrid
    · exact isShown_of_mem_changedFiles hFiles
    · exact hShown block hGrid
  · rcases List.mem_append.mp hSummary with hBefore | hEnd
    · exact isShown_of_mem_beforeVerdict hBefore
    · rw [List.mem_singleton.mp hEnd]
      exact isShown_conclusion result average

end TerminalReport

/-- The document can be written if the counts have few enough digits. -/
theorem JsonReport.exists_text (target : LinkTarget) {result : ChangeCoverage}
    (hDefined : ∀ file ∈ result.entries, ∃ percentage, file.percentage = .ok percentage)
    (hFit : countsFit result = true) : ∃ printed, text target result = .ok printed := by
  obtain ⟨average, hAverage⟩ := ChangeCoverage.exists_average hDefined
  obtain ⟨json, hJson, -⟩ := exists_document target hDefined hAverage
  exact ⟨json.text .unicode, by simp only [text, hJson, hFit, if_true]⟩

section Texts

variable (target : LinkTarget) {result : ChangeCoverage}

theorem LinkTarget.exists_tableRows
    (hDefined : ∀ file ∈ result.entries, ∃ percentage, file.percentage = .ok percentage) :
    ∃ rows, target.tableRows result = .ok rows := by
  refine exists_mapM_eq_ok fun file hFile => ?_
  obtain ⟨percentage, hPercentage⟩ := hDefined file hFile
  simp [LinkTarget.tableRow, hPercentage, Except.map]

theorem ChangeCoverage.exists_overallText
    (hDefined : ∀ file ∈ result.entries, ∃ percentage, file.percentage = .ok percentage) :
    ∃ overall, result.overallText = .ok overall := by
  obtain ⟨average, hAverage⟩ := ChangeCoverage.exists_average hDefined
  exact ⟨_, by rw [overallText, hAverage]; rfl⟩

theorem StepOutput.exists_commandLines
    (hDefined : ∀ file ∈ result.entries, ∃ percentage, file.percentage = .ok percentage) :
    ∃ lines, commandLines target result = .ok lines := by
  obtain ⟨overall, hOverall⟩ := ChangeCoverage.exists_overallText hDefined
  obtain ⟨rows, hRows⟩ := target.exists_tableRows hDefined
  exact ⟨_, by rw [commandLines, ofResult, hOverall, hRows]; rfl⟩

theorem StepOutput.exists_block (mark : String)
    (hDefined : ∀ file ∈ result.entries, ∃ percentage, file.percentage = .ok percentage) :
    ∃ written, block mark target result = .ok written := by
  obtain ⟨overall, hOverall⟩ := ChangeCoverage.exists_overallText hDefined
  obtain ⟨rows, hRows⟩ := target.exists_tableRows hDefined
  exact ⟨_, by rw [block, blockLines, hOverall, hRows]; rfl⟩

theorem StepSummary.exists_text
    (hDefined : ∀ file ∈ result.entries, ∃ percentage, file.percentage = .ok percentage) :
    ∃ page, text target result = .ok page := by
  obtain ⟨average, hAverage⟩ := ChangeCoverage.exists_average hDefined
  obtain ⟨lines, hLines, -⟩ := exists_lines target hDefined hAverage
  exact ⟨_, by rw [text, hLines]; rfl⟩

end Texts

namespace CommandLine

/-- What is scored has its percentages. -/
theorem exists_percentage_of_examine [Limits] {world : World} {options : CheckOptions}
    {configuration : Configuration} {result : ChangeCoverage}
    (h : (examine world options).outcome = .ok (configuration, result)) :
    ∀ file ∈ result.entries, ∃ percentage, file.percentage = .ok percentage := by
  rw [examine_outcome] at h
  obtain ⟨prepared, -, h⟩ := bind_eq_ok_iff.mp h
  obtain ⟨changed, hChanged, h⟩ := bind_eq_ok_iff.mp h
  obtain ⟨scored, hScored, hSame⟩ := map_eq_ok_iff.mp h
  obtain ⟨rfl, rfl⟩ := Prod.mk.inj hSame
  intro file hFile
  exact (isShownOnLine_of_examineChanges (isUnbroken_of_listChanges hChanged) hScored file
    hFile).percentage

/-! ## Publishing -/

theorem Publication.andThen_of_none (printed : String) (world : World)
    (step : World → Publication) :
    (Publication.mk printed world none).andThen step =
      { step world with printed := printed ++ (step world).printed } :=
  rfl

theorem Publication.andThen_assoc (publication : Publication) (first second : World → Publication) :
    (publication.andThen first).andThen second =
      publication.andThen fun world => (first world).andThen second := by
  unfold Publication.andThen
  cases hError : publication.error? with
  | some error => simp only [hError]
  | none =>
      cases hFirst : (first publication.world).error? with
      | some error => simp only [hFirst]
      | none => simp only [hFirst, String.append_assoc]

theorem Publication.world_ofPrinted (printed : Except Uncaught Console.Printed) (world : World) :
    (ofPrinted printed world).world = world := by
  cases printed <;> rfl

/-- A step of publishing that prints nothing; only a file that is not written ends it. -/
structure Publication.OnlyWrites (publication : Publication) : Prop where
  printed : publication.printed = ""
  error? : publication.error? = none ∨ ∃ error, publication.error? = some (.write error)

theorem Publication.onlyWrites_ofWrite (run : WriteRun) : (ofWrite run).OnlyWrites := by
  refine ⟨rfl, ?_⟩
  unfold ofWrite
  cases run.error? with
  | none => exact .inl rfl
  | some error => exact .inr ⟨error, rfl⟩

theorem Publication.OnlyWrites.andThen {publication : Publication} {step : World → Publication}
    (h : publication.OnlyWrites) (hStep : ∀ world, (step world).OnlyWrites) :
    (publication.andThen step).OnlyWrites := by
  unfold Publication.andThen
  split
  · exact h
  · have hPrinted : publication.printed ++ (step publication.world).printed = "" := by
      rw [h.printed, (hStep _).printed, String.append_empty]
    exact ⟨hPrinted, (hStep _).error?⟩

section Publishing

variable [Limits] {configuration : Configuration} {result : ChangeCoverage}

/-- A step of publishing that prints and leaves everything else as it was; only a
character that the channel has no code for ends it. -/
structure Publication.OnlyPrints (publication : Publication) (world : World) : Prop where
  world : publication.world = world
  error? : publication.error? = none ∨ publication.error? = some .encoding

/-- Lines are printed as they stand, unless the channel has no code for a character. -/
theorem Publication.ofLines_eq_or (lines : List String) (world : World) :
    ofLines (.ok lines) world = ⟨String.join (lines.map (· ++ "\n")), world, none⟩ ∨
      (ofLines (.ok lines) world).OnlyPrints world ∧
        (ofLines (.ok lines) world).error? = some .encoding := by
  rw [ofLines_eq]
  by_cases h : ∀ line ∈ lines, Limits.prints line = true
  · rw [List.takeWhile_eq_self_iff.mpr h, if_pos (List.all_eq_true.mpr h)]
    exact .inl rfl
  · rw [if_neg fun hAll => h (List.all_eq_true.mp hAll)]
    exact .inr ⟨⟨rfl, .inr rfl⟩, rfl⟩

/-- Either report only prints; the document in JSON if the counts fit. -/
theorem onlyPrints_publishReport {asJson : Bool} (target : LinkTarget) (world : World)
    (hDefined : ∀ file ∈ result.entries, ∃ percentage, file.percentage = .ok percentage)
    (hFit : asJson = true → JsonReport.countsFit result = true) :
    (publishReport asJson target result world).OnlyPrints world := by
  cases asJson with
  | true =>
      obtain ⟨printed, hPrinted⟩ := JsonReport.exists_text target hDefined (hFit rfl)
      rw [publishReport, if_pos rfl, hPrinted]
      rcases Publication.ofLines_eq_or [printed] world with hAll | ⟨hOnly, -⟩
      · exact ⟨rfl, .inl (congrArg Publication.error? hAll)⟩
      · exact hOnly
  | false =>
      obtain ⟨report, hReport, hShown⟩ := TerminalReport.exists_blocks_isShown hDefined
      rw [publishReport, if_neg Bool.false_ne_true, hReport]
      exact ⟨rfl, (Console.error?_print_of_isShown world.terminal hShown).imp
        (congrArg (Option.map Uncaught.ofPrint)) (congrArg (Option.map Uncaught.ofPrint))⟩

/-- The steps of publishing that print: the report, and the commands if they are
wanted. -/
def publishPrinted (world : World) (options : CheckOptions) (configuration : Configuration)
    (result : ChangeCoverage) : Publication :=
  (publishReport options.asJson (linkTarget configuration) result world).andThen fun world =>
    if printsLines options configuration then publishLines (linkTarget configuration) result world
    else ⟨"", world, none⟩

/-- The steps of publishing that write to files. -/
def publishFiles (world : World) (mark : String) (configuration : Configuration)
    (result : ChangeCoverage) : Publication :=
  (publishOutputs mark (linkTarget configuration) result configuration.output.githubOutput
    world).andThen
      (publishSummary (linkTarget configuration) result configuration.output.stepSummary)

theorem onlyWrites_publishFiles (world : World) (mark : String) (configuration : Configuration)
    (result : ChangeCoverage) : (publishFiles world mark configuration result).OnlyWrites := by
  refine Publication.OnlyWrites.andThen ?_ fun world => ?_
  · unfold publishOutputs
    split
    · exact Publication.onlyWrites_ofWrite _
    · exact ⟨rfl, .inl rfl⟩
  · unfold publishSummary
    split
    · exact Publication.onlyWrites_ofWrite _
    · exact ⟨rfl, .inl rfl⟩

/-- Publishing prints, and then writes to files. -/
theorem publish_eq (world : World) (mark : String) (options : CheckOptions)
    (configuration : Configuration) (result : ChangeCoverage) :
    publish world mark options configuration result =
      (publishPrinted world options configuration result).andThen fun world =>
        publishFiles world mark configuration result := by
  unfold publish publishPrinted publishFiles
  dsimp only
  rw [Publication.andThen_assoc]

/-- What is printed is the report and, if they are wanted, the commands, unless the
channel has no code for a character. -/
theorem publishPrinted_eq_or {world : World} {options : CheckOptions}
    (hDefined : ∀ file ∈ result.entries, ∃ percentage, file.percentage = .ok percentage)
    (hFit : options.asJson = true → JsonReport.countsFit result = true) :
    (∃ report lines,
      publishReport options.asJson (linkTarget configuration) result world =
        ⟨report, world, none⟩ ∧
      StepOutput.commandLines (linkTarget configuration) result = .ok lines ∧
      publishPrinted world options configuration result =
        ⟨report ++ if printsLines options configuration then String.join (lines.map (· ++ "\n"))
          else "", world, none⟩) ∨
      (publishPrinted world options configuration result).world = world ∧
        (publishPrinted world options configuration result).error? = some .encoding := by
  obtain ⟨lines, hLines⟩ := StepOutput.exists_commandLines (linkTarget configuration) hDefined
  obtain ⟨hWorld, hError⟩ := onlyPrints_publishReport (linkTarget configuration) world hDefined hFit
  unfold publishPrinted
  generalize hReport : publishReport options.asJson (linkTarget configuration) result world =
    publication at hWorld hError ⊢
  obtain ⟨report, place, error?⟩ := publication
  obtain rfl : place = world := hWorld
  rcases hError with hNone | hRefused
  · -- The commands are printed line by line; their texts exist, so only a code can be missing.
    obtain rfl : error? = none := hNone
    rw [Publication.andThen_of_none]
    split
    · rw [publishLines, hLines, mapError_ok]
      rcases Publication.ofLines_eq_or lines place with hPrinted | ⟨hOnly, hRefused⟩
      · exact .inl ⟨report, lines, rfl, rfl, by rw [hPrinted]⟩
      · exact .inr ⟨hOnly.world, hRefused⟩
    · exact .inl ⟨report, lines, rfl, hLines, rfl⟩
  · obtain rfl : error? = some .encoding := hRefused
    exact .inr ⟨rfl, rfl⟩

/-! ## Runs -/

/-- A run that scored nothing says so and leaves everything as it was. -/
theorem runCheck_eq_of_stop {world : World} (mark : String) {options : CheckOptions}
    {stop : CheckStop} (hOutcome : (examine world options).outcome = .error stop) :
    runCheck world mark options =
      { reply := stop.reply world.terminal
        warnings := (examine world options).warnings
        start? := (examine world options).start?
        world := world } := by
  unfold runCheck
  simp only [hOutcome]

/-- A run that scored publishes its outcome. -/
theorem runCheck_of_publish {world : World} {mark : String} {options : CheckOptions}
    {publication : Publication}
    (hOutcome : (examine world options).outcome = .ok (configuration, result))
    (hPublish : publish world mark options configuration result = publication) :
    runCheck world mark options =
      { reply :=
          { printed := publication.printed
            complaint := ""
            ending :=
              match publication.error? with
              | some error => .uncaught error
              | none => endingOf configuration result }
        warnings := (examine world options).warnings
        start? := (examine world options).start?
        world := publication.world } := by
  subst hPublish
  unfold runCheck
  cases hError : (publish world mark options configuration result).error? with
  | none => simp only [hOutcome, hError]
  | some error => simp only [hOutcome, hError]

/-- A run that scored prints, and then writes to its files unless the printing ended
it. -/
theorem runCheck_eq_of_outcome {world : World} (mark : String) {options : CheckOptions}
    (hOutcome : (examine world options).outcome = .ok (configuration, result)) :
    runCheck world mark options =
      let publication := (publishPrinted world options configuration result).andThen
        fun world => publishFiles world mark configuration result
      { reply :=
          { printed := publication.printed
            complaint := ""
            ending :=
              match publication.error? with
              | some error => .uncaught error
              | none => endingOf configuration result }
        warnings := (examine world options).warnings
        start? := (examine world options).start?
        world := publication.world } :=
  runCheck_of_publish hOutcome (publish_eq world mark options configuration result)

/-- A run that scored prints its report to the end and then writes to its files, or it
ends with a character that the channel has no code for and leaves everything as it was. -/
theorem runCheck_eq_or {world : World} (mark : String) {options : CheckOptions}
    (hOutcome : (examine world options).outcome = .ok (configuration, result))
    (hFit : options.asJson = true → JsonReport.countsFit result = true) :
    (∃ report lines,
      publishReport options.asJson (linkTarget configuration) result world =
        ⟨report, world, none⟩ ∧
      StepOutput.commandLines (linkTarget configuration) result = .ok lines ∧
      runCheck world mark options =
        { reply :=
            { printed := report ++
                if printsLines options configuration then String.join (lines.map (· ++ "\n"))
                else ""
              complaint := ""
              ending :=
                match (publishFiles world mark configuration result).error? with
                | some error => .uncaught error
                | none => endingOf configuration result }
          warnings := (examine world options).warnings
          start? := (examine world options).start?
          world := (publishFiles world mark configuration result).world }) ∨
      (publishPrinted world options configuration result).error? = some .encoding ∧
        runCheck world mark options =
          { reply := ⟨(publishPrinted world options configuration result).printed, "",
              .uncaught .encoding⟩
            warnings := (examine world options).warnings
            start? := (examine world options).start?
            world := world } := by
  rw [runCheck_eq_of_outcome mark hOutcome]
  rcases publishPrinted_eq_or (exists_percentage_of_examine hOutcome) hFit with
    ⟨report, lines, hReport, hLines, hPrinted⟩ | ⟨hWorld, hError⟩
  · refine .inl ⟨report, lines, hReport, hLines, ?_⟩
    simp only [hPrinted, Publication.andThen, (onlyWrites_publishFiles _ _ _ _).printed,
      String.append_empty]
  · refine .inr ⟨hError, ?_⟩
    simp only [Publication.andThen, hError, hWorld]

/-- A run that has printed its report to the end does not end with a character of it. -/
theorem ending_publishFiles_ne (world : World) (mark : String) (configuration : Configuration)
    (result : ChangeCoverage) :
    (match (publishFiles world mark configuration result).error? with
      | some error => Ending.uncaught error
      | none => endingOf configuration result) ≠ .uncaught .encoding := by
  rcases (onlyWrites_publishFiles world mark configuration result).error? with
    hNone | ⟨error, hError⟩
  · rw [hNone, endingOf]
    cases result.meetsThreshold <;> simp
  · rw [hError]
    exact fun hSame => Uncaught.noConfusion (Ending.uncaught.inj hSame)

/-- A channel that has a code for every character ends no run. -/
theorem error?_publishPrinted_ne (hPrints : ∀ text, Limits.prints text = true) (world : World)
    (options : CheckOptions) (configuration : Configuration) (result : ChangeCoverage) :
    (publishPrinted world options configuration result).error? ≠ some .encoding := by
  have hPrinted {printed : Console.Printed} (h : printed.error? ≠ some .encoding) :
      printed.error?.map Uncaught.ofPrint ≠ some .encoding := by
    cases hError : printed.error? with
    | none => nofun
    | some error =>
        cases error with
        | markup error => nofun
        | encoding => exact absurd hError h
  have hLines {lines : Except Uncaught (List String)} (h : lines ≠ .error .encoding)
      (world : World) : (Publication.ofLines lines world).error? ≠ some .encoding := by
    cases lines with
    | error error => exact fun hSame => h (congrArg Except.error (Option.some.inj hSame))
    | ok lines =>
        rw [Publication.ofLines_eq, if_pos (List.all_eq_true.mpr fun line _ => hPrints line)]
        nofun
  have hReport : (publishReport options.asJson (linkTarget configuration) result world).error? ≠
      some .encoding := by
    unfold publishReport
    split
    · refine hLines ?_ world
      cases JsonReport.text (linkTarget configuration) result <;> nofun
    · cases TerminalReport.blocks result with
      | error error => nofun
      | ok blocks => exact hPrinted (Console.error?_print_ne hPrints _ _)
  unfold publishPrinted Publication.andThen
  split
  · next error hError => exact hReport
  · dsimp only
    split
    · refine hLines ?_ _
      cases StepOutput.commandLines (linkTarget configuration) result <;> nofun
    · nofun

/-- A run that scored, and whose printing no character ended, has printed its report. -/
theorem runCheck_eq_of_printed {world : World} (mark : String) {options : CheckOptions}
    (hPrinted : (publishPrinted world options configuration result).error? ≠ some .encoding)
    (hOutcome : (examine world options).outcome = .ok (configuration, result))
    (hFit : options.asJson = true → JsonReport.countsFit result = true) :
    ∃ report lines,
      publishReport options.asJson (linkTarget configuration) result world =
        ⟨report, world, none⟩ ∧
      StepOutput.commandLines (linkTarget configuration) result = .ok lines ∧
      runCheck world mark options =
        { reply :=
            { printed := report ++
                if printsLines options configuration then String.join (lines.map (· ++ "\n"))
                else ""
              complaint := ""
              ending :=
                match (publishFiles world mark configuration result).error? with
                | some error => .uncaught error
                | none => endingOf configuration result }
          warnings := (examine world options).warnings
          start? := (examine world options).start?
          world := (publishFiles world mark configuration result).world } :=
  (runCheck_eq_or mark hOutcome hFit).resolve_right fun hRefused => hPrinted hRefused.1

end Publishing

/-- A run that scored. -/
structure Scored where
  /-- What it was asked for. -/
  options : CheckOptions
  /-- The configuration in effect. -/
  configuration : Configuration
  /-- What it scored. -/
  result : ChangeCoverage

/-- What the run that a command line asks for scores, if it scores. -/
def scored? [Limits] (world : World) (arguments : List String) : Option Scored :=
  match readRequest world arguments with
  | .ok (.check options) =>
    (examine world options).outcome.toOption.map fun found => ⟨options, found.1, found.2⟩
  | _ => none

theorem exists_scored? [Limits] {world : World} {arguments : List String}
    (test : Scored → Bool) (h : (scored? world arguments).any test = true) :
    ∃ options configuration result,
      readRequest world arguments = .ok (.check options) ∧
        (examine world options).outcome = .ok (configuration, result) ∧
        test ⟨options, configuration, result⟩ = true := by
  unfold scored? at h
  split at h
  · next options hRequest =>
    cases hOutcome : (examine world options).outcome with
    | error stop => simp [hOutcome, Except.toOption] at h
    | ok outcome =>
        rw [hOutcome] at h
        exact ⟨options, outcome.1, outcome.2, hRequest, hOutcome, h⟩
  · cases h

/-- How a run that scored ends and what it leaves, where every character has a code: that
can be told without its report. -/
theorem run_of_scored? {world : World} {mark : String} {arguments : List String}
    (test : Ending → World → Bool)
    (h : (scored? world arguments).any (fun scored =>
      let files := publishFiles world mark scored.configuration scored.result
      JsonReport.countsFit scored.result && files.error?.isNone &&
        test (endingOf scored.configuration scored.result) files.world) = true) :
    test (run world mark arguments).reply.ending (run world mark arguments).world = true := by
  obtain ⟨options, configuration, result, hRequest, hOutcome, hTest⟩ := exists_scored? _ h
  simp only [Bool.and_eq_true, Option.isNone_iff_eq_none] at hTest
  obtain ⟨⟨hFit, hWritten⟩, hTest⟩ := hTest
  obtain ⟨report, lines, -, -, hRun⟩ :=
    runCheck_eq_of_printed mark (error?_publishPrinted_ne Limits.prints_unlimited _ _ _ _) hOutcome
      fun _ => hFit
  rw [run_of_check hRequest, hRun, hWritten]
  exact hTest

end CommandLine

end PatchCoverage
