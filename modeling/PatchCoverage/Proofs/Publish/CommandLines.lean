import Mathlib.Data.List.TakeWhile
import PatchCoverage.CommandLine.Check
import PatchCoverage.Proofs.Console.Markup
import PatchCoverage.Proofs.Failure
import PatchCoverage.Proofs.Scoring.Join
import PatchCoverage.Proofs.Text.Lines
import PatchCoverage.World.Unlimited

namespace PatchCoverage

/-!
# The commands of a step are four lines

A report may have line breaks in any name, and nothing takes them out.  Still
none of them reaches a workflow command: a scored file has the path of a changed
file, which is a line of the list of changed files, and the name that a row shows
is the end of that path.

The main statement is `publishLines_eq_four_lines`: the outputs of a run are
unbroken texts, and what is printed is four lines with fixed beginnings.  A line that
the channel has no code for ends the output in front of it.
-/

/-! ## Paths of changed files -/

theorem isUnbroken_of_mem_listedPaths {printed path : String} (h : path ∈ listedPaths printed) :
    IsUnbroken path :=
  isUnbroken_of_mem_splitLines (List.mem_filter.mp h).1

theorem isUnbroken_of_mem_pathsOfText {text path : String} (h : path ∈ pathsOfText text) :
    IsUnbroken path := by
  obtain ⟨line, hLine, rfl⟩ := List.mem_map.mp (List.mem_filter.mp h).1
  exact isUnbroken_trimBlank (isUnbroken_of_mem_splitLines hLine)

/-- The changed files that `git` lists are lines of what it printed. -/
theorem World.exists_printed_of_gitChanges {world : World} {directory : PathName}
    {base head : String} {changed : List String}
    (h : (world.gitChanges directory base head).outcome = .ok changed) :
    ∃ printed, changed = listedPaths printed := by
  unfold gitChanges at h
  split at h
  · cases h
  · split at h
    · cases h
    · cases h
    · split at h
      · cases h
      · unfold diffOutcome at h
        split at h
        · cases h
        · next printed _ =>
            split at h
            · exact ⟨printed, (Except.ok.inj h).symm⟩
            · cases h

namespace CommandLine

/-- The changed files that are given are lines of the given text. -/
theorem ChangeList.exists_text_of_paths {world : World} {list : ChangeList}
    {changed : List String} (h : list.paths world = .ok changed) :
    ∃ text, changed = pathsOfText text := by
  obtain ⟨octets, -, h⟩ := bind_eq_ok_iff.mp h
  obtain ⟨text, -, h⟩ := bind_eq_ok_iff.mp h
  exact ⟨text, (Except.ok.inj h).symm⟩

/-- However changed files are listed, each of them is one line. -/
theorem isUnbroken_of_listChanges {world : World} {options : CheckOptions}
    {configuration : Configuration} {changed : List String}
    (h : (listChanges world options configuration).2 = .ok changed) :
    ∀ path ∈ changed, IsUnbroken path := by
  unfold listChanges at h
  intro path hPath
  cases hGiven : options.changes? with
  | none =>
      rw [hGiven] at h
      obtain ⟨printed, rfl⟩ := World.exists_printed_of_gitChanges (mapError_eq_ok_iff.mp h)
      exact isUnbroken_of_mem_listedPaths hPath
  | some list =>
      rw [hGiven] at h
      obtain ⟨text, rfl⟩ := ChangeList.exists_text_of_paths h
      exact isUnbroken_of_mem_pathsOfText hPath

end CommandLine

/-! ## Rows -/

/-- A scored file that is shown on one line: its path and its name are unbroken,
and it has a percentage. -/
structure ScoredFile.IsShownOnLine (file : ScoredFile) : Prop where
  path : IsUnbroken file.path
  sourceName : IsUnbroken file.sourceName
  percentage : ∃ percentage, file.percentage = .ok percentage

/-- A scored file has the path of a changed file, and its name is the end of
that path. -/
theorem ScoringRules.isShownOnLine {rules : ScoringRules} {report : Report}
    {changed : List String} {result : ChangeCoverage}
    (hChanged : ∀ path ∈ changed, IsUnbroken path)
    (hOutcome : (rules.analyze report changed).outcome = .ok result) :
    ∀ file ∈ result.entries, file.IsShownOnLine := by
  intro file hFile
  obtain ⟨warnings, hJoin⟩ := exists_isJoin_of_analyze hOutcome
  obtain ⟨item, hItem, hScores⟩ := exists_scores_of_mem hJoin.entries hFile
  obtain ⟨hMatched, -⟩ := List.mem_filter.mp hItem
  obtain ⟨-, hMem⟩ := of_decide_eq_true (List.mem_filter.mp hMatched).2
  have hPath : IsUnbroken file.path := by
    rw [hScores.path]
    exact hChanged _ hMem
  have hEnd : file.path = expectedSourcePath rules.modulePath rules.sourceRoot item.1.name
      file.sourceName := by
    rw [hScores.path, hScores.sourceName]
    rfl
  obtain ⟨percentage, hPercentage, -⟩ := hScores.verdict
  exact ⟨hPath, (hEnd ▸ hPath).right_of_append, percentage, hPercentage⟩

/-- Links that are on one line if the paths are. -/
structure LinkTarget.IsUnbroken (target : LinkTarget) : Prop where
  repository : PatchCoverage.IsUnbroken target.repository
  headRef : PatchCoverage.IsUnbroken target.headRef

theorem isUnbroken_percentageText (percentage : Binary64) :
    IsUnbroken (percentageText percentage) :=
  (Binary64.isUnbroken_fixedText percentage).append (by decide)

theorem isUnbroken_verdictGlyph (passed : Bool) : IsUnbroken (verdictGlyph passed) := by
  cases passed <;> decide

section Rows

variable {target : LinkTarget} {file : ScoredFile} {result : ChangeCoverage}

theorem isUnbroken_fileCell (hTarget : target.IsUnbroken) (hFile : file.IsShownOnLine) :
    IsUnbroken (target.fileCell file) := by
  unfold LinkTarget.fileCell LinkTarget.fileUrl?
  split
  · exact hFile.sourceName
  · next url hUrl =>
      split at hUrl
      · cases hUrl
      · obtain rfl := Option.some.inj hUrl
        have hAddress : IsUnbroken ("https://github.com/" ++ target.repository ++ "/blob/" ++
            target.headRef ++ "/" ++ file.path) :=
          ((((IsUnbroken.append (by decide) hTarget.repository).append (by decide)).append
            hTarget.headRef).append (by decide)).append hFile.path
        exact (((IsUnbroken.append (by decide) hFile.sourceName).append (by decide)).append
          hAddress).append (by decide)

theorem exists_tableRow (hTarget : target.IsUnbroken) (hFile : file.IsShownOnLine) :
    ∃ row, target.tableRow file = .ok row ∧ IsUnbroken row := by
  obtain ⟨percentage, hPercentage⟩ := hFile.percentage
  refine ⟨_, by rw [LinkTarget.tableRow, hPercentage]; rfl, ?_⟩
  have hCell := isUnbroken_fileCell hTarget hFile
  exact (((((IsUnbroken.append (by decide) hCell).append (by decide)).append
    (isUnbroken_percentageText percentage)).append (by decide)).append
      (isUnbroken_verdictGlyph _)).append (by decide)

/-- All rows exist and are unbroken, and so is the average. -/
theorem exists_outputs (hTarget : target.IsUnbroken)
    (hFiles : ∀ file ∈ result.entries, file.IsShownOnLine) :
    ∃ rows overall, target.tableRows result = .ok rows ∧ result.overallText = .ok overall ∧
      IsUnbroken (StepOutput.singleLineTable rows) ∧ IsUnbroken overall := by
  obtain ⟨rows, hRows, hUnbroken⟩ :=
    exists_mapM_eq_ok_and fun file hFile => exists_tableRow hTarget (hFiles file hFile)
  obtain ⟨average, hAverage⟩ :=
    ChangeCoverage.exists_average fun file hFile => (hFiles file hFile).percentage
  refine ⟨rows, percentageText (average.getD .zero), hRows, ?_, ?_, isUnbroken_percentageText _⟩
  · rw [ChangeCoverage.overallText, hAverage]
    rfl
  · refine isUnbroken_join fun cell hCell => ?_
    obtain ⟨row, hRow, rfl⟩ := List.mem_map.mp hCell
    exact (hUnbroken row hRow).append (by decide)

end Rows

/-! ## Commands -/

namespace CommandLine

/-- What scoring changed files returns is shown on lines. -/
theorem isShownOnLine_of_examineChanges {world : World} {configuration : Configuration}
    {changed : List String} {result : ChangeCoverage}
    (hChanged : ∀ path ∈ changed, IsUnbroken path)
    (hResult : (examineChanges world configuration changed).2 = .ok result) :
    ∀ file ∈ result.entries, file.IsShownOnLine := by
  unfold examineChanges at hResult
  split at hResult
  · cases hResult
  · split at hResult
    · cases hResult
    · exact ScoringRules.isShownOnLine hChanged (mapError_eq_ok_iff.mp hResult)

end CommandLine

/-- The lines that publish three values as commands. -/
def fourLines (overall changedFiles fileCoverage : String) : List String :=
  ["Table results : " ++ fileCoverage,
    "::set-output name=overall::" ++ overall,
    "::set-output name=changed-files::" ++ changedFiles,
    "::set-output name=file-coverage::" ++ fileCoverage]

theorem isUnbroken_of_mem_fourLines {overall changedFiles fileCoverage : String}
    (hOverall : IsUnbroken overall) (hChangedFiles : IsUnbroken changedFiles)
    (hFileCoverage : IsUnbroken fileCoverage) :
    ∀ line ∈ fourLines overall changedFiles fileCoverage, IsUnbroken line := by
  simp only [fourLines, List.forall_mem_cons]
  exact ⟨IsUnbroken.append (by decide) hFileCoverage, IsUnbroken.append (by decide) hOverall,
    IsUnbroken.append (by decide) hChangedFiles, IsUnbroken.append (by decide) hFileCoverage,
    by simp⟩

section Lines

variable [Limits]

/-- Lines are printed up to the first that the channel refuses. -/
theorem CommandLine.Publication.ofLines_eq (lines : List String) (world : World) :
    ofLines (.ok lines) world =
      ⟨String.join ((lines.takeWhile Limits.prints).map (· ++ "\n")), world,
        if lines.all Limits.prints then none else some .encoding⟩ := by
  have hPrints : (Limits.prints ∘ fun line : String => line ++ "\n") = Limits.prints :=
    funext Limits.prints_line
  have hPrinted := Console.printTexts_eq (lines.map (· ++ "\n"))
  rw [List.takeWhile_map, List.all_map, hPrints] at hPrinted
  change Publication.ofPrinted (.ok (Console.printTexts _)) world = _
  rw [hPrinted]
  cases lines.all Limits.prints <;> rfl

/-- Whatever is in the report and in the list of changed files, the outputs of a
run are unbroken, and the commands that publish them are printed as four lines
with fixed beginnings, or as the first ones of these if the channel refuses one. -/
theorem publishLines_eq_four_lines {world : World} {options : CommandLine.CheckOptions}
    {configuration : Configuration} {changed : List String} {result : ChangeCoverage}
    (hChanged : (CommandLine.listChanges world options configuration).2 = .ok changed)
    (hResult : (CommandLine.examineChanges world configuration changed).2 = .ok result)
    (hRepository : IsUnbroken configuration.git.repository)
    (hHeadRef : IsUnbroken configuration.git.headRef) :
    let target := CommandLine.linkTarget configuration
    ∃ overall changedFiles fileCoverage,
      StepOutput.ofResult target result = .ok
        [⟨"overall", overall⟩, ⟨"changed-files", changedFiles⟩, ⟨"file-coverage", fileCoverage⟩] ∧
      IsUnbroken overall ∧ IsUnbroken changedFiles ∧ IsUnbroken fileCoverage ∧
      ∀ place : World,
        let four := fourLines overall changedFiles fileCoverage
        let publication := CommandLine.publishLines target result place
        ∃ lines, lines <+: four ∧
          piecesBetween '\n' publication.printed.toList = lines.map String.toList ++ [[]] ∧
          '\r' ∉ publication.printed.toList ∧
          ((∀ line ∈ four, Limits.prints line = true) →
            publication.error? = none ∧ lines = four) := by
  intro target
  have hTarget : target.IsUnbroken := ⟨hRepository, hHeadRef⟩
  have hFiles := CommandLine.isShownOnLine_of_examineChanges
    (CommandLine.isUnbroken_of_listChanges hChanged) hResult
  obtain ⟨rows, overall, hRows, hOverall, hTable, hText⟩ := exists_outputs hTarget hFiles
  have hCount : IsUnbroken (integerText result.fileCount) := isUnbroken_integerText _
  have hOutputs : StepOutput.ofResult target result = .ok
      [⟨"overall", overall⟩, ⟨"changed-files", integerText result.fileCount⟩,
        ⟨"file-coverage", StepOutput.singleLineTable rows⟩] := by
    rw [StepOutput.ofResult, hOverall, hRows]
    rfl
  have hLines : StepOutput.commandLines target result = .ok
      (fourLines overall (integerText result.fileCount) (StepOutput.singleLineTable rows)) := by
    rw [StepOutput.commandLines, hOutputs, hRows]
    rfl
  refine ⟨overall, integerText result.fileCount, StepOutput.singleLineTable rows, hOutputs, hText,
    hCount, hTable, ?_⟩
  intro place four publication
  have hPublication : publication = CommandLine.Publication.ofLines (.ok four) place := by
    unfold publication CommandLine.publishLines
    rw [hLines]
    rfl
  have hUnbroken : ∀ line ∈ four.takeWhile Limits.prints, IsUnbroken line := fun line hLine =>
    isUnbroken_of_mem_fourLines hText hCount hTable line (List.takeWhile_subset _ hLine)
  rw [hPublication, CommandLine.Publication.ofLines_eq]
  refine ⟨four.takeWhile Limits.prints, List.takeWhile_prefix _, piecesBetween_printed hUnbroken,
    notMem_printed hUnbroken, fun hPrints => ⟨?_, List.takeWhile_eq_self_iff.mpr hPrints⟩⟩
  exact if_pos (List.all_eq_true.mpr hPrints)

end Lines

/-- A world with a report of one scored class, whose name has a line break and a
command in it. -/
def worldOfBrokenName : World :=
  { environment := ⟨[]⟩
    files := .directory [("report.xml", .file (encodeUtf8
      ("<report><package name='p'><class name='A&#10;::set-output name=overall::100%' " ++
        "sourcefilename='A.java'><counter type='LINE' missed='1' covered='1'/></class>" ++
        "</package></report>")))]
    directory := []
    git := none
    input := encodeUtf8 "s/p/A.java\r\n"
    columns := 80 }

/-- A configuration for that report. -/
def configurationOfBrokenName : Configuration :=
  { Configuration.standard "/" with
    coverage := ⟨.ofNat 50, "LINE", true⟩
    paths := .of "" "s" "report.xml"
    git := ⟨"main", "topic", "owner/name"⟩ }

/-- Options that take the changed files from standard input. -/
def optionsOfBrokenName : CommandLine.CheckOptions :=
  { directory := PathName.ofText "/"
    overrides := {}
    failUnder := false
    warnOnly := false
    changes? := some .standardInput
    asJson := false
    noSetOutput := false }

/-- That class is scored, and its name starts no line. -/
theorem publishLines_eq_four_lines_of_brokenName :
    ∃ result overall changedFiles fileCoverage,
      (CommandLine.examineChanges worldOfBrokenName configurationOfBrokenName ["s/p/A.java"]).2 =
        .ok result ∧
      result.entries.map ScoredFile.className = ["A\n::set-output name=overall::100%"] ∧
      let publication := CommandLine.publishLines
        (CommandLine.linkTarget configurationOfBrokenName) result worldOfBrokenName
      publication.error? = none ∧
        piecesBetween '\n' publication.printed.toList =
          (fourLines overall changedFiles fileCoverage).map String.toList ++ [[]] := by
  have hChanged : (CommandLine.listChanges worldOfBrokenName optionsOfBrokenName
      configurationOfBrokenName).2 = .ok ["s/p/A.java"] := by
    decide +kernel
  obtain ⟨result, hResult, hClasses⟩ := exists_of_toOption_map
    (by decide +kernel :
      ((CommandLine.examineChanges worldOfBrokenName configurationOfBrokenName
        ["s/p/A.java"]).2.map fun result => result.entries.map ScoredFile.className).toOption =
          some ["A\n::set-output name=overall::100%"])
  obtain ⟨overall, changedFiles, fileCoverage, -, -, -, -, hPrinted⟩ :=
    publishLines_eq_four_lines hChanged hResult (by decide +kernel) (by decide +kernel)
  obtain ⟨lines, -, hPieces, -, hAll⟩ := hPrinted worldOfBrokenName
  obtain ⟨hError, rfl⟩ := hAll fun line _ => Limits.prints_unlimited line
  exact ⟨result, overall, changedFiles, fileCoverage, hResult, hClasses, hError, hPieces⟩

end PatchCoverage
