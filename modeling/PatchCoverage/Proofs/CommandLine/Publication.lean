import PatchCoverage.Proofs.CommandLine.Told
import PatchCoverage.Proofs.Publish.AddedText
import PatchCoverage.Proofs.Publish.Printed
import PatchCoverage.Proofs.Text.Utf8
import PatchCoverage.World.Unlimited

namespace PatchCoverage

/-!
# All or nothing is published

A run that is refused or scored nothing tells why, and leaves every file as it was.  A
report in JSON or a command is in what it prints only if it is in the texts that it tells
of, which it repeats as they are.

A run that scored prints its report and, if they are wanted, the commands of the step;
it adds one block to the output file and one page to the summary file, each if there is
such a file and the setting for it is on, and changes no other file.  It does so whether
the average is too low or not, and whatever is asked to follow from that.  Where the
output channel has no code for a character of the report, the run ends there and leaves
every file as it was.

The main statement is `run_publishes_all_or_nothing`.
-/

namespace CommandLine

/-! ## Runs that scored -/

section Writing

variable [Limits] {world : World} {mark : String} {configuration : Configuration}
  {result : ChangeCoverage}

theorem gainsIf_publishOutputs {target : LinkTarget} {enabled : Bool} {block : String}
    (hBlock : StepOutput.block mark target result = .ok block)
    (h : (publishOutputs mark target result enabled world).error? = none) :
    world.GainsIf (publishOutputs mark target result enabled world).world
      (stepFile? world enabled "GITHUB_OUTPUT") block := by
  unfold publishOutputs at h ⊢
  unfold World.GainsIf
  cases hName : stepFile? world enabled "GITHUB_OUTPUT" with
  | none => rfl
  | some name =>
      simp only [hName, Publication.ofWrite, Option.map_eq_none_iff] at h ⊢
      obtain ⟨written, hWritten, -, hGains⟩ := World.gains_writeOutputs h
      obtain rfl := Except.ok.inj (hBlock.symm.trans hWritten)
      exact hGains

theorem gainsIf_publishSummary {target : LinkTarget} {enabled : Bool} {page : String}
    (hPage : StepSummary.text target result = .ok page)
    (h : (publishSummary target result enabled world).error? = none) :
    world.GainsIf (publishSummary target result enabled world).world
      (stepFile? world enabled "GITHUB_STEP_SUMMARY") page := by
  unfold publishSummary at h ⊢
  unfold World.GainsIf
  cases hName : stepFile? world enabled "GITHUB_STEP_SUMMARY" with
  | none => rfl
  | some name =>
      simp only [hName, Publication.ofWrite, Option.map_eq_none_iff] at h ⊢
      obtain ⟨written, hWritten, -, hGains⟩ := World.gains_writeSummary h
      obtain rfl := Except.ok.inj (hPage.symm.trans hWritten)
      exact hGains

/-- Publishing to the end adds a block and a page, each to its file if there is one. -/
theorem exists_gainsIf_publishFiles
    (hDefined : ∀ file ∈ result.entries, ∃ percentage, file.percentage = .ok percentage)
    (h : (publishFiles world mark configuration result).error? = none) :
    ∃ block page middle,
      StepOutput.block mark (linkTarget configuration) result = .ok block ∧
      StepSummary.text (linkTarget configuration) result = .ok page ∧
      world.GainsIf middle (stepFile? world configuration.output.githubOutput "GITHUB_OUTPUT")
        block ∧
      middle.GainsIf (publishFiles world mark configuration result).world
        (stepFile? world configuration.output.stepSummary "GITHUB_STEP_SUMMARY") page := by
  obtain ⟨block, hBlock⟩ := StepOutput.exists_block (linkTarget configuration) mark hDefined
  obtain ⟨page, hPage⟩ := StepSummary.exists_text (linkTarget configuration) hDefined
  unfold publishFiles Publication.andThen at h ⊢
  cases hError : (publishOutputs mark (linkTarget configuration) result
      configuration.output.githubOutput world).error? with
  | some error => simp [hError] at h
  | none =>
      simp only [hError] at h ⊢
      have hFirst := gainsIf_publishOutputs hBlock hError
      have hSecond := gainsIf_publishSummary hPage h
      -- The environment names the summary file, and the first addition leaves it alone.
      have hSame := hFirst.environment
      unfold stepFile? at hSecond
      rw [hSame] at hSecond
      exact ⟨block, page, _, hBlock, hPage, hFirst, hSecond⟩

end Writing

/-! ## What a low average is asked to lead to -/

/-- Options with other answers to whether a low average fails the run. -/
def CheckOptions.withVerdict (options : CheckOptions) (failUnder warnOnly : Bool) : CheckOptions :=
  { options with failUnder, warnOnly }

/-- A configuration with another answer to whether a low average fails the run. -/
def withFailing (configuration : Configuration) (fails : Bool) : Configuration :=
  { configuration with
    coverage := { configuration.coverage with failUnderThreshold := fails } }

/-- A configuration is there only if it was loaded, no options contradict each other and
nothing is wrong with it. -/
theorem exists_loaded_of_prepare {options : CheckOptions} {load : Except LoadError Configuration}
    {configuration : Configuration} (h : prepare options load = .ok configuration) :
    ∃ loaded, load = .ok loaded ∧ options.configurationOn loaded = configuration ∧
      configuration.problems options.changes?.isNone = [] := by
  cases load with
  | error error => cases h
  | ok loaded =>
      cases hBoth : options.failUnder && options.warnOnly with
      | true =>
          rw [prepare_of_contradiction hBoth] at h
          cases h
      | false =>
          rw [prepare_of_consistent hBoth] at h
          split at h
          · next hValid =>
            obtain rfl := Except.ok.inj h
            exact ⟨loaded, rfl, rfl, hValid⟩
          · cases h

theorem configurationOn_withVerdict (options : CheckOptions) (failUnder warnOnly : Bool)
    (loaded : Configuration) :
    (options.withVerdict failUnder warnOnly).configurationOn loaded =
      withFailing (options.configurationOn loaded)
        ((options.withVerdict failUnder warnOnly).failsWhenLow loaded) := by
  cases failUnder <;> cases warnOnly <;> rfl

theorem directory_withVerdict (options : CheckOptions) (failUnder warnOnly : Bool) :
    (options.withVerdict failUnder warnOnly).directory = options.directory :=
  rfl

theorem listChanges_withVerdict (world : World) (options : CheckOptions)
    (configuration : Configuration) (failUnder warnOnly fails : Bool) :
    listChanges world (options.withVerdict failUnder warnOnly) (withFailing configuration fails) =
      listChanges world options configuration :=
  rfl

theorem examineChanges_withFailing (world : World) (configuration : Configuration)
    (fails : Bool) (changed : List String) :
    examineChanges world (withFailing configuration fails) changed =
      examineChanges world configuration changed := by
  unfold examineChanges
  rfl

/-- What a run finds out if no stage stops it. -/
theorem examine_of_stages [Limits] {world : World} {options : CheckOptions}
    {configuration : Configuration} {changed : List String} {result : ChangeCoverage}
    (hPrepared : prepare options (world.loadConfiguration options.directory).outcome =
      .ok configuration)
    (hChanged : (listChanges world options configuration).2 = .ok changed)
    (hScored : (examineChanges world configuration changed).2 = .ok result) :
    examine world options =
      { warnings := (world.loadConfiguration options.directory).warnings ++
          (examineChanges world configuration changed).1
        start? := (listChanges world options configuration).1
        outcome := .ok (configuration, result) } := by
  unfold examine
  dsimp only
  rw [hPrepared]
  dsimp only
  rcases hList : listChanges world options configuration with ⟨start?, listed⟩
  rw [hList] at hChanged
  obtain rfl : listed = .ok changed := hChanged
  dsimp only
  rw [hScored]
  rfl

/-- What is scored does not hang on what a low average leads to. -/
theorem exists_examine_withVerdict [Limits] {world : World} {options : CheckOptions}
    {configuration : Configuration} {result : ChangeCoverage} {failUnder warnOnly : Bool}
    (hOutcome : (examine world options).outcome = .ok (configuration, result))
    (hVerdict : (failUnder && warnOnly) = false) :
    ∃ fails, examine world (options.withVerdict failUnder warnOnly) =
      { examine world options with outcome := .ok (withFailing configuration fails, result) } := by
  rw [examine_outcome] at hOutcome
  obtain ⟨prepared, hPrepared, hStages⟩ := bind_eq_ok_iff.mp hOutcome
  obtain ⟨changed, hChanged, hStages⟩ := bind_eq_ok_iff.mp hStages
  obtain ⟨scored, hScored, hSame⟩ := map_eq_ok_iff.mp hStages
  obtain ⟨rfl, rfl⟩ := Prod.mk.inj hSame
  obtain ⟨loaded, hLoaded, rfl, hValid⟩ := exists_loaded_of_prepare hPrepared
  let fails := (options.withVerdict failUnder warnOnly).failsWhenLow loaded
  have hOther : prepare (options.withVerdict failUnder warnOnly)
      (world.loadConfiguration options.directory).outcome =
        .ok (withFailing (options.configurationOn loaded) fails) := by
    rw [hLoaded, prepare_of_consistent hVerdict, configurationOn_withVerdict]
    exact if_pos hValid
  -- The configurations differ in nothing that listing and scoring look at.
  have hSameChanged := hChanged
  have hSameScored := hScored
  rw [← listChanges_withVerdict world options _ failUnder warnOnly fails] at hSameChanged
  rw [← examineChanges_withFailing world _ fails] at hSameScored
  have hSecond := examine_of_stages hOther hSameChanged hSameScored
  refine ⟨fails, hSecond.trans ?_⟩
  rw [examine_of_stages hPrepared hChanged hScored, listChanges_withVerdict,
    examineChanges_withFailing, directory_withVerdict]

/-! ## All or nothing -/

/-- A text is on one of the two channels of a run. -/
def ProgramRun.Shows (run : ProgramRun) (text : List Char) : Prop :=
  text <:+: run.reply.printed.toList ∨ text <:+: run.complaints.toList

/-- A word is in a text that a run tells of: a warning, or what it tells of the reason why
it has no result. -/
def ProgramRun.Tells (run : ProgramRun) (reason : List Char → Prop) (word : List Char) : Prop :=
  ∃ text, (reason text ∨ ∃ warning ∈ run.warnings, warning.toList = text) ∧ word <:+: text

/-- A run that publishes nothing: it leaves all files as they were, and there is a command
on the outputs of the step or a report in JSON on its channels only if the run repeats a
text that has the word by which that is known. -/
structure ProgramRun.PublishesNothing (run : ProgramRun) (world : World)
    (reason : List Char → Prop) : Prop where
  world : run.world = world
  command : run.Shows setOutput → run.Tells reason setOutput
  document : ∀ target result document, JsonReport.text target result = .ok document →
    run.Shows document.toList → run.Tells reason overallKey

/-- A run that publishes all there is: it prints the report, and the commands on the
outputs of the step if they are wanted; it adds one block to the output file and one page
to the summary file, each if there is one, and changes no other file. -/
structure ProgramRun.PublishesAll [Limits] (run : ProgramRun) (world : World) (mark : String)
    (options : CheckOptions) (configuration : Configuration) (result : ChangeCoverage) :
    Prop where
  printed : ∃ report lines,
    publishReport options.asJson (linkTarget configuration) result world = ⟨report, world, none⟩ ∧
    StepOutput.commandLines (linkTarget configuration) result = .ok lines ∧
    run.reply.printed = report ++
      if options.asJson = false ∧ options.noSetOutput = false ∧
        configuration.output.setOutputLines = true
      then String.join (lines.map (· ++ "\n")) else ""
  files : ∃ block page middle,
    StepOutput.block mark (linkTarget configuration) result = .ok block ∧
    StepSummary.text (linkTarget configuration) result = .ok page ∧
    world.GainsIf middle (stepFile? world configuration.output.githubOutput "GITHUB_OUTPUT")
      block ∧
    middle.GainsIf run.world
      (stepFile? world configuration.output.stepSummary "GITHUB_STEP_SUMMARY") page

/-- Runs that print, warn of, start and leave behind the same. -/
structure ProgramRun.SamePublication (first second : ProgramRun) : Prop where
  printed : first.reply.printed = second.reply.printed
  complaints : first.complaints = second.complaints
  start? : first.start? = second.start?
  world : first.world = second.world

/-- Where a reply has foreign words only of its reason, nothing is published. -/
theorem publishesNothing_of_reply {run : ProgramRun} {world : World} {reason : List Char → Prop}
    (hWorld : run.world = world)
    (hReply : ∀ word, IsForeign word →
      word <:+: run.reply.printed.toList ∨ word <:+: run.reply.complaint.toList →
        ∃ text, reason text ∧ word <:+: text) :
    run.PublishesNothing world reason := by
  have hShown : ∀ word, IsForeign word → run.Shows word → run.Tells reason word := by
    rintro word hWord (hPrinted | hComplaints)
    · obtain ⟨text, hText, hIn⟩ := hReply word hWord (.inl hPrinted)
      exact ⟨text, .inl hText, hIn⟩
    · -- The warnings are lines of their own in front of the complaint.
      have hLines : word <:+: ((run.warnings.map String.toList).flatMap fun line =>
          line ++ ['\n']) ++ run.reply.complaint.toList := by
        simpa [ProgramRun.complaints, List.flatMap_map, Function.comp_def] using hComplaints
      rcases Console.exists_isInfix_of_flatMap hWord.feed hLines with
        ⟨line, hLine, hIn⟩ | hComplaint
      · obtain ⟨warning, hWarning, rfl⟩ := List.mem_map.mp hLine
        exact ⟨_, .inr ⟨warning, hWarning, rfl⟩, hIn⟩
      · obtain ⟨text, hText, hIn⟩ := hReply word hWord (.inr hComplaint)
        exact ⟨text, .inl hText, hIn⟩
  refine ⟨hWorld, hShown _ isForeign_setOutput, ?_⟩
  intro target result document hDocument hIn
  -- Whatever the result is, its report is known by its first key.
  have hKey := isInfix_overallKey_of_report hDocument
  exact hShown _ isForeign_overallKey (hIn.imp hKey.trans hKey.trans)

theorem publishesNothing_of_stop [Limits] {world : World} (mark : String)
    {options : CheckOptions} {stop : CheckStop}
    (hOutcome : (examine world options).outcome = .error stop) :
    (runCheck world mark options).PublishesNothing world (stop.Tells world.emoji) := by
  rw [runCheck_eq_of_stop mark hOutcome]
  refine publishesNothing_of_reply rfl fun word hWord hIn => ?_
  rcases hIn with hPrinted | hComplaint
  · exact CheckStop.exists_tells_of_printed hWord hPrinted
  · exact CheckStop.exists_tells_of_complaint hWord hComplaint

theorem publishesNothing_of_refusal [Limits] {world : World} (mark : String)
    {arguments : List String} {refusal : Refusal}
    (hRefused : readRequest world arguments = .error refusal) :
    (run world mark arguments).PublishesNothing world refusal.Tells := by
  have hRun : run world mark arguments = ⟨refusal.reply, [], none, world⟩ := by
    simp [run, hRefused]
  rw [hRun]
  refine publishesNothing_of_reply rfl fun word hWord hIn => ?_
  rcases hIn with hPrinted | hComplaint
  · rw [refusal.printed_reply] at hPrinted
    exact absurd hPrinted hWord.not_isInfix_empty
  · exact Refusal.exists_tells_of_complaint hWord hRefused hComplaint

section Scored

variable [Limits] {world : World} {options : CheckOptions} {configuration : Configuration}
  {result : ChangeCoverage}

theorem publishesAll_of_outcome (mark : String)
    (hOutcome : (examine world options).outcome = .ok (configuration, result))
    (hFit : options.asJson = true → JsonReport.countsFit result = true)
    (hPrinted : (runCheck world mark options).reply.ending ≠ .uncaught .encoding)
    (hWritten : ∀ error,
      (runCheck world mark options).reply.ending ≠ .uncaught (.write error)) :
    (runCheck world mark options).PublishesAll world mark options configuration result := by
  rcases runCheck_eq_or mark hOutcome hFit with
    ⟨report, lines, hReport, hLines, hRun⟩ | ⟨-, hRun⟩
  · rw [hRun] at hWritten ⊢
    refine ⟨⟨report, lines, hReport, hLines, ?_⟩, ?_⟩
    · have hWanted : printsLines options configuration = true ↔
          options.asJson = false ∧ options.noSetOutput = false ∧
            configuration.output.setOutputLines = true := by
        simp [printsLines, and_assoc]
      simp only [hWanted]
    · refine exists_gainsIf_publishFiles (exists_percentage_of_examine hOutcome) ?_
      rcases (onlyWrites_publishFiles world mark configuration result).error? with
        hNone | ⟨error, hError⟩
      · exact hNone
      · rw [hError] at hWritten
        exact absurd rfl (hWritten error)
  · rw [hRun] at hPrinted
    exact absurd rfl hPrinted

/-- A run that the output channel has ended leaves every file as it was. -/
theorem world_runCheck_of_encoding (mark : String)
    (hOutcome : (examine world options).outcome = .ok (configuration, result))
    (hFit : options.asJson = true → JsonReport.countsFit result = true)
    (hEnds : (runCheck world mark options).reply.ending = .uncaught .encoding) :
    (runCheck world mark options).world = world := by
  rcases runCheck_eq_or mark hOutcome hFit with ⟨report, lines, -, -, hRun⟩ | ⟨-, hRun⟩
  · rw [hRun] at hEnds
    exact absurd hEnds (ending_publishFiles_ne world mark configuration result)
  · rw [hRun]

theorem samePublication_withVerdict (mark : String) {failUnder warnOnly : Bool}
    (hOutcome : (examine world options).outcome = .ok (configuration, result))
    (hVerdict : (failUnder && warnOnly) = false) :
    (runCheck world mark options).SamePublication
      (runCheck world mark (options.withVerdict failUnder warnOnly)) := by
  obtain ⟨fails, hExamine⟩ := exists_examine_withVerdict hOutcome hVerdict
  have hOther : (examine world (options.withVerdict failUnder warnOnly)).outcome =
      .ok (withFailing configuration fails, result) := by
    rw [hExamine]
  rw [runCheck_eq_of_outcome mark hOutcome, runCheck_eq_of_outcome mark hOther, hExamine]
  exact ⟨rfl, rfl, rfl, rfl⟩

end Scored

/-- A run of `check` publishes all or nothing.  One that is refused or scores nothing
publishes nothing.  One that scores and has a report that can be written publishes all
there is if it prints that and writes its files to the end, and leaves every file as it was
if a character of the report ends it.  Whether the average is too low or not, it does the
same whatever that is asked to lead to. -/
theorem run_publishes_all_or_nothing [Limits] (world : World) (mark : String)
    (arguments : List String) :
    (∀ refusal, readRequest world arguments = .error refusal →
      (run world mark arguments).PublishesNothing world refusal.Tells) ∧
    ∀ options, readRequest world arguments = .ok (.check options) →
      (∀ stop, (examine world options).outcome = .error stop →
        (run world mark arguments).PublishesNothing world (stop.Tells world.emoji)) ∧
      ∀ configuration result, (examine world options).outcome = .ok (configuration, result) →
        ((options.asJson = true → JsonReport.countsFit result = true) →
          ((run world mark arguments).reply.ending ≠ .uncaught .encoding →
            (∀ error, (run world mark arguments).reply.ending ≠ .uncaught (.write error)) →
            (run world mark arguments).PublishesAll world mark options configuration result) ∧
          ((run world mark arguments).reply.ending = .uncaught .encoding →
            (run world mark arguments).world = world)) ∧
        ∀ others failUnder warnOnly,
          readRequest world others = .ok (.check (options.withVerdict failUnder warnOnly)) →
          (failUnder && warnOnly) = false →
          (run world mark arguments).SamePublication (run world mark others) := by
  refine ⟨fun refusal => publishesNothing_of_refusal mark, ?_⟩
  intro options hRequest
  rw [run_of_check hRequest]
  refine ⟨fun stop => publishesNothing_of_stop mark, ?_⟩
  intro configuration result hOutcome
  refine ⟨fun hFit => ⟨publishesAll_of_outcome mark hOutcome hFit,
    world_runCheck_of_encoding mark hOutcome hFit⟩, ?_⟩
  intro others failUnder warnOnly hOther hVerdict
  rw [run_of_check hOther]
  exact samePublication_withVerdict mark hOutcome hVerdict

/-! ### Runs with and without a result -/

/-- What stops the run that a command line asks for, if anything does, and its
warnings. -/
def stopped? (world : World) (arguments : List String) : Option (CheckStop × List String) :=
  match readRequest world arguments with
  | .ok (.check options) =>
      match (examine world options).outcome with
      | .error stop => some (stop, (examine world options).warnings)
      | .ok _ => none
  | _ => none

theorem exists_options_of_stopped? {world : World} {arguments : List String} {stop : CheckStop}
    {warnings : List String} (h : stopped? world arguments = some (stop, warnings)) :
    ∃ options, readRequest world arguments = .ok (.check options) ∧
      (examine world options).outcome = .error stop ∧
      (examine world options).warnings = warnings := by
  unfold stopped? at h
  split at h
  · next options hRequest =>
    split at h
    · next hOutcome =>
      obtain ⟨rfl, rfl⟩ := Prod.mk.inj (Option.some.inj h)
      exact ⟨options, hRequest, hOutcome, rfl⟩
    · cases h
  · cases h

/-- A request with other answers to whether a low average fails the run. -/
def Request.withVerdict (failUnder warnOnly : Bool) : Request → Request
  | .check options => .check (options.withVerdict failUnder warnOnly)
  | request => request

/-- A world in which a step gathers its outputs and its summary, with a report of one class. -/
def worldOfStep : World :=
  { environment := ⟨[("GITHUB_OUTPUT", "/outputs"), ("GITHUB_STEP_SUMMARY", "/summary")]⟩
    files := .directory
      [("summary", .file (encodeUtf8 "Built.\n")),
        ("report.xml", .file (encodeUtf8
          ("<report><package name='p'><class name='p/A' sourcefilename='A.java'>" ++
            "<counter type='INSTRUCTION' missed='3' covered='1'/></class></package></report>")))]
    directory := []
    git := none
    input := encodeUtf8 "m/s/p/A.java\n"
    columns := 80 }

/-- A command line that scores the class. -/
def stepArguments : List String :=
  ["--ci", "check", "--changed-files", "-", "--report", "report.xml", "--module-path", "m",
    "--source-root", "s"]

/-- With `--fail-under` the run fails and publishes what it does with `--warn-only`; with
both it publishes nothing. -/
theorem run_publishes_all_or_nothing_of_step :
    let failing := stepArguments ++ ["--fail-under"]
    let warning := stepArguments ++ ["--warn-only"]
    let contradicting := failing ++ ["--warn-only"]
    (run worldOfStep "0" contradicting).PublishesNothing worldOfStep
        (CheckStop.contradiction.Tells worldOfStep.emoji) ∧
      (∃ options configuration result,
        (run worldOfStep "0" failing).PublishesAll worldOfStep "0" options configuration result) ∧
      (run worldOfStep "0" failing).SamePublication (run worldOfStep "0" warning) ∧
      (run worldOfStep "0" failing).reply.ending = .exit 1 ∧
      (run worldOfStep "0" failing).world.read (PathName.ofText "/outputs") =
        .ok (encodeUtf8
          ("overall=25.00%\nchanged-files=1\nfile-coverage<<ghadelimiter_0\n" ++
            "| A.java | 25.00% | ❌ |\nghadelimiter_0\n")) := by
  intro failing warning contradicting
  have hStop : stopped? worldOfStep contradicting = some (.contradiction, []) := by
    decide +kernel
  obtain ⟨contradictory, hContradictory, hContradiction, -⟩ := exists_options_of_stopped? hStop
  -- The files are looked at apart from the report, which is not laid out for that.
  have hScored : (scored? worldOfStep failing).any (fun scored =>
      let files := publishFiles worldOfStep "0" scored.configuration scored.result
      JsonReport.countsFit scored.result && files.error?.isNone &&
        decide (endingOf scored.configuration scored.result = .exit 1 ∧
          files.world.read (PathName.ofText "/outputs") = .ok (encodeUtf8
            ("overall=25.00%\nchanged-files=1\nfile-coverage<<ghadelimiter_0\n" ++
              "| A.java | 25.00% | ❌ |\nghadelimiter_0\n")))) = true := by
    decide +kernel
  obtain ⟨options, configuration, result, hRequest, hOutcome, hTest⟩ := exists_scored? _ hScored
  simp only [Bool.and_eq_true, decide_eq_true_eq, Option.isNone_iff_eq_none] at hTest
  obtain ⟨⟨hFit, hWritten⟩, hStatus, hFile⟩ := hTest
  have hOther :
      readRequest worldOfStep warning = .ok (.check (options.withVerdict false true)) := by
    have hSame : readRequest worldOfStep warning =
        (readRequest worldOfStep failing).map (Request.withVerdict false true) := by
      decide +kernel
    rw [hSame, hRequest]
    rfl
  obtain ⟨report, lines, -, -, hRun⟩ :=
    runCheck_eq_of_printed "0" (error?_publishPrinted_ne Limits.prints_unlimited _ _ _ _) hOutcome
      fun _ => hFit
  rw [← run_of_check hRequest, hWritten] at hRun
  have hEnding : (run worldOfStep "0" failing).reply.ending = .exit 1 := by
    rw [hRun]
    exact hStatus
  have hOutputs : (run worldOfStep "0" failing).world.read (PathName.ofText "/outputs") =
      .ok (encodeUtf8
        ("overall=25.00%\nchanged-files=1\nfile-coverage<<ghadelimiter_0\n" ++
          "| A.java | 25.00% | ❌ |\nghadelimiter_0\n")) := by
    rw [hRun]
    exact hFile
  have hNothing := ((run_publishes_all_or_nothing worldOfStep "0" contradicting).2
    contradictory hContradictory).1 .contradiction hContradiction
  obtain ⟨hPublished, hVerdicts⟩ := ((run_publishes_all_or_nothing worldOfStep "0" failing).2
    options hRequest).2 configuration result hOutcome
  have hAll := (hPublished fun _ => hFit).1 (by simp [hEnding]) (by simp [hEnding])
  have hSame := hVerdicts warning false true hOther rfl
  exact ⟨hNothing, ⟨options, configuration, result, hAll⟩, hSame, hEnding, hOutputs⟩

/-- A result without scored files. -/
def resultOfNothing : ChangeCoverage :=
  { changedFiles := []
    threshold := .ofNat 50
    entries := []
    skipped := [] }

/-- The report on it in JSON. -/
def reportOfNothing : String :=
  "\x7b\n  \"overall\": null,\n  \"changedFiles\": 0,\n  \"threshold\": 50.0,\n" ++
    "  \"passed\": true,\n  \"files\": [],\n  \"skipped\": [],\n  \"diff\": []\n\x7d"

/-- What `git` says of a revision, with a line that reads like a command and with a report
in JSON. -/
def echoedText : String :=
  "fatal: bad revision\n::set-output name=overall::100.00%\n" ++ reportOfNothing ++ "\n"

/-- A world where `git` fails and says so. -/
def worldOfEchoingGit : World :=
  { environment := ⟨[]⟩
    files := .directory []
    directory := []
    git := some ⟨encodeUtf8 echoedText, 128⟩
    input := []
    columns := 80 }

/-- A run that scored nothing can print a line that reads like a command, and a report in
JSON: the complaint about `git` quotes them. -/
theorem command_in_complaint_of_echoingGit :
    let arguments := ["check", "--base-ref", "main", "--head-ref", "topic"]
    let message := "git diff main...topic failed with exit code 128: fatal: bad revision\n" ++
      "::set-output name=overall::100.00%\n" ++ reportOfNothing
    (∃ options error,
      readRequest worldOfEchoingGit arguments = .ok (.check options) ∧
        (examine worldOfEchoingGit options).outcome = .error (.diff error)) ∧
      JsonReport.text ⟨"", ""⟩ resultOfNothing = .ok reportOfNothing ∧
      (run worldOfEchoingGit "" arguments).complaints = "Error: " ++ message ++ "\n" := by
  intro arguments message
  have hStop : stopped? worldOfEchoingGit arguments =
      some (.diff (.failed "main" "topic" 128 echoedText), []) := by
    decide +kernel
  obtain ⟨options, hRequest, hOutcome, hWarnings⟩ := exists_options_of_stopped? hStop
  have hMessage : (DiffError.failed "main" "topic" 128 echoedText).message? = some message := by
    decide +kernel
  refine ⟨⟨options, _, hRequest, hOutcome⟩, by decide +kernel, ?_⟩
  rw [run_of_check hRequest, runCheck_eq_of_stop "" hOutcome, ProgramRun.complaints, hWarnings,
    CheckStop.reply, hMessage]
  exact String.empty_append

end CommandLine

end PatchCoverage
