import Mathlib.Data.List.Basic
import PatchCoverage.Proofs.Change.Failures
import PatchCoverage.Proofs.CommandLine.ExitStatus
import PatchCoverage.Proofs.Report.Failures

namespace PatchCoverage.CommandLine

/-!
# Failures that a run reports

A run of `check` that cannot list the changed files, or cannot read the report,
says so in a line and ends with status one.  It ends without a word where the
failure has no wording, and also where it cannot even look for the report.

Main statements: `report_failures_reported_iff` and `git_failures_reported_iff`,
each with the failures of the reading itself and what becomes of them in a run.
-/

/-- The options and the configuration of a run of `check` that gets as far as the
changed files. -/
def prepared? [Limits] (world : World) (arguments : List String) :
    Option (CheckOptions × Configuration) :=
  match readRequest world arguments with
  | .ok (.check options) =>
    (prepare options (world.loadConfiguration options.directory).outcome).toOption.map
      fun configuration => (options, configuration)
  | _ => none

/-- A run says what went wrong and ends with status one. -/
def Reports (run : ProgramRun) (message : String) : Prop :=
  run.reply = ⟨"", "Error: " ++ message ++ "\n", .exit 1⟩

section Stages

variable {world : World} {arguments : List String} {options : CheckOptions}
  {configuration : Configuration}

theorem of_prepared? [Limits] (h : prepared? world arguments = some (options, configuration)) :
    readRequest world arguments = .ok (.check options) ∧
      prepare options (world.loadConfiguration options.directory).outcome = .ok configuration := by
  unfold prepared? at h
  split at h
  · rename_i given hRequest
    cases hPrepare : prepare given (world.loadConfiguration given.directory).outcome with
    | error stop =>
        rw [hPrepare] at h
        cases h
    | ok found =>
        rw [hPrepare] at h
        obtain ⟨rfl, rfl⟩ := Prod.mk.inj (Option.some.inj h)
        exact ⟨hRequest, hPrepare⟩
  · cases h

/-- A run that is stopped replies to what stopped it. -/
theorem reply_of_stop [Limits] {mark : String} {stop : CheckStop}
    (hRequest : readRequest world arguments = .ok (.check options))
    (hOutcome : (examine world options).outcome = .error stop) :
    (run world mark arguments).reply = stop.reply world.terminal := by
  unfold run
  rw [hRequest]
  unfold carryOut runCheck
  dsimp only
  rw [hOutcome]

/-- A run reports an error with a wording, and only such an error. -/
theorem reports_ofError_iff {run : ProgramRun} {message? : Option String} {uncaught : Uncaught}
    (h : run.reply = .ofError message? uncaught) :
    (∃ message, message? = some message ∧ Reports run message) ↔
      ∃ message, message? = some message := by
  constructor
  · rintro ⟨message, hMessage, -⟩
    exact ⟨message, hMessage⟩
  · rintro ⟨message, rfl⟩
    exact ⟨message, rfl, h⟩

variable [Limits] (hPrepared : prepared? world arguments = some (options, configuration))

include hPrepared

theorem reply_of_unlisted {mark : String} {stop : CheckStop}
    (hList : (listChanges world options configuration).2 = .error stop) :
    (run world mark arguments).reply = stop.reply world.terminal := by
  obtain ⟨hRequest, hPrepare⟩ := of_prepared? hPrepared
  refine reply_of_stop hRequest ?_
  rw [examine_outcome, hPrepare]
  simp only [bind, Except.bind, hList]

theorem reply_of_unscored {mark : String} {changed : List String} {stop : CheckStop}
    (hList : (listChanges world options configuration).2 = .ok changed)
    (hScored : (examineChanges world configuration changed).2 = .error stop) :
    (run world mark arguments).reply = stop.reply world.terminal := by
  obtain ⟨hRequest, hPrepare⟩ := of_prepared? hPrepared
  refine reply_of_stop hRequest ?_
  rw [examine_outcome, hPrepare]
  simp only [bind, Except.bind, hList, hScored]
  rfl

end Stages

/-! ## Reports -/

/-- A run reports that there is no report exactly if it can look for one and the error
has a wording. -/
theorem reports_of_unread [Limits] {world : World} {mark : String} {arguments : List String}
    {options : CheckOptions} {configuration : Configuration} {changed : List String}
    {error : ReportError}
    (hPrepared : prepared? world arguments = some (options, configuration))
    (hList : (listChanges world options configuration).2 = .ok changed)
    (hReport : world.readReport configuration.reportFile = .error error) :
    (∃ message, error.message? = some message ∧ Reports (run world mark arguments) message) ↔
      world.CanLookFor (reportPlaces configuration) ∧
        ∃ message, error.message? = some message := by
  rw [← exists_reportWarnings_iff]
  cases hWarnings : reportWarnings world configuration with
  | error problem =>
      -- The run ends while it looks for the report, before it reads one.
      have hScored : (examineChanges world configuration changed).2 = .error (.file problem) := by
        unfold examineChanges
        rw [hWarnings]
      refine iff_of_false ?_ ?_
      · rintro ⟨message, -, hReports⟩
        rw [Reports, reply_of_unscored hPrepared hList hScored] at hReports
        cases congrArg Reply.ending hReports
      · rintro ⟨⟨warnings, hOk⟩, -⟩
        cases hOk
  | ok warnings =>
      have hScored : (examineChanges world configuration changed).2 = .error (.report error) := by
        unfold examineChanges
        rw [hWarnings]
        dsimp only
        rw [hReport]
      rw [reports_ofError_iff (reply_of_unscored hPrepared hList hScored)]
      simp

/-- The reading of a report returns it or fails with an error that has a wording,
unless the file is blocked; and a run without a report reports that exactly if the
file is not blocked and it can look for the report. -/
theorem report_failures_reported_iff [Limits] (world : World) :
    (∀ file, Answered ReportError.message? (world.readReport file) ↔ ¬ world.IsBlocked file) ∧
      ∀ mark arguments options configuration changed error,
        prepared? world arguments = some (options, configuration) →
        (listChanges world options configuration).2 = .ok changed →
        world.readReport configuration.reportFile = .error error →
        ((∃ message, error.message? = some message ∧
            Reports (run world mark arguments) message) ↔
          world.CanLookFor (reportPlaces configuration) ∧
            ¬ world.IsBlocked configuration.reportFile) := by
  refine ⟨answered_readReport_iff world, ?_⟩
  intro mark arguments options configuration changed error hPrepared hList hReport
  rw [reports_of_unread hPrepared hList hReport, ← answered_readReport_iff, hReport,
    answered_error_iff]

/-- A world with some files in the current directory, and one changed file on standard
input. -/
def worldOfFiles (files : List (String × FileTree)) : World :=
  { environment := ⟨[]⟩
    files := .directory files
    directory := []
    git := none
    input := encodeUtf8 "Foo.java"
    columns := 80 }

/-- A command line that scores the changed file with that report. -/
def reportArguments : List String :=
  ["check", "--changed-files", "-", "--report", "report.xml"]

/-- Where the report of that command line is looked for. -/
def rootReport : PathName :=
  ⟨"/", ["report.xml"]⟩

/-- A report that is missing is reported. -/
theorem report_failures_reported_of_missing :
    ∃ message, Reports (run (worldOfFiles []) "" reportArguments) message := by
  have hParts : ((prepared? (worldOfFiles []) reportArguments).map fun (options, configuration) =>
      (configuration.reportFile, (listChanges (worldOfFiles []) options configuration).2,
        reportWarnings (worldOfFiles []) configuration)) =
      some (rootReport, .ok ["Foo.java"], .ok []) := by decide +kernel
  have hRead : (worldOfFiles []).read rootReport = .error .missing := by decide +kernel
  obtain ⟨⟨options, configuration⟩, hPrepared, hParts⟩ := Option.map_eq_some_iff.mp hParts
  obtain ⟨hFile, hRest⟩ := Prod.mk.inj hParts
  obtain ⟨hList, hWarnings⟩ := Prod.mk.inj hRest
  have hReport : (worldOfFiles []).readReport configuration.reportFile =
      .error (.unreadable rootReport .missing) := by
    rw [hFile, World.readReport, hRead]
  have hNotBlocked : ¬ (worldOfFiles []).IsBlocked configuration.reportFile := by
    rw [hFile]
    rintro (hZero | ⟨octets, charset, hOctets, -⟩)
    · exact absurd hZero (by decide)
    · rw [hRead] at hOctets
      cases hOctets
  obtain ⟨message, -, hReports⟩ :=
    ((report_failures_reported_iff (worldOfFiles [])).2 "" reportArguments options configuration
      ["Foo.java"] _ hPrepared hList hReport).mpr
      ⟨exists_reportWarnings_iff.mp ⟨[], hWarnings⟩, hNotBlocked⟩
  exact ⟨message, hReports⟩

/-- A report in a character set that nothing is known of. -/
def unusableReport : List (String × FileTree) :=
  [("report.xml", .file (encodeUtf8 "<?xml version='1.0' encoding='none-such'?><report/>"))]

/-- That report has an error without a wording, and the run ends with it. -/
theorem run_ends_with_unusable_report :
    ∃ error, (worldOfFiles unusableReport).readReport rootReport = .error error ∧
      error.message? = none ∧
      (run (worldOfFiles unusableReport) "" reportArguments).reply =
        ⟨"", "", .uncaught (.report error)⟩ := by
  have hBlocked : (worldOfFiles unusableReport).IsBlocked rootReport :=
    .inr ⟨encodeUtf8 "<?xml version='1.0' encoding='none-such'?><report/>", "none-such".toList,
      by decide +kernel, by decide +kernel, Xml.isUnusable_noneSuch⟩
  have hUnanswered : ¬ Answered ReportError.message?
      ((worldOfFiles unusableReport).readReport rootReport) := fun hAnswered =>
    (answered_readReport_iff _ _).mp hAnswered hBlocked
  have hParts : ((prepared? (worldOfFiles unusableReport) reportArguments).map
      fun (options, configuration) =>
        (configuration.reportFile,
          (listChanges (worldOfFiles unusableReport) options configuration).2,
          reportWarnings (worldOfFiles unusableReport) configuration)) =
      some (rootReport, .ok ["Foo.java"], .ok []) := by decide +kernel
  obtain ⟨⟨options, configuration⟩, hPrepared, hParts⟩ := Option.map_eq_some_iff.mp hParts
  obtain ⟨hFile, hRest⟩ := Prod.mk.inj hParts
  obtain ⟨hList, hWarnings⟩ := Prod.mk.inj hRest
  -- That the error has no wording is enough; the document need not be read again for it.
  cases hReport : (worldOfFiles unusableReport).readReport rootReport with
  | ok report => exact absurd (hReport ▸ answered_ok report) hUnanswered
  | error error =>
      rw [hReport, answered_error_iff] at hUnanswered
      have hSilent : error.message? = none := by
        rw [Option.eq_none_iff_forall_ne_some]
        exact fun message hMessage => hUnanswered ⟨message, hMessage⟩
      have hScored : (examineChanges (worldOfFiles unusableReport) configuration
          ["Foo.java"]).2 = .error (.report error) := by
        unfold examineChanges
        rw [hWarnings]
        dsimp only
        rw [hFile, hReport]
      refine ⟨error, rfl, hSilent, ?_⟩
      rw [reply_of_unscored hPrepared hList hScored, CheckStop.reply, hSilent]
      rfl

/-! ## Changes -/

/-- The listing of changed files returns them or fails with an error that has a
wording, unless they are unlistable; and a run that `git` gives no changed files
reports that exactly if they are not unlistable. -/
theorem git_failures_reported_iff [Limits] (world : World) :
    (∀ directory base head,
      Answered DiffError.message? (world.gitChanges directory base head).outcome ↔
        ¬ world.IsUnlistable directory base head) ∧
      ∀ mark arguments options configuration error,
        prepared? world arguments = some (options, configuration) →
        options.changes? = none →
        (world.gitChanges (PathName.ofText configuration.root) configuration.git.baseRef
          configuration.git.headRef).outcome = .error error →
        ((∃ message, error.message? = some message ∧
            Reports (run world mark arguments) message) ↔
          ¬ world.IsUnlistable (PathName.ofText configuration.root) configuration.git.baseRef
            configuration.git.headRef) := by
  refine ⟨answered_gitChanges_iff world, ?_⟩
  intro mark arguments options configuration error hPrepared hGit hError
  have hList : (listChanges world options configuration).2 = .error (.diff error) := by
    unfold listChanges
    rw [hGit]
    dsimp only
    rw [hError]
    rfl
  rw [← answered_gitChanges_iff, hError, answered_error_iff]
  exact reports_ofError_iff (reply_of_unlisted hPrepared hList)

/-- A world in which `git` does the given. -/
def worldOfGit (reply : GitReply) : World :=
  { environment := ⟨[]⟩
    files := .directory []
    directory := []
    git := some reply
    input := []
    columns := 80 }

/-- A command line that lists the files between two refs. -/
def gitArguments : List String :=
  ["check", "--base-ref", "main", "--head-ref", "topic"]

/-- A `git` that fails with a text is reported. -/
theorem git_failures_reported_of_status :
    ∃ message, Reports (run (worldOfGit ⟨encodeUtf8 "fatal", 128⟩) "" gitArguments) message := by
  have hParts : ((prepared? (worldOfGit ⟨encodeUtf8 "fatal", 128⟩) gitArguments).map
      fun (options, configuration) => (options.changes?.isNone, configuration.root,
        configuration.git.baseRef, configuration.git.headRef)) =
      some (true, "/", "main", "topic") := by decide +kernel
  have hError : ((worldOfGit ⟨encodeUtf8 "fatal", 128⟩).gitChanges (PathName.ofText "/") "main"
      "topic").outcome = .error (.failed "main" "topic" 128 "fatal") := by decide +kernel
  obtain ⟨⟨options, configuration⟩, hPrepared, hParts⟩ := Option.map_eq_some_iff.mp hParts
  obtain ⟨hGit, hRest⟩ := Prod.mk.inj hParts
  obtain ⟨hRoot, hRefs⟩ := Prod.mk.inj hRest
  obtain ⟨hBase, hHead⟩ := Prod.mk.inj hRefs
  have hListable : ¬ (worldOfGit ⟨encodeUtf8 "fatal", 128⟩).IsUnlistable (PathName.ofText "/")
      "main" "topic" := by
    rintro ⟨-, -, hZero | ⟨place, entries, reply, -, -, hReply, hPrinted⟩⟩
    · exact absurd hZero (by decide)
    · obtain rfl := Option.some.inj hReply
      exact hPrinted "fatal" rfl
  have hReports := (git_failures_reported_iff (worldOfGit ⟨encodeUtf8 "fatal", 128⟩)).2 ""
    gitArguments options configuration (.failed "main" "topic" 128 "fatal") hPrepared
    (Option.isNone_iff_eq_none.mp hGit)
  rw [hRoot, hBase, hHead] at hReports
  obtain ⟨message, -, hMessage⟩ := (hReports hError).mpr hListable
  exact ⟨message, hMessage⟩

/-- A `git` that succeeds and prints no text has an error without a wording, and the
run ends with it. -/
theorem run_ends_with_undecodable_git :
    ∃ error, ((worldOfGit ⟨[0xff], 0⟩).gitChanges (PathName.ofText "/") "main" "topic").outcome =
        .error error ∧
      error.message? = none ∧
      (run (worldOfGit ⟨[0xff], 0⟩) "" gitArguments).reply = ⟨"", "", .uncaught (.diff error)⟩ :=
  ⟨.undecodable ⟨0xff, 0, 1, .invalidStart⟩, by decide +kernel, rfl, by decide +kernel⟩

end PatchCoverage.CommandLine
