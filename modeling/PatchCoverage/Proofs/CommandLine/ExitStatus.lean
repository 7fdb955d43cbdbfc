import PatchCoverage.CommandLine.Program
import PatchCoverage.Proofs.Publish.Printed
import PatchCoverage.World.Unlimited

namespace PatchCoverage.CommandLine

/-!
# The exit status of `check`

`checkStatus?` is a table of the cases that decide the exit status of a run.
They are tried in order, and it has no status for what no part of the program
answers for.

The main statement is `check_exit_status`: a run that ends with a status at all
ends with the one in the table, and with zero when nothing was scored.  The
proof follows a run through its stages: what a stage stops with has a reply,
and the reply a status.
-/

/-- The exit status that the changed files and the report decide. -/
def scoredStatus? (world : World) (configuration : Configuration) (failsWhenLow : Bool)
    (changed : List String) : Option Nat :=
  match world.readReport configuration.reportFile with
  | .error _ => some 1
  | .ok report =>
      match (configuration.scoringRules.analyze report changed).outcome with
      | .error _ => none
      | .ok result =>
          match result.meetsThreshold with
          | .error _ => none
          | .ok met => if !met && failsWhenLow then some 1 else some 0

/-- The exit status that a configuration without problems decides. -/
def listedStatus? (world : World) (options : CheckOptions) (configuration : Configuration)
    (failsWhenLow : Bool) : Option Nat :=
  match (listChanges world options configuration).2 with
  | .error (.diff _) => some 1
  | .error _ => none
  | .ok changed => scoredStatus? world configuration failsWhenLow changed

/-- The exit status of a run: that of the first case that applies. -/
def checkStatus? [Limits] (world : World) (options : CheckOptions) : Option Nat :=
  match (world.loadConfiguration options.directory).outcome with
  | .error _ => some 1
  | .ok loaded =>
      let configuration := options.configurationOn loaded
      if options.failUnder && options.warnOnly then some 2
      else if configuration.problems options.changes?.isNone ≠ [] then some 2
      else listedStatus? world options configuration (options.failsWhenLow loaded)

/-! ## Replies -/

theorem status_of_ofPrinted {printed : Console.Printed} {complaint : String} {first second : Nat}
    (h : (Reply.ofPrinted printed complaint (.exit first)).ending = .exit second) :
    first = second := by
  unfold Reply.ofPrinted at h
  split at h
  · cases h
  · exact Ending.exit.inj h

theorem status_of_ofError {message? : Option String} {uncaught : Uncaught} {status : Nat}
    (h : (Reply.ofError message? uncaught).ending = .exit status) : status = 1 := by
  cases message? with
  | none => cases h
  | some message => exact (Ending.exit.inj h).symm

theorem status_of_ofLoadError [Limits] {terminal : Console.Terminal} {error : LoadError}
    {status : Nat} (h : (Reply.ofLoadError terminal error).ending = .exit status) : status = 1 := by
  unfold Reply.ofLoadError at h
  cases hMessage : error.message? with
  | none => simp [hMessage] at h
  | some message =>
      rw [hMessage] at h
      exact (status_of_ofPrinted h).symm

/-- The exit status of a run that stops early. -/
def CheckStop.status? : CheckStop → Option Nat
  | load _ => some 1
  | contradiction => some 2
  | invalid _ => some 2
  | diff _ => some 1
  | changeList _ => none
  | file _ => none
  | report _ => some 1
  | arithmetic _ => none

/-- The reply to a stop that ends with a status at all ends with its own. -/
theorem CheckStop.status?_of_reply [Limits] {terminal : Console.Terminal} {stop : CheckStop}
    {status : Nat} (h : (stop.reply terminal).ending = .exit status) :
    stop.status? = some status := by
  cases stop with
  | load error => rw [status_of_ofLoadError h]; rfl
  | contradiction => exact congrArg some (Ending.exit.inj h)
  | invalid problems => exact congrArg some (status_of_ofPrinted h)
  | diff error => rw [status_of_ofError h]; rfl
  | report error => rw [status_of_ofError h]; rfl
  | changeList fault => cases h
  | file problem => cases h
  | arithmetic error => cases h

/-- Whether a run with the given outcome, if it ends with a status, ends with
this one. -/
def Decides : Except CheckStop (Configuration × ChangeCoverage) → Nat → Prop
  | .error stop, status => stop.status? = some status
  | .ok (configuration, result), status => endingOf configuration result = .exit status

/-- A run of the command ends with the status of what stopped it, or of its
outcome. -/
theorem decides_of_runCheck [Limits] {world : World} {mark : String} {options : CheckOptions}
    {status : Nat} (h : (runCheck world mark options).reply.ending = .exit status) :
    Decides (examine world options).outcome status := by
  unfold runCheck at h
  cases hOutcome : (examine world options).outcome with
  | error stop =>
      simp only [hOutcome] at h
      exact CheckStop.status?_of_reply h
  | ok outcome =>
      obtain ⟨configuration, result⟩ := outcome
      simp only [hOutcome] at h
      split at h
      · cases h
      · exact h

/-! ## Statuses of the stages -/

/-! ### Scoring -/

theorem scoredStatus?_of_decides {world : World} {configuration : Configuration}
    {changed : List String} {failsWhenLow : Bool} {status : Nat}
    (hFails : configuration.coverage.failUnderThreshold = failsWhenLow)
    (h : Decides ((examineChanges world configuration changed).2.map fun result =>
      (configuration, result)) status) :
    scoredStatus? world configuration failsWhenLow changed = some status := by
  unfold examineChanges at h
  unfold scoredStatus?
  -- A fault of the file system while warnings are collected has no status, so they exist.
  cases hWarnings : reportWarnings world configuration with
  | error problem => simp [hWarnings, Except.map, Decides, CheckStop.status?] at h
  | ok warnings =>
      cases hRead : world.readReport configuration.reportFile with
      | error error => simpa [hWarnings, hRead, Except.map, Decides, CheckStop.status?] using h
      | ok report =>
          simp only [hWarnings, hRead] at h ⊢
          cases hOutcome : (configuration.scoringRules.analyze report changed).outcome with
          | error error => simp [hOutcome, Except.map, Decides, CheckStop.status?] at h
          | ok result =>
              simp only [hOutcome, mapError_ok, Except.map, Decides, endingOf] at h ⊢
              cases hMet : result.meetsThreshold with
              | error error => simp [hMet] at h
              | ok met =>
                  simp only [hMet, hFails, failureStatus] at h ⊢
                  rw [← Ending.exit.inj h]
                  split <;> rfl

/-! ### Listing the changed files -/

/-- Without a list of changed files only `git` gives a run a status. -/
theorem listChanges_error {world : World} {options : CheckOptions}
    {configuration : Configuration} {stop : CheckStop} {status : Nat}
    (hList : (listChanges world options configuration).2 = .error stop)
    (hStatus : stop.status? = some status) : ∃ error, stop = .diff error ∧ status = 1 := by
  unfold listChanges at hList
  cases hGiven : options.changes? with
  | none =>
      simp only [hGiven] at hList
      generalize World.gitChanges world (PathName.ofText configuration.root)
        configuration.git.baseRef configuration.git.headRef = diff at hList
      cases hDiff : diff.outcome with
      | ok changed => simp [hDiff] at hList
      | error error =>
          simp only [hDiff, mapError_error, Except.error.injEq] at hList
          subst hList
          exact ⟨error, rfl, (Option.some.inj hStatus).symm⟩
  | some list =>
      -- What is wrong with a given list is never reported, so it has no status.
      simp only [hGiven, ChangeList.paths, bind, Except.bind] at hList
      cases hOctets : list.octets world with
      | error problem =>
          simp only [hOctets, mapError_error, Except.error.injEq] at hList
          subst hList
          cases hStatus
      | ok octets =>
          cases hText : decodeText octets with
          | error fault =>
              simp only [hOctets, hText, mapError_ok, mapError_error, Except.error.injEq] at hList
              subst hList
              cases hStatus
          | ok text => simp [hOctets, hText, pure, Except.pure] at hList

theorem listedStatus?_of_decides {world : World} {options : CheckOptions}
    {configuration : Configuration} {failsWhenLow : Bool} {status : Nat}
    (hFails : configuration.coverage.failUnderThreshold = failsWhenLow)
    (h : Decides (do
      let changed ← (listChanges world options configuration).2
      (examineChanges world configuration changed).2.map fun result =>
        (configuration, result)) status) :
    listedStatus? world options configuration failsWhenLow = some status := by
  unfold listedStatus?
  cases hList : (listChanges world options configuration).2 with
  | error stop =>
      rw [hList] at h
      obtain ⟨error, rfl, rfl⟩ := listChanges_error hList h
      rfl
  | ok changed =>
      rw [hList] at h
      exact scoredStatus?_of_decides hFails h

/-! ### The configuration -/

theorem checkStatus?_of_decides [Limits] {world : World} {options : CheckOptions} {status : Nat}
    (h : Decides (examine world options).outcome status) :
    checkStatus? world options = some status := by
  rw [examine_outcome] at h
  unfold checkStatus?
  cases hLoad : (world.loadConfiguration options.directory).outcome with
  | error error =>
      rw [hLoad, prepare_of_error] at h
      exact h
  | ok loaded =>
      rw [hLoad] at h
      -- The options are compared with each other before the configuration is looked at.
      cases hBoth : options.failUnder && options.warnOnly with
      | true =>
          rw [prepare_of_contradiction hBoth] at h
          exact h
      | false =>
          rw [prepare_of_consistent hBoth] at h
          by_cases hValid :
              (options.configurationOn loaded).problems options.changes?.isNone = []
          · rw [if_pos hValid] at h
            simp only [hValid, ne_eq, not_true_eq_false, if_false, Bool.false_eq_true]
            exact listedStatus?_of_decides (options.failUnderThreshold_configurationOn loaded) h
          · rw [if_neg hValid] at h
            simp only [hValid, ne_eq, not_false_eq_true, if_true, Bool.false_eq_true, if_false]
            exact h

/-! ## The exit status -/

/-- A run that scored nothing and prints all it has ends with zero. -/
theorem endingOf_of_no_entries {configuration : Configuration} {result : ChangeCoverage}
    (hEntries : result.entries = []) : endingOf configuration result = .exit 0 := by
  simp [endingOf, ChangeCoverage.meetsThreshold_of_no_entries hEntries]

/-- The exit status of `check`.  A run that ends with a status ends with the one
of the first case that applies, and with zero if it scored but had nothing to
score. -/
theorem check_exit_status [Limits] {world : World} {mark : String} {arguments : List String}
    {options : CheckOptions} {status : Nat}
    (hRequest : readRequest world arguments = .ok (.check options))
    (hEnd : (run world mark arguments).reply.ending = .exit status) :
    checkStatus? world options = some status ∧
      ∀ configuration result,
        (examine world options).outcome = .ok (configuration, result) →
          result.entries = [] → status = 0 := by
  have hRun : run world mark arguments = runCheck world mark options := by
    simp [run, hRequest, carryOut]
  rw [hRun] at hEnd
  have hDecides := decides_of_runCheck hEnd
  refine ⟨checkStatus?_of_decides hDecides, ?_⟩
  intro configuration result hOutcome hEntries
  rw [hOutcome] at hDecides
  have hEnding : Ending.exit 0 = .exit status :=
    (endingOf_of_no_entries hEntries).symm.trans hDecides
  exact (Ending.exit.inj hEnding).symm

/-- A world with a report in the current directory of one class, a quarter of which is
covered, and the file of that class on standard input. -/
def worldOfLowAverage : World :=
  { environment := ⟨[]⟩
    files := .directory [("report.xml", .file (encodeUtf8
      ("<report><package name='p'><class name='p/A' sourcefilename='A.java'>" ++
        "<counter type='INSTRUCTION' missed='3' covered='1'/></class></package></report>")))]
    directory := []
    git := none
    input := encodeUtf8 "m/s/p/A.java"
    columns := 80 }

/-- A command line that scores the changed file with that report. -/
def lowAverageArguments : List String :=
  ["check", "--changed-files", "-", "--report", "report.xml", "--module-path", "m",
    "--source-root", "s", "--json-output"]

/-- In that world a run scores the file and ends with one, since it falls below the
threshold. -/
theorem check_exit_status_of_low_average :
    ∃ options configuration result,
      readRequest worldOfLowAverage lowAverageArguments = .ok (.check options) ∧
        (examine worldOfLowAverage options).outcome = .ok (configuration, result) ∧
        result.entries.map ScoredFile.meetsThreshold = [false] ∧
        (run worldOfLowAverage "" lowAverageArguments).reply.ending = .exit 1 ∧
        checkStatus? worldOfLowAverage options = some 1 := by
  let test := fun scored : Scored =>
    scored.result.entries.map ScoredFile.meetsThreshold == [false] &&
      JsonReport.countsFit scored.result &&
      endingOf scored.configuration scored.result == .exit 1
  obtain ⟨options, configuration, result, hRequest, hOutcome, hTest⟩ := exists_scored? test
    (by decide +kernel : (scored? worldOfLowAverage lowAverageArguments).any test = true)
  simp only [test, Bool.and_eq_true, beq_iff_eq] at hTest
  obtain ⟨⟨hEntries, hFit⟩, hEnding⟩ := hTest
  have hEnd : (run worldOfLowAverage "" lowAverageArguments).reply.ending = .exit 1 := by
    have hNoFile (enabled : Bool) (name : String) :
        stepFile? worldOfLowAverage enabled name = none := by
      cases enabled <;> rfl
    have hFiles : (publishFiles worldOfLowAverage "" configuration result).error? = none := by
      simp only [publishFiles, publishOutputs, publishSummary, hNoFile, Publication.andThen]
    obtain ⟨report, lines, -, -, hRun⟩ :=
      runCheck_eq_of_printed "" (error?_publishPrinted_ne Limits.prints_unlimited _ _ _ _) hOutcome
        fun _ => hFit
    rw [run_of_check hRequest, hRun, hFiles]
    exact hEnding
  exact ⟨options, configuration, result, hRequest, hOutcome, hEntries, hEnd,
    (check_exit_status hRequest hEnd).1⟩

end PatchCoverage.CommandLine
