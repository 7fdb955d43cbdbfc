import PatchCoverage.Proofs.Change.Refs
import PatchCoverage.Proofs.CommandLine.ExitStatus
import PatchCoverage.Proofs.Failure

namespace PatchCoverage.CommandLine

/-!
# When a run starts `git`

A run of `check` starts `git` only after all that can be checked without it: the
configuration is there, the options do not contradict each other, nothing is wrong
with the configuration, and both refs are in the grammar.  Then it starts it once,
for the one range between the refs.

The main statement is `git_started_only_with_refs`.
-/

/-- A run gets past loading, past its two options on failing and past validation, with
the given configuration. -/
structure CheckOptions.IsReady [Limits] (options : CheckOptions) (world : World)
    (configuration : Configuration) : Prop where
  loaded : ∃ loaded, (world.loadConfiguration options.directory).outcome = .ok loaded ∧
    configuration = options.configurationOn loaded
  consistent : ¬ (options.failUnder = true ∧ options.warnOnly = true)
  valid : configuration.problems options.changes?.isNone = []

/-- An examination in which `git` was started, or could not be. -/
def Examination.AttemptsStart (examination : Examination) : Prop :=
  examination.start?.isSome = true ∨
    ∃ error, examination.outcome = .error (.diff error) ∧ error.IsStartFailure

section Stages

variable {world : World} {options : CheckOptions} {configuration : Configuration}

theorem prepare_eq_ok_iff_isReady [Limits] :
    prepare options (world.loadConfiguration options.directory).outcome = .ok configuration ↔
      options.IsReady world configuration := by
  have hFlags : ¬ (options.failUnder = true ∧ options.warnOnly = true) ↔
      (options.failUnder && options.warnOnly) = false := by
    rw [← Bool.and_eq_true, Bool.not_eq_true]
  cases hLoad : (world.loadConfiguration options.directory).outcome with
  | error error =>
      rw [prepare_of_error]
      refine iff_of_false nofun ?_
      rintro ⟨⟨loaded, hLoaded, -⟩, -, -⟩
      rw [hLoad] at hLoaded
      cases hLoaded
  | ok loaded =>
      cases hBoth : options.failUnder && options.warnOnly with
      | true =>
          rw [prepare_of_contradiction hBoth]
          refine iff_of_false nofun ?_
          rintro ⟨-, hConsistent, -⟩
          rw [hFlags, hBoth] at hConsistent
          cases hConsistent
      | false =>
          rw [prepare_of_consistent hBoth]
          constructor
          · intro h
            split at h
            · next hValid =>
              obtain rfl := Except.ok.inj h
              exact ⟨⟨loaded, hLoad, rfl⟩, hFlags.mpr hBoth, hValid⟩
            · cases h
          · rintro ⟨⟨found, hFound, rfl⟩, -, hValid⟩
            obtain rfl := Except.ok.inj (hLoad.symm.trans hFound)
            rw [if_pos hValid]

/-- Preparing fails in other ways than `git`. -/
theorem prepare_ne_diff (load : Except LoadError Configuration) (error : DiffError) :
    prepare options load ≠ .error (.diff error) := by
  cases load with
  | error fault => simp [prepare_of_error]
  | ok loaded =>
      cases hBoth : options.failUnder && options.warnOnly with
      | true => simp [prepare_of_contradiction hBoth]
      | false =>
          rw [prepare_of_consistent hBoth]
          split <;> simp

/-- Reading a given list fails in other ways than `git`. -/
theorem paths_ne_diff (list : ChangeList) (error : DiffError) :
    list.paths world ≠ .error (.diff error) := by
  unfold ChangeList.paths
  refine bind_ne_error ?_ fun octets => bind_ne_error ?_ fun text => nofun
  · cases list.octets world <;> simp
  · cases decodeText octets <;> simp

/-- So does scoring. -/
theorem examineChanges_ne_diff (changed : List String) (error : DiffError) :
    (examineChanges world configuration changed).2 ≠ .error (.diff error) := by
  unfold examineChanges
  cases reportWarnings world configuration with
  | error problem => simp
  | ok warnings =>
      dsimp only
      cases world.readReport configuration.reportFile with
      | error error => simp
      | ok report =>
          dsimp only
          cases (configuration.scoringRules.analyze report changed).outcome <;> simp

theorem start?_runCheck [Limits] (mark : String) :
    (runCheck world mark options).start? = (examine world options).start? := by
  unfold runCheck
  dsimp only
  cases (examine world options).outcome <;> rfl

/-- A run that does not get ready starts nothing. -/
theorem exists_isReady_of_attemptsStart [Limits] (h : (examine world options).AttemptsStart) :
    ∃ configuration, options.IsReady world configuration := by
  cases hPrepare : prepare options (world.loadConfiguration options.directory).outcome with
  | ok configuration => exact ⟨configuration, prepare_eq_ok_iff_isReady.mp hPrepare⟩
  | error stop =>
      rcases h with hStart | ⟨error, hError, -⟩
      · rw [examine, hPrepare] at hStart
        cases hStart
      · rw [examine_outcome, hPrepare] at hError
        obtain rfl : stop = .diff error := Except.error.inj hError
        exact absurd hPrepare (prepare_ne_diff _ error)

section Ready

variable [Limits] (hReady : options.IsReady world configuration)

include hReady

theorem start?_examine :
    (examine world options).start? = (listChanges world options configuration).1 := by
  rw [examine, prepare_eq_ok_iff_isReady.mpr hReady]
  dsimp only
  rcases listChanges world options configuration with ⟨start?, stop | changed⟩ <;> rfl

/-- A run that is ready ends with a failure of `git` if its changes are not listed for
that reason. -/
theorem outcome_eq_diff_iff (error : DiffError) :
    (examine world options).outcome = .error (.diff error) ↔
      (listChanges world options configuration).2 = .error (.diff error) := by
  have hScored (changed : List String) :
      (examineChanges world configuration changed).2.map (fun result => (configuration, result)) ≠
        .error (.diff error) := by
    have hExamined : (examineChanges world configuration changed).2 ≠ .error (.diff error) :=
      examineChanges_ne_diff changed error
    generalize (examineChanges world configuration changed).2 = scored at hExamined ⊢
    cases scored with
    | error stop => simpa [Except.map] using hExamined
    | ok result => simp [Except.map]
  rw [examine_outcome, prepare_eq_ok_iff_isReady.mpr hReady]
  simp only [bind, Except.bind]
  cases (listChanges world options configuration).2 with
  | error stop => simp
  | ok changed => exact iff_of_false (hScored changed) nofun

/-- A run that is given its changed files starts nothing; any other one asks `git`. -/
theorem attemptsStart_examine_iff :
    (examine world options).AttemptsStart ↔ options.changes? = none ∧
      (world.gitChanges (PathName.ofText configuration.root) configuration.git.baseRef
        configuration.git.headRef).AttemptsStart := by
  unfold Examination.AttemptsStart DiffRun.AttemptsStart
  rw [start?_examine hReady]
  simp only [outcome_eq_diff_iff hReady]
  unfold listChanges
  cases options.changes? with
  | some list => simp [paths_ne_diff]
  | none =>
      dsimp only
      cases (world.gitChanges (PathName.ofText configuration.root) configuration.git.baseRef
        configuration.git.headRef).outcome <;> simp

end Ready

end Stages

/-- A run asks `git` for changes exactly if it gets past all other checks, is not given
its changed files, and both refs are in the grammar.  It then starts `git` once, with the
range between the refs as its last argument, if `git` can be started there; that argument
is safe.  With a ref outside the grammar nothing is started, by whatever asks for
changes. -/
theorem git_started_only_with_refs [Limits] (world : World) (mark : String)
    (options : CheckOptions) :
    ((examine world options).AttemptsStart ↔
      ∃ configuration, options.IsReady world configuration ∧ options.changes? = none ∧
        IsRef configuration.git.baseRef ∧ IsRef configuration.git.headRef) ∧
    (∀ configuration, options.IsReady world configuration →
      (examine world options).AttemptsStart →
      IsSafeArgument (configuration.git.baseRef ++ "..." ++ configuration.git.headRef) ∧
      (world.CanStartGit (PathName.ofText configuration.root) → ∃ place,
        (runCheck world mark options).start? = some ⟨place, ["diff", "--name-only",
          configuration.git.baseRef ++ "..." ++ configuration.git.headRef]⟩) ∧
      (¬ world.CanStartGit (PathName.ofText configuration.root) →
        (runCheck world mark options).start? = none)) ∧
    ∀ directory base head, ¬ (IsRef base ∧ IsRef head) →
      ∃ problem, world.gitChanges directory base head = ⟨none, .error (.badRef problem)⟩ := by
  refine ⟨⟨?_, ?_⟩, ?_, fun directory base head => world.gitChanges_of_not_isRef directory⟩
  · intro h
    obtain ⟨configuration, hReady⟩ := exists_isReady_of_attemptsStart h
    obtain ⟨hAsked, hAttempt⟩ := (attemptsStart_examine_iff hReady).mp h
    exact ⟨configuration, hReady, hAsked,
      (world.attemptsStart_gitChanges_iff _ _ _).mp hAttempt⟩
  · rintro ⟨configuration, hReady, hAsked, hRefs⟩
    exact (attemptsStart_examine_iff hReady).mpr
      ⟨hAsked, (world.attemptsStart_gitChanges_iff _ _ _).mpr hRefs⟩
  · intro configuration hReady h
    obtain ⟨hAsked, hAttempt⟩ := (attemptsStart_examine_iff hReady).mp h
    obtain ⟨hBase, hHead⟩ := (world.attemptsStart_gitChanges_iff _ _ _).mp hAttempt
    have hStart : (runCheck world mark options).start? =
        (world.gitChanges (PathName.ofText configuration.root) configuration.git.baseRef
          configuration.git.headRef).start? := by
      rw [start?_runCheck, start?_examine hReady, listChanges, hAsked]
    refine ⟨isSafeArgument_refRange hBase hHead, ?_⟩
    rw [hStart]
    rcases world.start?_gitChanges_of_isRef (PathName.ofText configuration.root) hBase hHead with
      ⟨place, reply, hRun, hCan⟩ | ⟨error, hRun, -, hCannot⟩
    · exact ⟨fun _ => ⟨place, by rw [hRun]⟩, fun hCannot => absurd hCan hCannot⟩
    · exact ⟨fun hCan => absurd hCan hCannot, fun _ => by rw [hRun]⟩

/-- An empty repository, and a `git` that prints nothing. -/
def worldOfSilentGit : World :=
  { environment := ⟨[]⟩
    files := .directory []
    directory := []
    git := some ⟨[], 0⟩
    input := []
    columns := 80 }

/-- The options of a run that compares two branches. -/
def branchOptions : CheckOptions :=
  { directory := .ofText "/"
    overrides := { baseRef := some "main", headRef := some "topic" }
    failUnder := false
    warnOnly := false
    changes? := none
    asJson := false
    noSetOutput := false }

/-- There the run starts `git`, with the range between the branches. -/
theorem git_started_for_branches :
    ∃ place, (runCheck worldOfSilentGit "" branchOptions).start? =
      some ⟨place, ["diff", "--name-only", "main" ++ "..." ++ "topic"]⟩ := by
  have hParts : (((prepare branchOptions
      (worldOfSilentGit.loadConfiguration branchOptions.directory).outcome).map
        fun configuration => (configuration.root, configuration.git.baseRef,
          configuration.git.headRef)).toOption) = some ("/", "main", "topic") := by
    decide +kernel
  obtain ⟨configuration, hPrepare, hParts⟩ := exists_of_toOption_map hParts
  obtain ⟨hRoot, hRefs⟩ := Prod.mk.inj hParts
  obtain ⟨hBase, hHead⟩ := Prod.mk.inj hRefs
  have hReady := prepare_eq_ok_iff_isReady.mp hPrepare
  obtain ⟨hAttempt, hStarted, -⟩ := git_started_only_with_refs worldOfSilentGit "" branchOptions
  have hMain : IsRef configuration.git.baseRef := by
    rw [hBase, ← RefProblem.of?_eq_none_iff]
    decide
  have hTopic : IsRef configuration.git.headRef := by
    rw [hHead, ← RefProblem.of?_eq_none_iff]
    decide
  have hCan : worldOfSilentGit.CanStartGit (PathName.ofText configuration.root) := by
    rw [hRoot]
    exact ⟨rfl, ⟨[], .directory [], []⟩, [], rfl, rfl⟩
  obtain ⟨-, hStart, -⟩ := hStarted configuration hReady
    (hAttempt.mpr ⟨configuration, hReady, rfl, hMain, hTopic⟩)
  rw [hBase, hHead] at hStart
  exact hStart hCan

end PatchCoverage.CommandLine
